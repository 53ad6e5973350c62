import Telemetry.Batch.Trial

set_option autoImplicit false

/-! # Calls that are held up on the way

A trial goes through the attempts of a retrying exporter by itself, since each of them may be held
up between its two halves. One round of its loop (`proceed_send`) is an attempt of the retrying
exporter that has been begun before. So a call that nothing holds up is a call on the retrying
exporter, and a call that was held up and is let go ends as if nothing had held it up. -/

namespace Telemetry.Batch.Trial

variable {α : Type}

/-! ## Halves of an attempt -/

/-- The first half of an attempt: the scripted exporter has the batch. -/
def entered (c : RetryConfig) (retry : Nat) (batch : List α) (s : Retrying (Script α)) :
    Retrying (Script α) :=
  let s := s.prepare c (Script.exporter α) retry
  { s with inner := s.inner.enter (.send batch) }

/-- The second half: the scripted exporter answers, and a failure is reported. -/
def concluded (retry : Nat) (batch : List α) (s : Retrying (Script α)) :
    Call (Retrying (Script α)) :=
  let (o, inner) := s.inner.leave (.send batch)
  let s := { s with inner := inner }
  match o with
  | .panicked p => ⟨.panicked p, [], s⟩
  | .returned r =>
    match Retrying.conclude (Script.exporter α) retry r s with
    | (.ok events, s) => ⟨.returned r, events, s⟩
    | (.error p, s) => ⟨.panicked p, [], s⟩

theorem concluded_entered (c : RetryConfig) (retry : Nat) (batch : List α)
    (s : Retrying (Script α)) :
    concluded retry batch (entered c retry batch s)
      = Retrying.attempt c (Script.exporter α) retry batch s := by
  generalize prepared : s.prepare c (Script.exporter α) retry = s'
  obtain ⟨inner, retries, recovered⟩ := s'
  have whole : (Script.exporter α).call (.send batch) inner
      = ⟨((inner.enter (.send batch)).leave (.send batch)).1, [],
        ((inner.enter (.send batch)).leave (.send batch)).2⟩ :=
    rfl
  unfold concluded entered Retrying.attempt
  simp only [prepared, whole]
  cases ((inner.enter (.send batch)).leave (.send batch)).1 with
  | panicked p => rfl
  | returned r =>
      simp only
      generalize Retrying.conclude (Script.exporter α) retry r _ = told
      obtain ⟨told | told, s'⟩ := told
      · rfl
      · rfl

variable {c : RetryConfig} {batch : List α} {t : Trial α} {s : Retrying (Script α)}

theorem exporter_enter (retries : t.retries = some c) (retry left : Nat) :
    (t.enter ⟨.send batch, retry, left⟩).exporter = entered c retry batch t.exporter := by
  simp only [enter, retries, entered]

theorem parked_enter {a : Attempt α} (free : t.held.contains a.request.kind = false) :
    (t.enter a).parked = none := by
  simp only [enter, free]
  rfl

/-! ## Rounds -/

/-- One round is the second half of an attempt, and the first half of the next one. -/
theorem proceed_send (retries : t.retries = some c) (left retry : Nat) :
    proceed (.send batch) left retry t =
      let a := concluded retry batch t.exporter
      let t := { t with exporter := a.state, workerEvents := t.workerEvents ++ a.events }
      match a.outcome with
      | .panicked p => t.finish (.panicked p)
      | .returned r =>
        if Retrying.isFinal r then t.finish (.returned r)
        else
          match left with
          | 0 => t.finish (.returned (Retrying.exhausted c))
          | left + 1 =>
            let t := t.enter ⟨.send batch, retry + 1, left⟩
            if t.parked.isSome then t else proceed (.send batch) left (retry + 1) t := by
  rw [proceed.eq_def, concluded]
  cases answer : t.exporter.inner.leave (.send batch) with
  | mk o inner =>
      simp only [answer, retries]
      cases o with
      | panicked p => simp only [List.append_nil]
      | returned r =>
          cases told : Retrying.conclude (Script.exporter α) retry r
            { t.exporter with inner := inner } with
          | mk told' s =>
            cases told' with
            | error p => simp only [told, List.append_nil]
            | ok events =>
                cases left with
                | zero => simp only [told]
                | succ left => simp only [told]

/-- A call without retries has one round. -/
theorem proceed_once {request : Request α} (once : t.retries = none ∨ request.kind ≠ .send)
    (left retry : Nat) :
    proceed request left retry t =
      { t with exporter := { t.exporter with inner := (t.exporter.inner.leave request).2 } }.finish
        (t.exporter.inner.leave request).1 := by
  rw [proceed.eq_def]
  rcases once with none | other
  · simp only [none]
  · cases request with
    | send batch => exact absurd rfl other
    | flush limit | close limit =>
        cases retries : t.retries with
        | none => simp only [retries]
        | some c => simp only [retries]

/-! ## Calls that nothing holds up -/

/-- The trial behind a call that left the exporter like this. -/
def answered (t : Trial α) (a : Call (Retrying (Script α))) : Trial α :=
  { t with exporter := a.state, workerEvents := t.workerEvents ++ a.events }.finish a.outcome

theorem answered_enter (first rest : Call (Retrying (Script α))) (a : Attempt α) :
    ({ t with exporter := first.state, workerEvents := t.workerEvents ++ first.events }.enter
      a).answered rest = t.answered { rest with events := first.events ++ rest.events } := by
  simp only [answered, finish, enter, List.append_assoc]

/-- An attempt that has been begun and those that may follow it. -/
theorem proceed_eq_attempts (retries : t.retries = some c)
    (free : t.held.contains .send = false) {left retry : Nat}
    (begun : t.exporter = entered c retry batch s) :
    proceed (.send batch) left retry t
      = t.answered (Retrying.attempts c (Script.exporter α) batch left retry s) := by
  fun_induction Retrying.attempts c (Script.exporter α) batch left retry s generalizing t with
  | case1 left retry s a p =>
      rename_i panicked
      have round : concluded retry batch t.exporter = a := by rw [begun, concluded_entered]
      rw [proceed_send retries, round]
      simp only [panicked, answered]
  | case2 left retry s a r =>
      rename_i returned final
      have round : concluded retry batch t.exporter = a := by rw [begun, concluded_entered]
      rw [proceed_send retries, round]
      simp only [returned, final, answered, if_true]
  | case3 retry s a r =>
      rename_i returned notFinal
      have round : concluded retry batch t.exporter = a := by rw [begun, concluded_entered]
      rw [proceed_send retries, round]
      simp only [returned, if_neg notFinal, answered]
  | case4 retry s a r =>
      rename_i returned notFinal left rest ih
      have round : concluded retry batch t.exporter = a := by rw [begun, concluded_entered]
      obtain ⟨u, behind⟩ : ∃ u : Trial α,
          u = { t with exporter := a.state, workerEvents := t.workerEvents ++ a.events } :=
        ⟨_, rfl⟩
      have kept : u.retries = some c := by rw [behind]; exact retries
      have stillFree : u.held.contains .send = false := by rw [behind]; exact free
      have next : (u.enter ⟨.send batch, retry + 1, left⟩).exporter
          = entered c (retry + 1) batch a.state := by
        rw [exporter_enter kept, behind]
      have goesOn : (u.enter ⟨.send batch, retry + 1, left⟩).parked = none :=
        parked_enter stillFree
      rw [proceed_send retries, round]
      simp only [returned, if_neg notFinal, ← behind, goesOn]
      refine (ih (t := u.enter ⟨.send batch, retry + 1, left⟩) kept stillFree next).trans ?_
      rw [behind]
      exact answered_enter a rest _

/-- A call that goes straight through to the scripted exporter. -/
theorem proceed_eq_call {request : Request α} (once : t.retries = none ∨ request.kind ≠ .send)
    (left : Nat) :
    proceed request left 0 (t.enter ⟨request, 0, left⟩) =
      t.answered ⟨(Script.call request t.exporter.inner).outcome, [],
        { t.exporter with inner := (Script.call request t.exporter.inner).state }⟩ := by
  have straight : (t.enter ⟨request, 0, left⟩).exporter
      = { t.exporter with inner := t.exporter.inner.enter request } := by
    unfold enter
    rcases once with none | other
    · simp only [none]
    · cases request with
      | send batch => exact absurd rfl other
      | flush limit | close limit =>
          cases t.retries with
          | none => rfl
          | some c => rfl
  rw [proceed_once (t := t.enter ⟨request, 0, left⟩) once, straight]
  simp only [answered, List.append_nil]
  rfl

/-- What the retrying exporter, or the scripted one alone, answers to a request. -/
def reply (t : Trial α) (request : Request α) : Call (Retrying (Script α)) :=
  match t.retries with
  | some c => Retrying.call c (Script.exporter α) request t.exporter
  | none =>
    let inner := Script.call request t.exporter.inner
    { inner with state := { t.exporter with inner := inner.state } }

/-- How many attempts may follow the first one. -/
def allowed (t : Trial α) : Nat :=
  match t.retries with
  | some c => c.maxRetries.toNat
  | none => 0

theorem call_eq (t : Trial α) (request : Request α) :
    t.call request =
      if (t.enter ⟨request, 0, t.allowed⟩).parked.isSome then t.enter ⟨request, 0, t.allowed⟩
      else proceed request t.allowed 0 (t.enter ⟨request, 0, t.allowed⟩) :=
  rfl

/-- **A call that nothing holds up is a call on the retrying exporter.** -/
theorem call_of_free {request : Request α} (free : t.held.contains request.kind = false) :
    t.call request = t.answered (t.reply request) := by
  have goesOn : (t.enter ⟨request, 0, t.allowed⟩).parked = none := parked_enter free
  have through : t.call request
      = proceed request t.allowed 0 (t.enter ⟨request, 0, t.allowed⟩) := by
    rw [call_eq, goesOn]
    rfl
  rw [through, reply]
  cases retries : t.retries with
  | none => exact proceed_eq_call (.inl retries) _
  | some c =>
      cases request with
      | send batch =>
          have begun : (t.enter ⟨.send batch, 0, t.allowed⟩).exporter
              = entered c 0 batch t.exporter :=
            exporter_enter retries ..
          have number : t.allowed = c.maxRetries.toNat := by rw [allowed, retries]
          rw [proceed_eq_attempts (t := t.enter ⟨.send batch, 0, t.allowed⟩) retries free begun,
            number]
          rfl
      | flush limit | close limit => exact proceed_eq_call (.inr (by simp [Request.kind])) _

/-! ## Calls that are let go -/

/-- The trial with nothing held up. -/
def opened (t : Trial α) : Trial α :=
  { t with parked := none, held := [] }

theorem parked_finish (o : Outcome) : (t.finish o).parked = none := by
  unfold finish apply
  cases ({ t with parked := none } : Trial α).batch.step (.ended o) with
  | none => rfl
  | some behind => rfl

theorem parked_enter_of_isSome {a : Attempt α} (held : (t.enter a).parked.isSome = true) :
    (t.enter a).parked = some a := by
  unfold enter at held ⊢
  by_cases contained : t.held.contains a.request.kind = true
  · exact if_pos contained
  · simp only [if_neg contained] at held
    cases held

/-- One round ends the call, or begins the next attempt, which may be held up. If nothing holds it
up, then it goes on. -/
theorem proceed_send_cases (retries : t.retries = some c) (left retry : Nat) :
    (∃ u o, proceed (.send batch) left retry t = finish u o) ∨
    ∃ (u : Trial α) (more : Nat), left = more + 1 ∧ u.retries = some c ∧
      proceed (.send batch) left retry t =
        (if (u.enter ⟨.send batch, retry + 1, more⟩).parked.isSome
          then u.enter ⟨.send batch, retry + 1, more⟩
          else proceed (.send batch) more (retry + 1) (u.enter ⟨.send batch, retry + 1, more⟩)) ∧
      proceed (.send batch) left retry t.opened =
        proceed (.send batch) more (retry + 1) (u.enter ⟨.send batch, retry + 1, more⟩).opened := by
  have same : t.opened.exporter = t.exporter := rfl
  rw [proceed_send retries, proceed_send (t := t.opened) retries, same]
  obtain ⟨o, events, state⟩ := concluded retry batch t.exporter
  cases o with
  | panicked p => exact .inl ⟨_, _, rfl⟩
  | returned r =>
      by_cases final : Retrying.isFinal r = true
      · simp only [final, if_true]
        exact .inl ⟨_, _, rfl⟩
      · simp only [if_neg final]
        cases left with
        | zero => exact .inl ⟨_, _, rfl⟩
        | succ more =>
            let u := { t with exporter := state, workerEvents := t.workerEvents ++ events }
            exact .inr ⟨u, more, rfl, retries, rfl, rfl⟩

/-- Whatever attempt is held up, letting it go leads to where all attempts lead at once. -/
theorem proceed_send_of_parked (retries : t.retries = some c) {left retry : Nat} {a : Attempt α}
    (parked : (proceed (.send batch) left retry t).parked = some a) :
    proceed a.request a.left a.retry (proceed (.send batch) left retry t).opened
      = proceed (.send batch) left retry t.opened := by
  induction left generalizing retry t with
  | zero =>
      rcases proceed_send_cases retries 0 retry with ⟨u, o, ends⟩ | ⟨u, more, past, -⟩
      · rw [ends, parked_finish] at parked
        cases parked
      · cases past
  | succ left ih =>
      rcases proceed_send_cases retries (left + 1) retry with
        ⟨u, o, ends⟩ | ⟨u, more, same, kept, round, free⟩
      · rw [ends, parked_finish] at parked
        cases parked
      obtain rfl := Nat.succ.inj same
      rw [round] at parked ⊢
      rw [free]
      by_cases held : (u.enter ⟨.send batch, retry + 1, left⟩).parked.isSome = true
      · rw [if_pos held, parked_enter_of_isSome held] at parked
        cases parked
        rw [if_pos held]
      · rw [if_neg held] at parked ⊢
        exact ih (t := u.enter ⟨.send batch, retry + 1, left⟩) kept parked

theorem proceed_of_parked {request : Request α} {left retry : Nat} {a : Attempt α}
    (parked : (proceed request left retry t).parked = some a) :
    proceed a.request a.left a.retry (proceed request left retry t).opened
      = proceed request left retry t.opened := by
  cases retries : t.retries with
  | none =>
      rw [proceed_once (.inl retries), parked_finish] at parked
      cases parked
  | some c =>
      cases request with
      | send batch => exact proceed_send_of_parked retries parked
      | flush limit | close limit =>
          rw [proceed_once (.inr (by simp [Request.kind])), parked_finish] at parked
          cases parked

theorem call_of_parked {request : Request α} {a : Attempt α}
    (parked : (t.call request).parked = some a) :
    proceed a.request a.left a.retry (t.call request).opened = t.opened.call request := by
  have straight : t.opened.call request
      = proceed request t.allowed 0 (t.enter ⟨request, 0, t.allowed⟩).opened :=
    rfl
  rw [straight]
  rw [call_eq] at parked ⊢
  by_cases held : (t.enter ⟨request, 0, t.allowed⟩).parked.isSome = true
  · rw [if_pos held, parked_enter_of_isSome held] at parked
    cases parked
    rw [if_pos held]
  · rw [if_neg held] at parked ⊢
    exact proceed_of_parked parked

/-- **A call that was held up ends as if nothing had held it up.** Whichever of its attempts is
held up, once nothing is held up any more the call goes on to where a call on the retrying exporter
leads at once. -/
theorem releaseAll_call {request : Request α} {a : Attempt α}
    (parked : (t.call request).parked = some a) :
    (t.call request).releaseAll = (t.opened.answered (t.reply request)).settle := by
  have goesOn : (t.call request).releaseAll
      = (proceed a.request a.left a.retry (t.call request).opened).settle := by
    simp only [releaseAll, release, parked, opened]
  have through : t.opened.call request = t.opened.answered (t.opened.reply request) :=
    call_of_free rfl
  rw [goesOn, call_of_parked parked, through]
  rfl

end Telemetry.Batch.Trial
