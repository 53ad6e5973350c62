import Telemetry.Proofs.Batch.Timeouts

set_option autoImplicit false

/-! # Two runs with different callers

The worker and the producers never look at the callers that wait, and a caller never looks at
another one. So a step goes the same way in a state with other callers, except that only the first
caller with an answer waits for the worker's end. Two runs that differ in callers which wait can
therefore be kept side by side, step by step. -/

namespace Telemetry.Batch

variable {α : Type}

/-! ## A state with other callers -/

/-- The state with other callers, and with another word on whether one of them waits for the
worker's end. -/
def withCallers (s : Batch α) (claimed : Bool) (callers : List (Caller α)) : Batch α :=
  { s with workerClaimed := claimed, callers := callers }

theorem wakeWorker_withCallers (s : Batch α) (claimed : Bool) (callers : List (Caller α)) :
    (s.withCallers claimed callers).wakeWorker = s.wakeWorker.withCallers claimed callers := by
  rw [wakeWorker_eq, wakeWorker_eq]
  rfl

/-- The move in the same state with other callers. -/
def Move.withCallers {π : Type} (m : Move α π) (claimed : Bool) (callers : List (Caller α)) :
    Move α π :=
  ⟨m.state.withCallers claimed callers, m.place, m.notes⟩

theorem Sweep.step_withCallers (w : Sweep) (s : Batch α) (claimed : Bool)
    (callers : List (Caller α)) :
    w.step (s.withCallers claimed callers) =
      ((w.step s).1.withCallers claimed callers, (w.step s).2) := by
  cases w with
  | taking n =>
      by_cases room : n < s.queue.capacity
      · cases first : s.queue.pop? <;> simp [step, Batch.withCallers, room, first]
      · simp [step, Batch.withCallers, room]
  | unreceiving n => rfl
  | counting n => rfl

/-- A caller that is not about to claim the worker's end takes the same step whatever the other
callers do. -/
theorem Caller.step_withCallers (c : Caller α) (s : Batch α) (expired claimed : Bool)
    (callers : List (Caller α)) (h : ∀ r implied, c ≠ .claiming r implied) :
    c.step (s.withCallers claimed callers) expired =
      (c.step s expired).map (·.withCallers claimed callers) := by
  cases c with
  | offering a =>
      cases room : s.queue.push? a with
      | some q => simp [step, Batch.withCallers, Move.withCallers, room]
      | none =>
          cases policy : s.config.overflow <;>
            simp [step, Batch.withCallers, Move.withCallers, room, policy, goTo]
  | evicting a =>
      cases first : s.queue.pop? <;>
        simp [step, Batch.withCallers, Move.withCallers, first, goTo]
  | sweeping w =>
      rcases next : w.step s with ⟨t, _ | w', notes⟩ <;>
        simp [step, Sweep.step_withCallers, Move.withCallers, next]
  | notifying =>
      simp only [step, wakeWorker_withCallers]
      rfl
  | requestingFlush limit =>
      cases late : s.control.shutdownRequested <;>
        simp only [step, requestFlush, Batch.withCallers, late, wakeWorker_eq] <;> rfl
  | closing limit implied =>
      cases late : s.control.shutdownRequested <;>
        simp [step, requestShutdown, Batch.withCallers, Move.withCallers, late, wakeWorker_eq,
          lookAtShutdown, lateEvent, plainEvent]
  | joining r implied =>
      cases place : s.worker <;> simp [step, Batch.withCallers, Move.withCallers, plainEvent, place]
  | leaving r implied => cases implied <;> rfl
  | claiming r implied => exact absurd rfl (h r implied)
  | _ => rfl

/-- The worker is about to wake the callers. -/
def Worker.rouses : Worker α → Bool
  | .announcing | .announcingEnd | .unwindAnnouncing => true
  | _ => false

/-- What becomes of the callers in the worker's next step. -/
def Worker.rouse (w : Worker α) (callers : List (Caller α)) : List (Caller α) :=
  if w.rouses then callers.map Caller.notify else callers

/-- The worker takes the same step whatever the callers do. -/
theorem Worker.step_withCallers (w : Worker α) (s : Batch α) (expired claimed : Bool)
    (callers : List (Caller α)) :
    w.step (s.withCallers claimed callers) expired =
      (w.step s expired).map (·.withCallers claimed (w.rouse callers)) := by
  cases w with
  | collecting p batch =>
      by_cases room : batch.length < p.limit s.config
      · cases first : s.queue.pop? <;>
          simp [step, Batch.withCallers, Move.withCallers, room, first, rouse, rouses, goTo]
      · simp [step, Batch.withCallers, Move.withCallers, room, rouse, rouses]
  | publishing number r =>
      by_cases unanswered : s.control.flushCompleted < number <;>
        simp [step, completeFlush, Batch.withCallers, Move.withCallers, unanswered, rouse, rouses,
          goTo]
  | sweeping w limit r =>
      rcases next : w.step s with ⟨t, _ | w', notes⟩ <;>
        simp [step, Sweep.step_withCallers, Move.withCallers, next, rouse, rouses]
  | unwindSweeping w =>
      rcases next : w.step s with ⟨t, _ | w', notes⟩ <;>
        simp [step, Sweep.step_withCallers, Move.withCallers, next, rouse, rouses]
  | _ => rfl

theorem Worker.named_withCallers (w : Worker α) (s : Batch α) (name : Except Panic String)
    (claimed : Bool) (callers : List (Caller α)) :
    w.named (s.withCallers claimed callers) name =
      (w.named s name).map (·.withCallers claimed callers) := by
  cases w with
  | naming p size e => cases name <;> rfl
  | namingClose r e => cases name <;> rfl
  | _ => rfl

/-- What a step that is not a caller's does to the callers. -/
def Label.spread (w : Worker α) (callers : List (Caller α)) : Label α → List (Caller α)
  | .begins op => callers ++ [op.place]
  | .worker _ => w.rouse callers
  | _ => callers

/-- A step that is not a caller's is the same whatever the callers do. -/
theorem step_withCallers {label : Label α} (h : label.caller? = none) (s : Batch α)
    (claimed : Bool) (callers : List (Caller α)) :
    (s.withCallers claimed callers).step label =
      (s.step label).map fun x =>
        (x.1.withCallers claimed (label.spread s.worker callers), x.2) := by
  cases label with
  | begins op => rfl
  | caller i expired => cases h
  | worker expired =>
      simp only [step]
      rw [show (s.withCallers claimed callers).worker = s.worker from rfl,
        Worker.step_withCallers, Option.map_map, Option.map_map]
      rfl
  | ended o =>
      simp only [step]
      rw [show (s.withCallers claimed callers).worker = s.worker from rfl, Option.map_map]
      rfl
  | named name =>
      simp only [step]
      rw [show (s.withCallers claimed callers).worker = s.worker from rfl,
        Worker.named_withCallers, Option.map_map, Option.map_map]
      rfl

theorem callers_of_step {label : Label α} (h : label.caller? = none) {s u : Batch α}
    {notes : List (Note α)} (step : s.step label = some (u, notes)) :
    u.workerClaimed = s.workerClaimed ∧ u.callers = label.spread s.worker s.callers := by
  have same := step_withCallers h s s.workerClaimed s.callers
  rw [show s.withCallers s.workerClaimed s.callers = s from rfl, step] at same
  have same : u = u.withCallers s.workerClaimed (label.spread s.worker s.callers) :=
    congrArg Prod.fst (Option.some.inj same)
  constructor
  · rw [same]
    rfl
  · rw [same]
    rfl

theorem Caller.claimed_of_step {s : Batch α} {c : Caller α} {expired : Bool}
    {m : Move α (Caller α)} (h : ∀ r implied, c ≠ .claiming r implied)
    (step : c.step s expired = some m) : m.state.workerClaimed = s.workerClaimed := by
  have same := c.step_withCallers s expired s.workerClaimed s.callers h
  rw [show s.withCallers s.workerClaimed s.callers = s from rfl, step] at same
  exact congrArg (fun m => m.state.workerClaimed) (Option.some.inj same)

/-! ## Callers side by side -/

/-- Where a caller may be in the two runs: in the same place, or in one of them it waits for the
worker's end and in the other one it leaves that to a call that has waited longer. -/
inductive Caller.Beside : Caller α → Caller α → Prop where
  | same (c : Caller α) : Beside c c
  | leaves {r : ProcessorResult} {implied : Bool} :
      Beside (.joining r implied) (.leaving r implied)

theorem Caller.Beside.notify {c d : Caller α} (h : c.Beside d) : c.notify.Beside d.notify := by
  cases h with
  | same => exact .same _
  | leaves => exact .leaves

@[simp] theorem Caller.isOver_notify (c : Caller α) : c.notify.isOver = c.isOver := by
  cases c <;> rfl

@[simp] theorem Caller.persists_notify (c : Caller α) : c.notify.persists = c.persists := by
  cases c <;> rfl

/-- What the callers of a number are like in two runs: there is none; they are side by side; or it
is a late one, which has come back in the first run and persists in the second one. -/
inductive Caller.Pair (late : Prop) : Option (Caller α) → Option (Caller α) → Prop where
  | none : ¬late → Pair late none none
  | beside {c d : Caller α} : ¬late → c.Beside d → Pair late (some c) (some d)
  | apart {c d : Caller α} : late → c.isOver = true → d.persists = true →
      Pair late (some c) (some d)

/-- The callers of two runs, pair by pair. -/
def Paired (late : List Nat) (cs ds : List (Caller α)) : Prop :=
  ∀ i : Nat, Caller.Pair (i ∈ late) cs[i]? ds[i]?

section
variable {late : List Nat} {cs ds : List (Caller α)}

theorem Paired.length_eq (h : Paired late cs ds) : ds.length = cs.length := by
  have first := h cs.length
  have second := h ds.length
  rw [List.getElem?_eq_none (Nat.le_refl _)] at first second
  refine Nat.le_antisymm ?_ ?_
  · refine List.getElem?_eq_none_iff.1 ?_
    generalize ds[cs.length]? = d? at first
    cases first
    rfl
  · refine List.getElem?_eq_none_iff.1 ?_
    generalize cs[ds.length]? = c? at second
    cases second
    rfl

theorem Paired.not_late (h : Paired late cs ds) : cs.length ∉ late := by
  have first := h cs.length
  rw [List.getElem?_eq_none (Nat.le_refl _)] at first
  generalize ds[cs.length]? = d? at first
  cases first with
  | none fresh => exact fresh

theorem Paired.notify (h : Paired late cs ds) :
    Paired late (cs.map Caller.notify) (ds.map Caller.notify) := by
  intro i
  have pair := h i
  rw [List.getElem?_map, List.getElem?_map]
  generalize cs[i]? = c? at pair ⊢
  generalize ds[i]? = d? at pair ⊢
  cases pair with
  | none fresh => exact .none fresh
  | beside fresh beside => exact .beside fresh beside.notify
  | apart isLate back waits => exact .apart isLate (by simpa using back) (by simpa using waits)

theorem Paired.begins (h : Paired late cs ds) (c : Caller α) :
    Paired late (cs ++ [c]) (ds ++ [c]) := by
  intro i
  rcases Nat.lt_trichotomy i cs.length with lt | rfl | gt
  · rw [List.getElem?_append_left lt, List.getElem?_append_left (h.length_eq ▸ lt)]
    exact h i
  · rw [List.getElem?_concat_length, ← h.length_eq, List.getElem?_concat_length]
    exact .beside (h.length_eq ▸ h.not_late) (.same c)
  · have pair := h i
    rw [List.getElem?_eq_none (Nat.le_of_lt gt),
      List.getElem?_eq_none (h.length_eq ▸ Nat.le_of_lt gt)] at pair
    rw [List.getElem?_eq_none (by rw [List.length_append]; exact gt),
      List.getElem?_eq_none (by rw [List.length_append, h.length_eq]; exact gt)]
    exact pair

theorem Paired.spread (h : Paired late cs ds) (w : Worker α) (label : Label α) :
    Paired late (label.spread w cs) (label.spread w ds) := by
  cases label with
  | begins op => exact h.begins op.place
  | worker expired =>
      show Paired late (w.rouse cs) (w.rouse ds)
      unfold Worker.rouse
      split
      · exact h.notify
      · exact h
  | _ => exact h

/-- One of the callers comes to another place in both runs, and may be late from now on. -/
theorem Paired.set {late' : List Nat} (h : Paired late cs ds) {i : Nat} {c d : Caller α}
    (lt : i < cs.length) (pair : Caller.Pair (i ∈ late') (some c) (some d))
    (others : ∀ j, j ≠ i → (j ∈ late' ↔ j ∈ late)) :
    Paired late' (cs.set i c) (ds.set i d) := by
  intro j
  by_cases same : i = j
  · subst same
    rw [List.getElem?_set_self lt, List.getElem?_set_self (h.length_eq ▸ lt)]
    exact pair
  · rw [List.getElem?_set_ne same, List.getElem?_set_ne same, others j (Ne.symm same)]
    exact h j

theorem set_of_getElem? {β : Type} {xs : List β} {i : Nat} {a : β} (h : xs[i]? = some a) :
    xs.set i a = xs := by
  obtain ⟨lt, rfl⟩ := List.getElem?_eq_some_iff.1 h
  exact List.set_getElem_self lt

/-- One of the callers comes to another place in the first run. -/
theorem Paired.set_first (h : Paired late cs ds) {i : Nat} {c d : Caller α}
    (hd : ds[i]? = some d) (pair : Caller.Pair (i ∈ late) (some c) (some d)) :
    Paired late (cs.set i c) ds := by
  rw [← set_of_getElem? hd]
  exact h.set (h.length_eq ▸ (List.getElem?_eq_some_iff.1 hd).1) pair fun _ _ => Iff.rfl

/-- One of the callers comes to another place in the second run. -/
theorem Paired.set_second (h : Paired late cs ds) {i : Nat} {c d : Caller α}
    (hc : cs[i]? = some c) (pair : Caller.Pair (i ∈ late) (some c) (some d)) :
    Paired late cs (ds.set i d) := by
  rw [← set_of_getElem? hc]
  exact h.set (List.getElem?_eq_some_iff.1 hc).1 pair fun _ _ => Iff.rfl

end

/-! ## Runs side by side -/

/-- Two states that differ at most in their callers and in whether one of them waits for the
worker's end. -/
def Alike (s u : Batch α) : Prop :=
  u = { s with workerClaimed := u.workerClaimed, callers := u.callers }

theorem Alike.control {s u : Batch α} (h : Alike s u) : u.control = s.control := by
  unfold Alike at h
  rw [h]

theorem Alike.config {s u : Batch α} (h : Alike s u) : u.config = s.config := by
  unfold Alike at h
  rw [h]

/-- Two states of runs side by side, with `late` the callers that have come back in the first one
and persist in the second one. -/
structure Abreast (late : List Nat) (s u : Batch α) : Prop where
  alike : Alike s u
  claims : s.workerClaimed = true → u.workerClaimed = true
  callers : Paired late s.callers u.callers

theorem Abreast.eq_withCallers {late : List Nat} {s u : Batch α} (h : Abreast late s u) :
    u = s.withCallers u.workerClaimed u.callers :=
  h.alike

/-- A step of any thread but the callers is taken in both runs. -/
theorem Abreast.others {late : List Nat} {s u s' : Batch α} {label : Label α}
    {notes : List (Note α)} (h : Abreast late s u) (hl : label.caller? = none)
    (step : s.step label = some (s', notes)) :
    ∃ u', u.step label = some (u', notes) ∧ Abreast late s' u' := by
  have same := step_withCallers hl s u.workerClaimed u.callers
  rw [← h.eq_withCallers, step] at same
  obtain ⟨claimed, callers⟩ := callers_of_step hl step
  refine ⟨_, same, rfl, fun now => h.claims (claimed ▸ now), ?_⟩
  rw [callers]
  exact h.callers.spread s.worker label

/-- A step of a caller that has kept up is taken in both runs, though it may find in the second one
that somebody waits for the worker's end already. -/
theorem Caller.step_beside {s : Batch α} {c : Caller α} {expired claimed : Bool}
    {m : Move α (Caller α)} (callers : List (Caller α)) (h : c.step s expired = some m)
    (claims : s.workerClaimed = true → claimed = true) :
    ∃ claimed' d, c.step (s.withCallers claimed callers) expired =
        some ⟨m.state.withCallers claimed' callers, d, m.notes⟩ ∧
      (m.state.workerClaimed = true → claimed' = true) ∧ m.place.Beside d := by
  by_cases claiming : ∃ r implied, c = .claiming r implied
  · obtain ⟨r, implied, rfl⟩ := claiming
    cases h
    refine ⟨true, _, rfl, fun _ => rfl, ?_⟩
    show Caller.Beside (if s.workerClaimed then _ else _) (if claimed then _ else _)
    cases first : s.workerClaimed with
    | true =>
        rw [claims first]
        exact .same _
    | false =>
        cases claimed with
        | true => exact .leaves
        | false => exact .same _
  · have other (r : ProcessorResult) (implied : Bool) : c ≠ .claiming r implied :=
      fun same => claiming ⟨r, implied, same⟩
    refine ⟨claimed, m.place, ?_, ?_, .same _⟩
    · rw [c.step_withCallers s expired claimed callers other, h]
      rfl
    · rw [Caller.claimed_of_step other h]
      exact claims

theorem Abreast.caller {late : List Nat} {s u s' : Batch α} {i : Nat} {expired : Bool}
    {c : Caller α} {notes : List (Note α)} (h : Abreast late s u) (fresh : i ∉ late)
    (hc : s.callers[i]? = some c) (hd : u.callers[i]? = some c)
    (step : s.step (.caller i expired) = some (s', notes)) :
    ∃ u', u.step (.caller i expired) = some (u', notes) ∧ Abreast late s' u' := by
  obtain ⟨d, m, hd', hm, moved⟩ := step_caller_iff.1 step
  obtain rfl := Option.some.inj (hc.symm.trans hd')
  cases moved
  obtain ⟨claimed, d, step', claims, beside⟩ := Caller.step_beside u.callers hm h.claims
  rw [← h.eq_withCallers] at step'
  refine ⟨_, step_caller_iff.2 ⟨c, _, hd, step', rfl⟩, rfl, claims, ?_⟩
  show Paired late (m.state.callers.set i m.place) (u.callers.set i d)
  rw [(Caller.moves_of_step hm).frame.2.2.2]
  exact h.callers.set (List.getElem?_eq_some_iff.1 hc).1 (.beside fresh beside) fun _ _ => Iff.rfl

/-- A step of any thread but the late callers, and of callers that are in the same place, is taken
in both runs. -/
theorem Abreast.both {late : List Nat} {s u s' : Batch α} {label : Label α}
    {notes : List (Note α)} (h : Abreast late s u)
    (keeps : ∀ i, label.caller? = some i → i ∉ late ∧ u.callers[i]? = s.callers[i]?)
    (step : s.step label = some (s', notes)) :
    ∃ u', u.step label = some (u', notes) ∧ Abreast late s' u' := by
  cases label with
  | caller i expired =>
      obtain ⟨fresh, place⟩ := keeps i rfl
      obtain ⟨c, m, hc, -⟩ := step_caller_iff.1 step
      exact h.caller fresh hc (place.trans hc) step
  | _ => exact h.others rfl step

theorem Caller.Beside.persists {c d : Caller α} (h : c.Beside d) (waits : c.persists = true) :
    d.persists = true := by
  cases h with
  | same => exact waits
  | leaves => exact waits

/-- A caller whose time is up finds no answer: it comes back in the first run and goes on waiting in
the second one. -/
theorem Abreast.parts {late : List Nat} {s u : Batch α} {i : Nat} {c : Caller α}
    {limit : Duration} (h : Abreast late s u) (hc : s.callers[i]? = some c)
    (hd : u.callers[i]? = some c) (misses : c.Misses s limit) :
    ∃ s' u' notes notes', s.step (.caller i true) = some (s', notes) ∧
      u.step (.caller i false) = some (u', notes') ∧ shown notes = [] ∧ shown notes' = [] ∧
      Abreast (i :: late) s' u' := by
  obtain ⟨t, gone, waiting, notes, notes', first, second, back, -, waits, -, quiet, quiet'⟩ :=
    misses.steps
  obtain ⟨claimed, d, second, claims, beside⟩ := Caller.step_beside u.callers second h.claims
  rw [← h.eq_withCallers] at second
  refine ⟨_, _, notes, notes', step_caller_iff.2 ⟨c, _, hc, first, rfl⟩,
    step_caller_iff.2 ⟨c, _, hd, second, rfl⟩, quiet, quiet', rfl, claims, ?_⟩
  have callers : t.callers = s.callers := (Caller.moves_of_step first).frame.2.2.2
  show Paired (i :: late) (t.callers.set i gone) (u.callers.set i d)
  rw [callers]
  refine h.callers.set (List.getElem?_eq_some_iff.1 hc).1
    (.apart List.mem_cons_self back (beside.persists waits)) fun j other => ?_
  rw [List.mem_cons, or_iff_right other]

theorem Caller.step_of_isOver {s : Batch α} {c : Caller α} {expired : Bool}
    {m : Move α (Caller α)} (back : c.isOver = true) (h : c.step s expired = some m) :
    m.state = s ∧ m.place.isOver = true ∧ shown m.notes = [] := by
  cases c with
  | leaving r implied =>
      cases implied with
      | true =>
          cases h
          cases r <;> exact ⟨rfl, rfl, rfl⟩
      | false =>
          cases h
          exact ⟨rfl, rfl, rfl⟩
  | done r => cases h
  | _ => cases back

/-- A late caller comes back in the first run, which changes nothing else. -/
theorem Abreast.comesBack {late : List Nat} {s u s' : Batch α} {i : Nat} {expired : Bool}
    {notes : List (Note α)} (h : Abreast late s u) (isLate : i ∈ late)
    (step : s.step (.caller i expired) = some (s', notes)) :
    shown notes = [] ∧ Abreast late s' u := by
  obtain ⟨c, m, hc, hm, moved⟩ := step_caller_iff.1 step
  cases moved
  have pair := h.callers i
  rw [hc] at pair
  generalize hd : u.callers[i]? = d? at pair
  cases pair with
  | beside fresh => exact absurd isLate fresh
  | apart _ back waits =>
      obtain ⟨same, back', quiet⟩ := Caller.step_of_isOver back hm
      refine ⟨quiet, ?_⟩
      show Abreast late { m.state with callers := m.state.callers.set i m.place } u
      rw [same]
      exact ⟨h.alike, h.claims, h.callers.set_first hd (.apart isLate back' waits)⟩

/-- A late caller that goes on waiting changes nothing but, in the end, who waits for the worker's
end. -/
theorem Caller.step_of_persists {s : Batch α} {c : Caller α} {m : Move α (Caller α)}
    (genuine : Genuine s) (waits : c.persists = true) (h : c.step s false = some m) :
    m.place.persists = true ∧ shown m.notes = [] ∧
      ∃ claimed, m.state = { s with workerClaimed := claimed } ∧
        (s.workerClaimed = true → claimed = true) := by
  cases c with
  | awaitingFlush number limit notified =>
      cases h
      refine ⟨?_, rfl, _, rfl, id⟩
      show (s.lookAtFlush number limit false).persists = true
      unfold lookAtFlush
      split
      · exact genuine.flush
      · rfl
  | awaitingShutdown limit implied notified =>
      cases h
      show (s.lookAtShutdown limit implied false).1.persists = true ∧
        shown (s.lookAtShutdown limit implied false).2 = [] ∧ _
      unfold lookAtShutdown
      split
      · rename_i r answered
        exact ⟨genuine.shutdown r answered, rfl, _, rfl, id⟩
      · exact ⟨rfl, rfl, _, rfl, id⟩
  | claiming r implied =>
      cases h
      refine ⟨?_, rfl, true, rfl, fun _ => rfl⟩
      show Caller.persists (if s.workerClaimed then _ else _) = true
      split
      · exact waits
      · exact waits
  | joining r implied =>
      simp only [step] at h
      split at h
      · rename_i panicked stopped
        cases h
        refine ⟨waits, ?_, _, rfl, id⟩
        cases panicked <;> rfl
      · cases h
  | leaving r implied =>
      cases implied with
      | true =>
          cases h
          refine ⟨rfl, ?_, _, rfl, id⟩
          cases r <;> rfl
      | false =>
          cases h
          exact ⟨waits, rfl, _, rfl, id⟩
  | done r => cases h
  | _ => cases waits

theorem Abreast.waitsOn {late : List Nat} {s u u' : Batch α} {i : Nat} {notes : List (Note α)}
    (h : Abreast late s u) (genuine : Genuine u) (isLate : i ∈ late)
    (step : u.step (.caller i false) = some (u', notes)) :
    shown notes = [] ∧ Abreast late s u' := by
  obtain ⟨d, m, hd, hm, moved⟩ := step_caller_iff.1 step
  cases moved
  have pair := h.callers i
  rw [hd] at pair
  generalize hc : s.callers[i]? = c? at pair
  cases pair with
  | beside fresh => exact absurd isLate fresh
  | apart _ back waits =>
      obtain ⟨waits', quiet, claimed, same, claims⟩ := Caller.step_of_persists genuine waits hm
      refine ⟨quiet, ?_⟩
      show Abreast late s { m.state with callers := m.state.callers.set i m.place }
      rw [same]
      refine ⟨?_, fun now => claims (h.claims now),
        h.callers.set_second hc (.apart isLate back waits')⟩
      show { u with workerClaimed := claimed, callers := u.callers.set i m.place } =
        s.withCallers claimed (u.callers.set i m.place)
      rw [h.eq_withCallers]
      rfl

/-- A caller has seen the worker's end in the first run, and leaves that to a late caller in the
second one. -/
theorem Abreast.joins {late : List Nat} {s u s' : Batch α} {i : Nat} {expired implied : Bool}
    {r : ProcessorResult} {notes : List (Note α)} (h : Abreast late s u)
    (hc : s.callers[i]? = some (.joining r implied))
    (hd : u.callers[i]? = some (.leaving r implied))
    (step : s.step (.caller i expired) = some (s', notes)) :
    shown notes = [] ∧ Abreast late s' u := by
  obtain ⟨c, m, hc', hm, moved⟩ := step_caller_iff.1 step
  obtain rfl := Option.some.inj (hc.symm.trans hc')
  cases moved
  have fresh : i ∉ late := by
    have pair := h.callers i
    rw [hc, hd] at pair
    cases pair with
    | beside fresh => exact fresh
    | apart _ back => cases back
  simp only [Caller.step] at hm
  split at hm
  · rename_i panicked stopped
    cases hm
    refine ⟨by cases panicked <;> rfl, h.alike, h.claims, ?_⟩
    exact h.callers.set_first hd (.beside fresh (.same _))
  · cases hm

end Telemetry.Batch
