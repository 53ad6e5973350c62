import Telemetry.Proofs.Batch.Answers
import Telemetry.Proofs.Batch.Course

set_option autoImplicit false

/-! # The answer to a shutdown

There is one answer for all requests to shut down. The worker gives it in one of two steps, at the
end of an orderly shutdown or in a panic, and never takes it back; with it all requests to flush are
answered, and no new ones are registered. The exporter is shut down within the time of the caller
whose request came first. A caller comes back with the answer, or with its own time if that has run
out before. -/

namespace Telemetry.Batch

variable {α : Type}

/-! ## Given once -/

/-- The worker has answered the requests to shut down. -/
def Worker.concluded : Worker α → Bool
  | .announcingEnd | .reporting | .stopped _ => true
  | .unwindSealing | .unwindSweeping _ | .unwindAnnouncing => true
  | _ => false

@[simp] theorem Worker.concluded_woken (w : Worker α) : w.woken.concluded = w.concluded := by
  cases w <;> rfl

theorem Worker.drained_or_terminated {w : Worker α} (h : w.concluded = true) :
    w.drained = true ∨ w.terminated = true := by
  cases w with
  | announcingEnd | reporting => exact .inl rfl
  | unwindSealing | unwindSweeping | unwindAnnouncing => exact .inr rfl
  | stopped panicked => cases panicked <;> simp [drained, terminated]
  | _ => cases h

theorem ShutsDown.requested_of_concluded {s : Batch α} (h : ShutsDown s)
    (concluded : s.worker.concluded = true) : s.control.shutdownRequested = true := by
  rcases Worker.drained_or_terminated concluded with drained | terminated
  · exact h.drained drained
  · exact h.terminated terminated

theorem Caller.Moves.shutdownResult {s t : Batch α} {c c' : Caller α} {notes : List (Note α)}
    (h : c.Moves s t c' notes) : t.control.shutdownResult = s.control.shutdownResult := by
  cases h with
  | sweeps hw | endsSweep hw => rw [hw.frame]
  | _ => rfl

/-- Once shutdown is requested, callers register nothing more. -/
theorem Caller.Moves.control_eq {s t : Batch α} {c c' : Caller α} {notes : List (Note α)}
    (h : c.Moves s t c' notes) (requested : s.control.shutdownRequested = true) :
    t.control = s.control ∧ t.isShutdown = s.isShutdown := by
  cases h with
  | sweeps hw | endsSweep hw => rw [hw.frame]; exact ⟨rfl, rfl⟩
  | requestsFlush running | closes running => exact absurd (running.symm.trans requested) nofun
  | _ => exact ⟨rfl, rfl⟩

/-- The worker gives the answer in one step, behind which it goes to its end. -/
theorem Worker.Moves.shutdownResult {s t : Batch α} {w w' : Worker α} {notes : List (Note α)}
    (h : w.Moves s t w' notes) :
    (w'.concluded = w.concluded ∧ t.control.shutdownResult = s.control.shutdownResult) ∨
      (w.concluded = false ∧ w'.concluded = true ∧
        t.control.flushCompleted = t.control.flushRequested ∧
        ∃ r, t.control.shutdownResult = some r) := by
  cases h with
  | sweeps hw | endsSweep hw | unwindSweeps hw | endsUnwindSweep hw =>
      rw [hw.frame]
      exact .inl ⟨rfl, rfl⟩
  | concludes | unwinds => exact .inr ⟨rfl, rfl, rfl, _, rfl⟩
  | _ => exact .inl ⟨rfl, rfl⟩

theorem Worker.Moves.control_of_concluded {s t : Batch α} {w w' : Worker α}
    {notes : List (Note α)} (h : w.Moves s t w' notes) (concluded : w.concluded = true) :
    t.control = s.control := by
  cases h with
  | unwindSweeps hw | endsUnwindSweep hw => rw [hw.frame]
  | unwindSeals | announcesEnd | reports | unwindAnnounces => rfl
  | _ => cases concluded

/-- The answer and the worker's place say the same, and with the answer all requests to flush are
answered. -/
structure Concluded (s : Batch α) : Prop where
  answered : s.control.shutdownResult.isSome = s.worker.concluded
  flushed : s.worker.concluded = true → s.control.flushCompleted = s.control.flushRequested

theorem Concluded.step {s u : Batch α} {label : Label α} {notes : List (Note α)}
    (h : Concluded s) (sound : ShutsDown s) (hm : s.Moves label u notes) : Concluded u := by
  cases hm with
  | begins op => exact ⟨h.answered, h.flushed⟩
  | @caller i expired c c' t _ hc hm =>
      have place := hm.worker_eq Worker.concluded Worker.concluded_woken
      constructor
      case answered =>
        show t.control.shutdownResult.isSome = t.worker.concluded
        rw [place, hm.shutdownResult, h.answered]
      case flushed =>
        intro concluded
        have before : s.worker.concluded = true := place.symm.trans concluded
        show t.control.flushCompleted = t.control.flushRequested
        rw [(hm.control_eq (sound.requested_of_concluded before)).1]
        exact h.flushed before
  | @worker label t w _ _ _ hm =>
      rcases hm.shutdownResult with ⟨place, same⟩ | ⟨-, now, flushed, r, answer⟩
      · constructor
        case answered =>
          show t.control.shutdownResult.isSome = w.concluded
          rw [place, same, h.answered]
        case flushed =>
          intro concluded
          have before : s.worker.concluded = true := place.symm.trans concluded
          show t.control.flushCompleted = t.control.flushRequested
          rw [hm.control_of_concluded before]
          exact h.flushed before
      · constructor
        case answered =>
          show t.control.shutdownResult.isSome = w.concluded
          rw [answer, now]
          rfl
        case flushed => exact fun _ => flushed

theorem Run.concluded {name : String} {config : BatchConfig} {s : Batch α}
    {labels : List (Label α)} {notes : List (Note α)}
    (run : Run (start name config) labels notes s) : Concluded s := by
  induction run with
  | nil => exact ⟨rfl, nofun⟩
  | snoc run step ih => exact ih.step (run.shutsDown (shutsDown_start _ _)) (moves_of_step step)

theorem Moves.shutdownResult {s u : Batch α} {label : Label α} {notes : List (Note α)}
    {r : ProcessorResult} (h : s.Moves label u notes) (sound : Concluded s)
    (answer : s.control.shutdownResult = some r) : u.control.shutdownResult = some r := by
  cases h with
  | begins op => exact answer
  | caller _ hm => exact hm.shutdownResult.trans answer
  | worker _ _ hm =>
      rcases hm.shutdownResult with ⟨-, same⟩ | ⟨running, -⟩
      · exact same.trans answer
      · have concluded := sound.answered
        rw [answer, running] at concluded
        cases concluded

/-- The answer to the requests to shut down is not changed any more. -/
theorem Run.shutdownResult {name : String} {config : BatchConfig} {s t : Batch α}
    {l₁ l₂ : List (Label α)} {n₁ n₂ : List (Note α)} {r : ProcessorResult}
    (run₁ : Run (start name config) l₁ n₁ s) (run₂ : Run s l₂ n₂ t)
    (answer : s.control.shutdownResult = some r) : t.control.shutdownResult = some r := by
  induction run₂ with
  | nil => exact answer
  | snoc run₂ step ih =>
      exact (moves_of_step step).shutdownResult (run₁.append run₂).concluded ih

theorem Worker.Moves.concluded_stays {s t : Batch α} {w w' : Worker α} {notes : List (Note α)}
    (h : w.Moves s t w' notes) (concluded : w.concluded = true) : w'.concluded = true := by
  rcases h.shutdownResult with ⟨same, -⟩ | ⟨running, -⟩
  · exact same.trans concluded
  · exact absurd (running.symm.trans concluded) nofun

theorem Moves.control_of_concluded {s u : Batch α} {label : Label α} {notes : List (Note α)}
    (h : s.Moves label u notes) (sound : ShutsDown s) (concluded : s.worker.concluded = true) :
    u.control = s.control ∧ u.worker.concluded = true := by
  cases h with
  | begins op => exact ⟨rfl, concluded⟩
  | caller _ hm =>
      exact ⟨(hm.control_eq (sound.requested_of_concluded concluded)).1,
        (hm.worker_eq Worker.concluded Worker.concluded_woken).trans concluded⟩
  | worker _ _ hm => exact ⟨hm.control_of_concluded concluded, hm.concluded_stays concluded⟩

/-- Behind the answer nothing changes any more that the lock guards. -/
theorem Run.control_of_concluded {s t : Batch α} {labels : List (Label α)} {notes : List (Note α)}
    (run : Run s labels notes t) (sound : ShutsDown s) (concluded : s.worker.concluded = true) :
    t.control = s.control ∧ t.worker.concluded = true := by
  induction run with
  | nil => exact ⟨rfl, concluded⟩
  | snoc run step ih =>
      obtain ⟨same, concluded⟩ := ih
      have next := (moves_of_step step).control_of_concluded (run.shutsDown sound) concluded
      exact ⟨next.1.trans same, next.2⟩

/-- Answers to requests to flush are not taken back. -/
theorem Moves.flushCompleted_le {s u : Batch α} {label : Label α} {notes : List (Note α)}
    (h : s.Moves label u notes) (numbered : Numbered s) :
    s.control.flushCompleted ≤ u.control.flushCompleted := by
  cases h with
  | begins op => exact Nat.le_refl _
  | caller _ hm => exact Nat.le_of_eq hm.flushControl.1.symm
  | worker _ _ hm =>
      generalize s.worker = w at hm
      cases hm with
      | sweeps hw | endsSweep hw | unwindSweeps hw | endsUnwindSweep hw =>
          rw [hw.frame]
      | publishes later => exact Nat.le_of_lt later
      | concludes | unwinds => exact numbered.answered
      | _ => exact Nat.le_refl _

theorem Run.flushCompleted_le {name : String} {config : BatchConfig} {s t : Batch α}
    {l₁ l₂ : List (Label α)} {n₁ n₂ : List (Note α)} (run₁ : Run (start name config) l₁ n₁ s)
    (run₂ : Run s l₂ n₂ t) : s.control.flushCompleted ≤ t.control.flushCompleted := by
  induction run₂ with
  | nil => exact Nat.le_refl _
  | snoc run₂ step ih =>
      exact Nat.le_trans ih ((moves_of_step step).flushCompleted_le (run₁.append run₂).numbered)

/-! ## Calls that shut down -/

/-- Where a call that shuts down within a time may be: it asks and waits, and from where it has a
result that is `r`. `implied` marks a drop, whose caller gets no result. -/
inductive Caller.Ending (r : ProcessorResult) (limit : Duration) (implied : Bool) :
    Caller α → Prop where
  | asks : Ending r limit implied (.closing limit implied)
  | waits {notified : Bool} : Ending r limit implied (.awaitingShutdown limit implied notified)
  | claims : Ending r limit implied (.claiming r implied)
  | joins : Ending r limit implied (.joining r implied)
  | leaves : Ending r limit implied (.leaving r implied)
  | returns : implied = false → Ending r limit implied (.done (some r))
  | returnsNothing : implied = true → Ending r limit implied (.done none)

theorem Caller.Ending.notify {r : ProcessorResult} {limit : Duration} {implied : Bool}
    {c : Caller α} (h : c.Ending r limit implied) : c.notify.Ending r limit implied := by
  cases h with
  | waits => exact .waits
  | asks => exact .asks
  | claims => exact .claims
  | joins => exact .joins
  | leaves => exact .leaves
  | returns plain => exact .returns plain
  | returnsNothing drops => exact .returnsNothing drops

/-- Whether a caller waits for the worker's end. -/
def Caller.joins : Caller α → Bool
  | .claiming _ _ | .joining _ _ => true
  | _ => false

theorem Caller.joins_notify (c : Caller α) : c.notify.joins = c.joins := by
  cases c <;> rfl

/-- A call that shuts down keeps its result; it may get one that is the answer, or its time may run
out while there is none. Only with the answer it waits for the worker's end. -/
theorem Caller.Moves.ending {s t : Batch α} {c c' : Caller α} {notes : List (Note α)}
    {r : ProcessorResult} {limit : Duration} {implied : Bool} (h : c.Moves s t c' notes)
    (hc : c.Ending r limit implied) :
    ∃ r', c'.Ending r' limit implied ∧ (s.control.shutdownResult = some r' ∨
      (c.joins = false → c'.joins = false) ∧
        (r' = r ∨ s.control.shutdownResult = none ∧ r' = .error (.timeout limit))) := by
  have looks {c' : Caller α} {notes : List (Note α)}
      (look : LooksAtShutdown s limit implied c' notes) :
      ∃ r', c'.Ending r' limit implied ∧ (s.control.shutdownResult = some r' ∨
        (c.joins = false → c'.joins = false) ∧
          (r' = r ∨ s.control.shutdownResult = none ∧ r' = .error (.timeout limit))) := by
    cases look with
    | answered answer => exact ⟨_, .claims, .inl answer⟩
    | expired none => exact ⟨_, .leaves, .inr ⟨fun _ => rfl, .inr ⟨none, rfl⟩⟩⟩
    | waits => exact ⟨r, .waits, .inr ⟨fun _ => rfl, .inl rfl⟩⟩
  cases hc with
  | asks =>
      cases h with
      | closesAgain _ look | closes _ look => exact looks look
  | waits => cases h with | looksAtShutdown look => exact looks look
  | claims =>
      cases h with
      | claims => exact ⟨r, .joins, .inr ⟨nofun, .inl rfl⟩⟩
      | claimsAgain => exact ⟨r, .leaves, .inr ⟨nofun, .inl rfl⟩⟩
  | joins => cases h with | joins => exact ⟨r, .leaves, .inr ⟨nofun, .inl rfl⟩⟩
  | leaves =>
      cases h with
      | leavesDrop => exact ⟨r, .returnsNothing rfl, .inr ⟨fun _ => rfl, .inl rfl⟩⟩
      | leaves => exact ⟨r, .returns rfl, .inr ⟨fun _ => rfl, .inl rfl⟩⟩
  | returns | returnsNothing => cases h

/-- Where such a call may be, while the answer is `answer`: with a result it has that answer, or
its time has run out and it does not wait for the worker's end. -/
def Caller.Closing (answer : Option ProcessorResult) (limit : Duration) (implied : Bool)
    (c : Caller α) : Prop :=
  ∃ r, c.Ending r limit implied ∧
    (answer = some r ∨ c.joins = false ∧ r = .error (.timeout limit))

theorem Caller.Closing.notify {answer : Option ProcessorResult} {limit : Duration} {implied : Bool}
    {c : Caller α} (h : c.Closing answer limit implied) :
    c.notify.Closing answer limit implied := by
  obtain ⟨r, ending, result⟩ := h
  rw [← joins_notify] at result
  exact ⟨r, ending.notify, result⟩

/-- An answer that is given later changes nothing for a call that has come back before. -/
theorem Caller.Closing.mono {answer answer' : Option ProcessorResult} {limit : Duration}
    {implied : Bool} {c : Caller α} (h : c.Closing answer limit implied)
    (kept : ∀ r, answer = some r → answer' = some r) : c.Closing answer' limit implied := by
  obtain ⟨r, ending, result⟩ := h
  exact ⟨r, ending, result.imp_left (kept r)⟩

theorem Caller.Moves.closing {s t : Batch α} {c c' : Caller α} {notes : List (Note α)}
    {limit : Duration} {implied : Bool} (h : c.Moves s t c' notes)
    (hc : c.Closing s.control.shutdownResult limit implied) :
    c'.Closing s.control.shutdownResult limit implied := by
  obtain ⟨r, ending, result⟩ := hc
  obtain ⟨r', ending', answer | ⟨joins, rfl | ⟨none, late⟩⟩⟩ := h.ending ending
  · exact ⟨r', ending', .inl answer⟩
  · exact ⟨r', ending', result.imp_right fun ⟨away, late⟩ => ⟨joins away, late⟩⟩
  · rcases result with answer | ⟨away, -⟩
    · exact absurd (none.symm.trans answer) nofun
    · exact ⟨r', ending', .inr ⟨joins away, late⟩⟩

/-- Whether a caller shuts the processor down. -/
def Caller.closes : Caller α → Bool
  | .dropping | .closing _ _ | .awaitingShutdown _ _ _ | .claiming _ _ => true
  | .joining _ _ | .leaving _ _ => true
  | _ => false

theorem Caller.closes_notify (c : Caller α) : c.notify.closes = c.closes := by
  cases c <;> rfl

theorem Caller.Moves.closes_stays {s t : Batch α} {c c' : Caller α} {notes : List (Note α)}
    (h : c.Moves s t c' notes) (hc : c.closes = false) : c'.closes = false := by
  cases h with
  | requestsFlush _ look | looksAtFlush look => cases look <;> rfl
  | dropsAgain | drops | closesAgain | closes | looksAtShutdown | claims | claimsAgain | joins |
    leavesDrop | leaves => cases hc
  | _ => rfl

/-- Where a call may be: only those that shut down or drop the processor shut it down, each within
its own time. -/
def Caller.Ends (s : Batch α) (c : Caller α) : Operation α → Prop
  | .shutdown limit => c.Closing s.control.shutdownResult limit false
  | .drop => c = .dropping ∨ c = .done none ∨
      c.Closing s.control.shutdownResult s.config.shutdownTimeout true
  | _ => c.closes = false

theorem Run.ends {name : String} {config : BatchConfig} {s : Batch α} {labels : List (Label α)}
    {notes : List (Note α)} (run : Run (start name config) labels notes s) {i : Nat}
    {op : Operation α} {c : Caller α} (hop : (operations labels)[i]? = some op)
    (hc : s.callers[i]? = some c) : c.Ends s op := by
  refine run.follows_calls (q := Concluded) (p := fun op s c => c.Ends s op)
    (fun run => run.concluded) ?begins ?moves ?others hop
    (by rw [show (start name config : Batch α).callers.length = 0 from rfl, Nat.zero_add]; exact hc)
  case begins =>
    intro u op _
    cases op with
    | shutdown limit => exact ⟨_, .asks, .inr ⟨rfl, rfl⟩⟩
    | drop => exact .inl rfl
    | _ => rfl
  case moves =>
    intro u v op c c' i new sound _ before hm
    cases op with
    | shutdown limit =>
        show c'.Closing v.control.shutdownResult limit false
        rw [hm.shutdownResult]
        exact hm.closing before
    | drop =>
        show c' = .dropping ∨ c' = .done none ∨
          c'.Closing v.control.shutdownResult v.config.shutdownTimeout true
        rw [hm.shutdownResult, hm.frame.1]
        rcases before with rfl | rfl | closing
        · cases hm with
          | dropsAgain => exact .inr (.inl rfl)
          | drops => exact .inr (.inr ⟨_, .asks, .inr ⟨rfl, rfl⟩⟩)
        · cases hm
        · exact .inr (.inr (hm.closing closing))
    | _ => exact hm.closes_stays before
  case others =>
    intro u v label new op c sound hm before
    have kept (r : ProcessorResult) := hm.shutdownResult (r := r) sound
    cases op with
    | shutdown limit => exact ⟨before.mono kept, (before.mono kept).notify⟩
    | drop =>
        have config := hm.config
        rcases before with rfl | rfl | closing
        · exact ⟨.inl rfl, .inl rfl⟩
        · exact ⟨.inr (.inl rfl), .inr (.inl rfl)⟩
        · have later : c.Closing v.control.shutdownResult v.config.shutdownTimeout true :=
            config ▸ closing.mono kept
          exact ⟨.inr (.inr later), .inr (.inr later.notify)⟩
    | _ => exact ⟨before, (Caller.closes_notify c).trans before⟩

/-- The time that a call allows for a shutdown. -/
def Operation.closeLimit? (config : BatchConfig) : Operation α → Option Duration
  | .shutdown limit => some limit
  | .drop => some config.shutdownTimeout
  | _ => none

/-- A caller that is about to request a shutdown does so with its own time. -/
theorem Run.closeLimit_of_closing {name : String} {config : BatchConfig} {s : Batch α}
    {labels : List (Label α)} {notes : List (Note α)}
    (run : Run (start name config) labels notes s) {i : Nat} {limit : Duration} {implied : Bool}
    (hc : s.callers[i]? = some (.closing limit implied)) :
    ∃ op, (operations labels)[i]? = some op ∧ op.closeLimit? config = some limit := by
  obtain ⟨op, hop⟩ := run.exists_operation hc
  refine ⟨op, hop, ?_⟩
  have ends := run.ends hop hc
  cases op with
  | shutdown limit' =>
      obtain ⟨r, ending, -⟩ := ends
      cases ending
      rfl
  | drop =>
      rcases ends with away | away | closing
      · cases away
      · cases away
      · obtain ⟨r, ending, -⟩ := closing
        cases ending
        exact congrArg some (congrArg BatchConfig.shutdownTimeout run.config).symm
  | _ => cases ends

/-! ## The first request -/

/-- In a run from `s` along some labels, the first request to shut down is that of a call which
allows the time `limit`. -/
inductive FirstRequest (s : Batch α) (labels : List (Label α)) (limit : Duration) : Prop where
  | of_call {before after : List (Label α)} {i : Nat} {expired : Bool} {op : Operation α}
      {p u : Batch α} {notes new : List (Note α)} :
      labels = before ++ .caller i expired :: after → Run s before notes p →
      (operations before)[i]? = some op → op.closeLimit? s.config = some limit →
      p.control.shutdownRequested = false → p.step (.caller i expired) = some (u, new) →
      u.control.shutdownRequested = true → FirstRequest s labels limit

theorem FirstRequest.append {s : Batch α} {labels : List (Label α)} {limit : Duration}
    (h : FirstRequest s labels limit) (more : List (Label α)) :
    FirstRequest s (labels ++ more) limit := by
  cases h with
  | @of_call before after i expired op p u notes new cut run asked time running step requested =>
      have longer : labels ++ more = before ++ .caller i expired :: (after ++ more) := by
        rw [cut, List.append_assoc, List.cons_append]
      exact .of_call longer run asked time running step requested

/-- A caller's step that requests the shutdown. -/
theorem Caller.Moves.requests_shutdown {s t : Batch α} {c c' : Caller α} {notes : List (Note α)}
    (h : c.Moves s t c' notes) (before : s.control.shutdownRequested = false)
    (now : t.control.shutdownRequested = true) :
    ∃ implied, c = .closing t.control.shutdownLimit implied := by
  cases h with
  | closes => exact ⟨_, rfl⟩
  | sweeps hw | endsSweep hw =>
      rw [hw.frame] at now
      exact absurd (before.symm.trans now) nofun
  | _ => exact absurd (before.symm.trans now) nofun

theorem Worker.Moves.shutdownLimit {s t : Batch α} {w w' : Worker α} {notes : List (Note α)}
    (h : w.Moves s t w' notes) : t.control.shutdownLimit = s.control.shutdownLimit := by
  cases h with
  | sweeps hw | endsSweep hw | unwindSweeps hw | endsUnwindSweep hw => rw [hw.frame]
  | _ => rfl

theorem Worker.Moves.terminated_of_requests {s t : Batch α} {w w' : Worker α}
    {notes : List (Note α)} (h : w.Moves s t w' notes)
    (before : s.control.shutdownRequested = false) (now : t.control.shutdownRequested = true) :
    w'.terminated = true := by
  cases h with
  | unwinds => rfl
  | sweeps hw | endsSweep hw | unwindSweeps hw | endsUnwindSweep hw =>
      rw [hw.frame] at now
      exact absurd (before.symm.trans now) nofun
  | _ => exact absurd (before.symm.trans now) nofun

/-- A shutdown was first requested by a caller, whose time was registered, or by a panic. -/
theorem Run.first_request {name : String} {config : BatchConfig} {s : Batch α}
    {labels : List (Label α)} {notes : List (Note α)}
    (run : Run (start name config) labels notes s)
    (requested : s.control.shutdownRequested = true) :
    FirstRequest (start name config) labels s.control.shutdownLimit ∨
      s.worker.terminated = true := by
  induction run with
  | nil => cases requested
  | @snoc s u labels notes new label run step ih =>
      cases moves_of_step step with
      | begins op => exact (ih requested).imp_left fun first => first.append _
      | @caller i expired c c' t _ hc hm =>
          cases before : s.control.shutdownRequested with
          | false =>
              obtain ⟨implied, rfl⟩ := hm.requests_shutdown before requested
              obtain ⟨op, asked, time⟩ := run.closeLimit_of_closing hc
              exact .inl (.of_call rfl run asked time before step requested)
          | true =>
              show FirstRequest _ _ t.control.shutdownLimit ∨ t.worker.terminated = true
              rw [(hm.control_eq before).1, hm.worker_eq Worker.terminated Worker.terminated_woken]
              exact (ih before).imp_left fun first => first.append _
      | @worker label t w _ _ _ hm =>
          cases before : s.control.shutdownRequested with
          | false => exact .inr (hm.terminated_of_requests before requested)
          | true =>
              show FirstRequest _ _ t.control.shutdownLimit ∨ w.terminated = true
              rw [hm.shutdownLimit]
              exact (ih before).imp (fun first => first.append _) hm.terminated_stays

/-- The time for which the worker will shut the exporter down. -/
def Errand.closeLimit? : Errand → Option Duration
  | .shutdown limit => some limit
  | _ => none

def Worker.closeLimit? : Worker α → Option Duration
  | .sealing limit _ | .sweeping _ limit _ | .closing limit _ => some limit
  | w => w.errand?.bind Errand.closeLimit?

theorem Worker.closeLimit?_woken (w : Worker α) : w.woken.closeLimit? = w.closeLimit? := by
  cases w <;> rfl

theorem ShutsDown.requested_of_closeLimit {s : Batch α} (h : ShutsDown s) {limit : Duration}
    (hw : s.worker.closeLimit? = some limit) : s.control.shutdownRequested = true := by
  have drained (hd : s.worker.drained = true) := h.drained hd
  have errand (e : Errand) (he : s.worker.errand? = some e) (hl : e.closeLimit? = some limit) :
      s.control.shutdownRequested = true := by
    refine h.errand e he ?_
    cases e with
    | shutdown => rfl
    | _ => cases hl
  generalize s.worker = w at hw drained errand
  cases w with
  | sealing | sweeping | closing => exact drained rfl
  | rearming | measuring | collecting | sending | countingExported | countingBatch |
    countingFailure | countingFailed | naming => exact errand _ rfl hw
  | _ => cases hw

theorem Worker.Moves.closeLimit {s t : Batch α} {w w' : Worker α} {notes : List (Note α)}
    {limit : Duration} (h : w.Moves s t w' notes) (hw : w'.closeLimit? = some limit) :
    w.closeLimit? = some limit ∨ s.control.shutdownLimit = limit := by
  cases h with
  | beginsDrain => exact .inr (Option.some.inj hw)
  | endsDrain errand =>
      refine .inl ?_
      rw [← hw]
      show Errand.closeLimit? _ = _
      rw [errand]
      rfl
  | rearms | measures | collects | sends | sent | notSent | countsExported | countsBatch |
    countsFailure | countsFailed | reportsFailure | seals | sweeps | endsSweep => exact .inl hw
  | _ => cases hw

/-- The worker keeps the time that was registered with the first request. -/
theorem Run.closeLimit {name : String} {config : BatchConfig} {s : Batch α}
    {labels : List (Label α)} {notes : List (Note α)}
    (run : Run (start name config) labels notes s) {limit : Duration}
    (hw : s.worker.closeLimit? = some limit) : s.control.shutdownLimit = limit := by
  induction run with
  | nil => cases hw
  | @snoc s u labels notes new label run step ih =>
      cases moves_of_step step with
      | begins op => exact ih hw
      | @caller i expired c c' t _ hc hm =>
          have before := (hm.worker_eq Worker.closeLimit? Worker.closeLimit?_woken).symm.trans hw
          have requested := (run.shutsDown (shutsDown_start _ _)).requested_of_closeLimit before
          show t.control.shutdownLimit = limit
          rw [(hm.control_eq requested).1]
          exact ih before
      | worker _ _ hm =>
          rcases hm.closeLimit hw with before | now
          · exact hm.shutdownLimit.trans (ih before)
          · exact hm.shutdownLimit.trans now

theorem Moves.closeLimit_of_close {s u : Batch α} {label : Label α} {notes : List (Note α)}
    {limit : Duration} (h : s.Moves label u notes) (closes : .close limit ∈ calls notes) :
    s.worker.closeLimit? = some limit ∧ s.worker.terminated = false := by
  cases h with
  | begins op => cases closes
  | caller _ hm => rw [hm.silent.1] at closes; cases closes
  | worker _ _ hm =>
      generalize s.worker = w at hm
      cases hm with
      | @endsSweep w limit' r t notes hw =>
          rw [calls_append, hw.silent.1] at closes
          cases List.mem_singleton.1 closes
          exact ⟨rfl, rfl⟩
      | sweeps hw | unwindSweeps hw | endsUnwindSweep hw => rw [hw.silent.1] at closes; cases closes
      | sends | endsFlush => cases List.mem_singleton.1 closes
      | _ => cases closes

/-- The exporter is shut down within the time of the caller who requested the shutdown first. -/
theorem Run.first_request_of_close {name : String} {config : BatchConfig} {s : Batch α}
    {labels : List (Label α)} {notes : List (Note α)}
    (run : Run (start name config) labels notes s) {limit : Duration}
    (closed : .close limit ∈ calls notes) : FirstRequest (start name config) labels limit := by
  induction run with
  | nil => cases closed
  | @snoc s u labels notes new label run step ih =>
      rw [calls_append] at closed
      rcases List.mem_append.1 closed with old | now
      · exact (ih old).append _
      · obtain ⟨registered, running⟩ := (moves_of_step step).closeLimit_of_close now
        have requested := (run.shutsDown (shutsDown_start _ _)).requested_of_closeLimit registered
        rcases run.first_request requested with first | terminated
        · rw [run.closeLimit registered] at first
          exact first.append _
        · exact absurd (running.symm.trans terminated) nofun

end Telemetry.Batch
