import Telemetry.Batch.Step
import Telemetry.Proofs.Queue

set_option autoImplicit false

/-! # Steps of a batch processor, as rules

`Batch.step` computes the next state. The relations here say what it computes as rules: one rule
for each thing a thread can do, with what has to hold for it and all that it changes. Every proof
about runs goes by cases on these rules and never opens the functions. -/

namespace Telemetry.Batch

variable {α : Type}

/-! ## Discarding -/

/-- The rules of discarding what is queued. -/
inductive Sweep.Moves (s : Batch α) :
    Sweep → Batch α → Option Sweep → List (Note α) → Prop where
  | takes {n : Nat} {a : α} {rest : List α} :
      n < s.queue.capacity → s.queue.items = a :: rest →
      Moves s (.taking n) { s with queue := ⟨s.queue.capacity, rest⟩ } (some (.taking (n + 1)))
        [.lost a]
  | findsNothing :
      s.queue.capacity ≤ 0 ∨ s.queue.items = [] → Moves s (.taking 0) s none []
  | stops {n : Nat} :
      s.queue.capacity ≤ n ∨ s.queue.items = [] →
      Moves s (.taking n) s (some (.unreceiving n)) []
  | unreceives {n : Nat} :
      Moves s (.unreceiving n) (s.count fun c => c.unreceive n.toUInt64) (some (.counting n)) []
  | counts {n : Nat} :
      Moves s (.counting n) (s.count fun c => c.dropLate n.toUInt64) none []

theorem Sweep.moves_of_step {s t : Batch α} {w : Sweep} {next : Option Sweep}
    {notes : List (Note α)} (h : w.step s = (t, next, notes)) : w.Moves s t next notes := by
  cases w with
  | taking n =>
      -- Both ways to stop lead to the same place: nothing to count, or the count of `n` records.
      have stop (hs : s.queue.capacity ≤ n ∨ s.queue.items = []) :
          Sweep.Moves s (.taking n) s (if n = 0 then none else some (.unreceiving n)) [] := by
        by_cases h0 : n = 0
        · subst h0
          rw [if_pos rfl]
          exact .findsNothing hs
        · rw [if_neg h0]
          exact .stops hs
      simp only [step] at h
      split at h
      · rename_i hn
        split at h
        · rename_i a q hq
          obtain ⟨hi, hc⟩ := Queue.pop?_eq_some_iff.1 hq
          obtain ⟨capacity, items⟩ := q
          obtain rfl : capacity = s.queue.capacity := hc
          cases h
          exact .takes hn hi
        · rename_i hq
          cases h
          exact stop (.inr (Queue.pop?_eq_none_iff.1 hq))
      · rename_i hn
        cases h
        exact stop (.inl (Nat.le_of_not_lt hn))
  | unreceiving n => cases h; exact .unreceives
  | counting n => cases h; exact .counts

/-! ## Callers -/

/-- What becomes of a waiting worker that is woken. -/
def Worker.woken : Worker α → Worker α
  | .asleep _ => .asleep true
  | w => w

theorem wakeWorker_eq (s : Batch α) : s.wakeWorker = { s with worker := s.worker.woken } := by
  obtain ⟨_, _, _, _, _, _, _, _, _, worker, _, _⟩ := s
  cases worker <;> rfl

/-- Where a look at the answer to a request to flush may lead. -/
inductive Caller.LooksAtFlush (s : Batch α) (number : Nat) (limit : Duration) :
    Caller α → Prop where
  | answered : number ≤ s.control.flushCompleted →
      LooksAtFlush s number limit (.done (some s.control.flushResult))
  | expired : s.control.flushCompleted < number →
      LooksAtFlush s number limit (.done (some (.error (.timeout limit))))
  | waits : s.control.flushCompleted < number →
      LooksAtFlush s number limit (.awaitingFlush number limit false)

/-- Where a look at the answer to a request to shut down may lead, and what it shows. -/
inductive Caller.LooksAtShutdown (s : Batch α) (limit : Duration) (implied : Bool) :
    Caller α → List (Note α) → Prop where
  | answered {r : ProcessorResult} : s.control.shutdownResult = some r →
      LooksAtShutdown s limit implied (.claiming r implied) []
  | expired : s.control.shutdownResult = none →
      LooksAtShutdown s limit implied (.leaving (.error (.timeout limit)) implied)
        [.event (s.lateEvent limit)]
  | waits : s.control.shutdownResult = none →
      LooksAtShutdown s limit implied (.awaitingShutdown limit implied false) []

/-- The state behind a new request to flush. -/
def registerFlush (s : Batch α) (limit : Duration) : Batch α :=
  { s with
    control := { s.control with
      flushRequested := s.control.flushRequested + 1
      flushLimit := limit }
    worker := s.worker.woken }

/-- The state behind the first request to shut down. -/
def registerShutdown (s : Batch α) (limit : Duration) : Batch α :=
  { s with
    control := { s.control with shutdownRequested := true, shutdownLimit := limit }
    isShutdown := true
    worker := s.worker.woken }

/-- The rules of a caller. -/
inductive Caller.Moves (s : Batch α) :
    Caller α → Batch α → Caller α → List (Note α) → Prop where
  | comesLate {a : α} : s.isShutdown = true → Moves s (.receiving a) s (.refusing a) []
  | enters {a : α} : s.isShutdown = false → Moves s (.receiving a) s (.offering a) []
  | countsLate {a : α} :
      Moves s (.refusing a) (s.count fun c => c.dropLate 1) (.discardingLate a) []
  | discardsLate {a : α} : Moves s (.discardingLate a) s (.done none) [.lost a]
  | queues {a : α} : s.queue.length < s.queue.capacity →
      Moves s (.offering a) { s with queue := ⟨s.queue.capacity, s.queue.items ++ [a]⟩ }
        .counting [.accepted a]
  | losesNewest {a : α} : s.queue.capacity ≤ s.queue.length → s.config.overflow = .dropNewest →
      Moves s (.offering a) s (.overflowing a none) []
  | makesRoom {a : α} : s.queue.capacity ≤ s.queue.length → s.config.overflow = .dropOldest →
      Moves s (.offering a) s (.evicting a) []
  | evicts {a old : α} {rest : List α} : s.queue.items = old :: rest →
      Moves s (.evicting a) { s with queue := ⟨s.queue.capacity, rest⟩ }
        (.overflowing old (some a)) []
  | retries {a : α} : s.queue.items = [] → Moves s (.evicting a) s (.offering a) []
  | countsOverflow {lost : α} {next : Option α} :
      Moves s (.overflowing lost next) (s.count Counters.overflow) (.warning lost next) []
  | warns {lost : α} {next : Option α} :
      Moves s (.warning lost next) { s with overflowWarned := true } (.discarding lost next)
        (if s.overflowWarned then [] else [.event s.overflowEvent])
  | discardsOldest {lost a : α} :
      Moves s (.discarding lost (some a)) s (.offering a) [.lost lost]
  | discardsNewest {lost : α} :
      Moves s (.discarding lost none) s .checkingDrain [.lost lost]
  | countsReceived : Moves s .counting (s.count Counters.receive) .checkingDrain []
  | beginsSweep : s.isDrained = true → Moves s .checkingDrain s (.sweeping (.taking 0)) []
  | needsNoSweep : s.isDrained = false → Moves s .checkingDrain s .measuring []
  | sweeps {w w' : Sweep} {t : Batch α} {notes : List (Note α)} :
      w.Moves s t (some w') notes → Moves s (.sweeping w) t (.sweeping w') notes
  | endsSweep {w : Sweep} {t : Batch α} {notes : List (Note α)} :
      w.Moves s t none notes → Moves s (.sweeping w) t .measuring notes
  | findsBatch : s.config.maxBatchSize.toNat ≤ s.queue.length →
      Moves s .measuring s .signaling []
  | findsNoBatch : s.queue.length < s.config.maxBatchSize.toNat →
      Moves s .measuring s (.done none) []
  | signals : s.exportSignaled = false →
      Moves s .signaling { s with exportSignaled := true } .notifying []
  | signalsAgain : s.exportSignaled = true →
      Moves s .signaling { s with exportSignaled := true } (.done none) []
  | notifies : Moves s .notifying { s with worker := s.worker.woken } (.done none) []
  | flushesLate {limit : Duration} : s.isShutdown = true →
      Moves s (.flushing limit) s (.done (some (.error .alreadyShutdown))) []
  | flushes {limit : Duration} : s.isShutdown = false →
      Moves s (.flushing limit) s (.requestingFlush limit) []
  | flushRefused {limit : Duration} : s.control.shutdownRequested = true →
      Moves s (.requestingFlush limit) s (.done (some (.error .alreadyShutdown))) []
  | requestsFlush {limit : Duration} {c : Caller α} : s.control.shutdownRequested = false →
      LooksAtFlush s (s.control.flushRequested + 1) limit c →
      Moves s (.requestingFlush limit) (s.registerFlush limit) c []
  | looksAtFlush {number : Nat} {limit : Duration} {notified : Bool} {c : Caller α} :
      LooksAtFlush s number limit c →
      Moves s (.awaitingFlush number limit notified) s c []
  | dropsAgain : s.control.shutdownRequested = true → Moves s .dropping s (.done none) []
  | drops : s.control.shutdownRequested = false →
      Moves s .dropping s (.closing s.config.shutdownTimeout true) []
  | closesAgain {limit : Duration} {implied : Bool} {c : Caller α} {notes : List (Note α)} :
      s.control.shutdownRequested = true → LooksAtShutdown s limit implied c notes →
      Moves s (.closing limit implied) s c notes
  | closes {limit : Duration} {implied : Bool} {c : Caller α} {notes : List (Note α)} :
      s.control.shutdownRequested = false → LooksAtShutdown s limit implied c notes →
      Moves s (.closing limit implied) (s.registerShutdown limit) c
        (.event (s.plainEvent .debug "batch processor shutting down") :: notes)
  | looksAtShutdown {limit : Duration} {implied notified : Bool} {c : Caller α}
      {notes : List (Note α)} :
      LooksAtShutdown s limit implied c notes →
      Moves s (.awaitingShutdown limit implied notified) s c notes
  | claims {r : ProcessorResult} {implied : Bool} : s.workerClaimed = false →
      Moves s (.claiming r implied) { s with workerClaimed := true } (.joining r implied) []
  | claimsAgain {r : ProcessorResult} {implied : Bool} : s.workerClaimed = true →
      Moves s (.claiming r implied) { s with workerClaimed := true } (.leaving r implied) []
  | joins {r : ProcessorResult} {implied panicked : Bool} : s.worker = .stopped panicked →
      Moves s (.joining r implied) s (.leaving r implied)
        (if panicked then [.event (s.plainEvent .error "batch worker panicked")] else [])
  | leavesDrop {r : ProcessorResult} :
      Moves s (.leaving r true) s (.done none)
        (match r with | .ok () => [] | .error e => [.event (s.dropEvent e)])
  | leaves {r : ProcessorResult} : Moves s (.leaving r false) s (.done (some r)) []

theorem Caller.looksAtFlush_lookAtFlush (s : Batch α) (number : Nat) (limit : Duration)
    (expired : Bool) : LooksAtFlush s number limit (s.lookAtFlush number limit expired) := by
  unfold lookAtFlush
  split
  · rename_i h
    exact .answered h
  · rename_i h
    split
    · exact .expired (Nat.lt_of_not_le h)
    · exact .waits (Nat.lt_of_not_le h)

theorem Caller.looksAtShutdown_lookAtShutdown (s : Batch α) (limit : Duration)
    (implied expired : Bool) :
    LooksAtShutdown s limit implied (s.lookAtShutdown limit implied expired).1
      (s.lookAtShutdown limit implied expired).2 := by
  unfold lookAtShutdown
  split
  · rename_i h
    exact .answered h
  · rename_i h
    split
    · exact .expired h
    · exact .waits h

theorem Caller.moves_requestFlush (s : Batch α) (limit : Duration) (expired : Bool) :
    Moves s (.requestingFlush limit) (s.requestFlush limit expired).state
      (s.requestFlush limit expired).place (s.requestFlush limit expired).notes := by
  unfold requestFlush
  split
  · rename_i h
    exact .flushRefused h
  · rename_i h
    have look := looksAtFlush_lookAtFlush s (s.control.flushRequested + 1) limit expired
    have moves := Moves.requestsFlush (by simpa using h) look
    simp only [wakeWorker_eq]
    exact moves

theorem Caller.moves_requestShutdown (s : Batch α) (limit : Duration) (implied expired : Bool) :
    Moves s (.closing limit implied) (s.requestShutdown limit implied expired).state
      (s.requestShutdown limit implied expired).place
      (s.requestShutdown limit implied expired).notes := by
  have look := looksAtShutdown_lookAtShutdown s limit implied expired
  unfold requestShutdown
  split
  · rename_i h
    exact .closesAgain h look
  · rename_i h
    have moves := Moves.closes (by simpa using h) look
    simp only [wakeWorker_eq]
    exact moves

/-- Every step of a caller is by one of the rules. -/
theorem Caller.moves_of_step {s : Batch α} {c : Caller α} {expired : Bool}
    {m : Move α (Caller α)} (h : c.step s expired = some m) :
    c.Moves s m.state m.place m.notes := by
  cases c with
  | receiving a =>
      cases h
      cases hs : s.isShutdown with
      | true => exact .comesLate hs
      | false => exact .enters hs
  | refusing a => cases h; exact .countsLate
  | discardingLate a => cases h; exact .discardsLate
  | offering a =>
      simp only [step] at h
      split at h
      · rename_i q hq
        obtain ⟨room, rfl⟩ := Queue.push?_eq_some_iff.1 hq
        cases h
        exact .queues room
      · rename_i hq
        have full := Queue.push?_eq_none_iff.1 hq
        split at h
        · rename_i policy
          cases h
          exact .losesNewest full policy
        · rename_i policy
          cases h
          exact .makesRoom full policy
  | evicting a =>
      simp only [step] at h
      split at h
      · rename_i old q hq
        obtain ⟨hi, hc⟩ := Queue.pop?_eq_some_iff.1 hq
        obtain ⟨capacity, items⟩ := q
        obtain rfl : capacity = s.queue.capacity := hc
        cases h
        exact .evicts hi
      · rename_i hq
        cases h
        exact .retries (Queue.pop?_eq_none_iff.1 hq)
  | overflowing lost next => cases h; exact .countsOverflow
  | warning lost next => cases h; exact .warns
  | discarding lost next =>
      cases h
      cases next with
      | none => exact .discardsNewest
      | some a => exact .discardsOldest
  | counting => cases h; exact .countsReceived
  | checkingDrain =>
      cases h
      cases hd : s.isDrained with
      | true => exact .beginsSweep hd
      | false => exact .needsNoSweep hd
  | sweeping w =>
      simp only [step] at h
      split at h
      · rename_i t w' notes hw
        cases h
        exact .sweeps (Sweep.moves_of_step hw)
      · rename_i t notes hw
        cases h
        exact .endsSweep (Sweep.moves_of_step hw)
  | measuring =>
      cases h
      show Moves s .measuring s (if _ then _ else _) []
      split
      · rename_i full
        exact .findsBatch full
      · rename_i small
        exact .findsNoBatch (Nat.lt_of_not_le small)
  | signaling =>
      cases h
      show Moves s .signaling _ (if s.exportSignaled = true then _ else _) []
      cases hs : s.exportSignaled with
      | true => exact .signalsAgain hs
      | false => exact .signals hs
  | notifying =>
      cases h
      show Moves s .notifying s.wakeWorker (.done none) []
      rw [wakeWorker_eq]
      exact .notifies
  | flushing limit =>
      cases h
      cases hs : s.isShutdown with
      | true => exact .flushesLate hs
      | false => exact .flushes hs
  | requestingFlush limit => cases h; exact moves_requestFlush s limit expired
  | awaitingFlush number limit notified =>
      cases h
      exact .looksAtFlush (looksAtFlush_lookAtFlush s number limit expired)
  | dropping =>
      cases h
      cases hs : s.control.shutdownRequested with
      | true => exact .dropsAgain hs
      | false => exact .drops hs
  | closing limit implied => cases h; exact moves_requestShutdown s limit implied expired
  | awaitingShutdown limit implied notified =>
      cases h
      exact .looksAtShutdown (looksAtShutdown_lookAtShutdown s limit implied expired)
  | claiming r implied =>
      cases h
      show Moves s (.claiming r implied) _ (if s.workerClaimed = true then _ else _) []
      cases hs : s.workerClaimed with
      | true => exact .claimsAgain hs
      | false => exact .claims hs
  | joining r implied =>
      simp only [step] at h
      split at h
      · rename_i panicked hw
        cases h
        exact .joins hw
      · cases h
  | leaving r implied =>
      cases implied with
      | true => cases h; exact .leavesDrop
      | false => cases h; exact .leaves
  | done r => cases h

/-! ## The worker -/

/-- Whether a pass takes no more records for its next batch: the batch is as long as it may be, or
the queue is empty. -/
def Pass.Ends (p : Pass) (s : Batch α) (size : Nat) : Prop :=
  p.limit s.config ≤ size ∨ s.queue.items = []

/-- The rules of the worker; the ends of calls on the exporter are among them. -/
inductive Worker.Moves (s : Batch α) :
    Worker α → Batch α → Worker α → List (Note α) → Prop where
  | beginsDrain : s.control.shutdownRequested = true →
      Moves s .deciding s (.collecting (.finalDrain s.control.shutdownLimit) []) []
  | beginsFlush : s.control.shutdownRequested = false →
      s.control.flushCompleted < s.control.flushRequested →
      Moves s .deciding s
        (.rearming (.flush s.control.flushRequested s.control.flushLimit)) []
  | beginsRoutine : s.control.shutdownRequested = false →
      s.control.flushRequested ≤ s.control.flushCompleted →
      Moves s .deciding s (.rearming .routine) []
  | fallsAsleep : s.control.shutdownRequested = false →
      s.control.flushRequested ≤ s.control.flushCompleted → s.exportSignaled = false →
      Moves s .deciding s (.asleep false) []
  | wakes {notified : Bool} : Moves s (.asleep notified) s .deciding []
  | rearms {errand : Errand} :
      Moves s (.rearming errand) { s with exportSignaled := false } (.measuring errand) []
  | measures {errand : Errand} :
      Moves s (.measuring errand) s (.collecting (.snapshot errand s.queue.length) []) []
  | collects {p : Pass} {batch : List α} {a : α} {rest : List α} :
      batch.length < p.limit s.config → s.queue.items = a :: rest →
      Moves s (.collecting p batch) { s with queue := ⟨s.queue.capacity, rest⟩ }
        (.collecting p (batch ++ [a])) []
  | sends {p : Pass} {batch : List α} : batch ≠ [] → p.Ends s batch.length →
      Moves s (.collecting p batch) s (.sending p batch) [.calls (.send batch)]
  | endsRoutine {p : Pass} : p.errand = .routine → p.Ends s 0 →
      Moves s (.collecting p []) s .deciding []
  | endsFlush {p : Pass} {number : Nat} {limit : Duration} : p.errand = .flush number limit →
      p.Ends s 0 →
      Moves s (.collecting p []) s (.flushing number limit p.result) [.calls (.flush limit)]
  | endsDrain {p : Pass} {limit : Duration} : p.errand = .shutdown limit → p.Ends s 0 →
      Moves s (.collecting p []) s (.sealing limit p.result) []
  | sent {p : Pass} {batch : List α} {o : Outcome} : o.guarded = .ok () →
      Moves s (.sending p batch) s (.countingExported p batch.length) [.ended o]
  | notSent {p : Pass} {batch : List α} {o : Outcome} {e : ExportError} :
      o.guarded = .error e →
      Moves s (.sending p batch) s (.countingFailure p batch.length e) [.ended o]
  | countsExported {p : Pass} {size : Nat} :
      Moves s (.countingExported p size) (s.count fun c => c.exportRecords size.toUInt64)
        (.countingBatch p size) []
  | countsBatch {p : Pass} {size : Nat} :
      Moves s (.countingBatch p size) (s.count Counters.exportBatch)
        (.collecting (p.after size (.ok ())) []) []
  | countsFailure {p : Pass} {size : Nat} {e : ExportError} :
      Moves s (.countingFailure p size e) (s.count Counters.failCall) (.countingFailed p size e)
        []
  | countsFailed {p : Pass} {size : Nat} {e : ExportError} :
      Moves s (.countingFailed p size e) (s.count fun c => c.failRecords size.toUInt64)
        (.naming p size e) []
  | reportsFailure {p : Pass} {size : Nat} {e : ExportError} {name : String} :
      Moves s (.naming p size e) s (.collecting (p.after size (.error e)) [])
        [.event (s.failureEvent name size e)]
  | panics {p : Pass} {size : Nat} {e : ExportError} :
      Moves s (.naming p size e) s .unwinding []
  | flushed {number : Nat} {limit : Duration} {r : ExportResult} {o : Outcome} :
      Moves s (.flushing number limit r) s
        (.publishing number (firstFailure r o.guarded).toProcessor) [.ended o]
  | publishes {number : Nat} {r : ProcessorResult} : s.control.flushCompleted < number →
      Moves s (.publishing number r)
        { s with control := { s.control with flushCompleted := number, flushResult := r } }
        .announcing []
  | publishesNothing {number : Nat} {r : ProcessorResult} :
      number ≤ s.control.flushCompleted → Moves s (.publishing number r) s .announcing []
  | announces : Moves s .announcing { s with callers := s.callers.map Caller.notify } .deciding []
  | seals {limit : Duration} {r : ExportResult} :
      Moves s (.sealing limit r) { s with isDrained := true } (.sweeping (.taking 0) limit r) []
  | sweeps {w w' : Sweep} {limit : Duration} {r : ExportResult} {t : Batch α}
      {notes : List (Note α)} :
      w.Moves s t (some w') notes →
      Moves s (.sweeping w limit r) t (.sweeping w' limit r) notes
  | endsSweep {w : Sweep} {limit : Duration} {r : ExportResult} {t : Batch α}
      {notes : List (Note α)} :
      w.Moves s t none notes →
      Moves s (.sweeping w limit r) t (.closing limit r) (notes ++ [.calls (.close limit)])
  | closed {limit : Duration} {r : ExportResult} {o : Outcome} : o.guarded = .ok () →
      Moves s (.closing limit r) s (.concluding r (.ok ())) [.ended o]
  | notClosed {limit : Duration} {r : ExportResult} {o : Outcome} {e : ExportError} :
      o.guarded = .error e → Moves s (.closing limit r) s (.namingClose r e) [.ended o]
  | reportsClose {r : ExportResult} {e : ExportError} {name : String} :
      Moves s (.namingClose r e) s (.concluding r (.error e)) [.event (s.closeEvent name e)]
  | panicsClosing {r : ExportResult} {e : ExportError} :
      Moves s (.namingClose r e) s .unwinding []
  | concludes {r closed : ExportResult} :
      Moves s (.concluding r closed) (s.completeShutdown r.toProcessor closed.toProcessor)
        .announcingEnd []
  | announcesEnd :
      Moves s .announcingEnd { s with callers := s.callers.map Caller.notify } .reporting []
  | reports :
      Moves s .reporting s (.stopped false)
        [.event (s.plainEvent .debug "batch worker stopped")]
  | unwinds :
      Moves s .unwinding s.terminate .unwindSealing
        [.event (s.plainEvent .error "batch worker terminated unexpectedly")]
  | unwindSeals :
      Moves s .unwindSealing { s with isDrained := true } (.unwindSweeping (.taking 0)) []
  | unwindSweeps {w w' : Sweep} {t : Batch α} {notes : List (Note α)} :
      w.Moves s t (some w') notes →
      Moves s (.unwindSweeping w) t (.unwindSweeping w') notes
  | endsUnwindSweep {w : Sweep} {t : Batch α} {notes : List (Note α)} :
      w.Moves s t none notes → Moves s (.unwindSweeping w) t .unwindAnnouncing notes
  | unwindAnnounces :
      Moves s .unwindAnnouncing { s with callers := s.callers.map Caller.notify } (.stopped true)
        []

theorem Worker.moves_nextTask (s : Batch α) (expired : Bool) :
    Moves s .deciding s (s.nextTask expired) [] := by
  unfold nextTask
  split
  · rename_i shutdown
    exact .beginsDrain shutdown
  · rename_i shutdown
    have running : s.control.shutdownRequested = false := by simpa using shutdown
    split
    · rename_i flush
      exact .beginsFlush running flush
    · rename_i flush
      have answered := Nat.le_of_not_lt flush
      split
      · exact .beginsRoutine running answered
      · rename_i calm
        exact .fallsAsleep running answered (by simp_all)

theorem Worker.moves_dispatch {s : Batch α} {p : Pass} {batch : List α}
    (h : p.Ends s batch.length) :
    Moves s (.collecting p batch) s (p.dispatch batch).1 (p.dispatch batch).2 := by
  cases batch with
  | nil =>
      show Moves s (.collecting p []) s p.finish.1 p.finish.2
      unfold Pass.finish
      split
      · rename_i errand
        exact .endsRoutine errand h
      · rename_i errand
        exact .endsFlush errand h
      · rename_i errand
        exact .endsDrain errand h
  | cons a rest => exact .sends (List.cons_ne_nil a rest) h

theorem Worker.moves_publish (s : Batch α) (number : Nat) (r : ProcessorResult) :
    Moves s (.publishing number r) (s.completeFlush number r) .announcing [] := by
  unfold completeFlush
  split
  · rename_i h
    exact .publishes h
  · rename_i h
    exact .publishesNothing (Nat.le_of_not_lt h)

/-- Every step of the worker on its own is by one of the rules. -/
theorem Worker.moves_of_step {s : Batch α} {w : Worker α} {expired : Bool}
    {m : Move α (Worker α)} (h : w.step s expired = some m) :
    w.Moves s m.state m.place m.notes := by
  cases w with
  | deciding => cases h; exact moves_nextTask s expired
  | asleep notified => cases h; exact .wakes
  | rearming errand => cases h; exact .rearms
  | measuring errand => cases h; exact .measures
  | collecting p batch =>
      simp only [step] at h
      split at h
      · rename_i room
        split at h
        · rename_i a q hq
          obtain ⟨hi, hc⟩ := Queue.pop?_eq_some_iff.1 hq
          obtain ⟨capacity, items⟩ := q
          obtain rfl : capacity = s.queue.capacity := hc
          cases h
          exact .collects room hi
        · rename_i hq
          cases h
          exact moves_dispatch (.inr (Queue.pop?_eq_none_iff.1 hq))
      · rename_i full
        cases h
        exact moves_dispatch (.inl (Nat.le_of_not_lt full))
  | countingExported p size => cases h; exact .countsExported
  | countingBatch p size => cases h; exact .countsBatch
  | countingFailure p size e => cases h; exact .countsFailure
  | countingFailed p size e => cases h; exact .countsFailed
  | publishing number r => cases h; exact moves_publish s number r
  | announcing => cases h; exact .announces
  | sealing limit r => cases h; exact .seals
  | sweeping w limit r =>
      simp only [step] at h
      split at h
      · rename_i t w' notes hw
        cases h
        exact .sweeps (Sweep.moves_of_step hw)
      · rename_i t notes hw
        cases h
        exact .endsSweep (Sweep.moves_of_step hw)
  | concluding r closed => cases h; exact .concludes
  | announcingEnd => cases h; exact .announcesEnd
  | reporting => cases h; exact .reports
  | unwinding => cases h; exact .unwinds
  | unwindSealing => cases h; exact .unwindSeals
  | unwindSweeping w =>
      simp only [step] at h
      split at h
      · rename_i t w' notes hw
        cases h
        exact .unwindSweeps (Sweep.moves_of_step hw)
      · rename_i t notes hw
        cases h
        exact .endsUnwindSweep (Sweep.moves_of_step hw)
  | unwindAnnouncing => cases h; exact .unwindAnnounces
  | sending | flushing | closing | naming | namingClose | stopped => cases h

/-- Every end of a call on the exporter is by one of the rules. -/
theorem Worker.moves_of_ended {s : Batch α} {w w' : Worker α} {o : Outcome}
    (h : w.ended o = some w') : w.Moves s s w' [.ended o] := by
  cases w with
  | sending p batch =>
      simp only [ended] at h
      split at h
      · rename_i ok
        cases h
        exact .sent ok
      · rename_i e failed
        cases h
        exact .notSent failed
  | flushing number limit r => cases h; exact .flushed
  | closing limit r =>
      simp only [ended] at h
      split at h
      · rename_i ok
        cases h
        exact .closed ok
      · rename_i e failed
        cases h
        exact .notClosed failed
  | _ => cases h

/-- Every answer to the question for the exporter's name leads on by one of the rules. -/
theorem Worker.moves_of_named {s : Batch α} {w : Worker α} {name : Except Panic String}
    {m : Move α (Worker α)} (h : w.named s name = some m) :
    w.Moves s m.state m.place m.notes := by
  cases w with
  | naming p size e =>
      cases name with
      | ok name => cases h; exact .reportsFailure
      | error panic => cases h; exact .panics
  | namingClose r e =>
      cases name with
      | ok name => cases h; exact .reportsClose
      | error panic => cases h; exact .panicsClosing
  | _ => cases h

/-! ## The whole -/

/-- The caller that takes the step, if it is a caller's. -/
def Label.caller? : Label α → Option Nat
  | .caller i _ => some i
  | _ => none

/-- The rules of the whole: a call begins, a caller moves or the worker moves. -/
inductive Moves (s : Batch α) : Label α → Batch α → List (Note α) → Prop where
  | begins (op : Operation α) :
      Moves s (.begins op) { s with callers := s.callers ++ [op.place] } []
  | caller {i : Nat} {expired : Bool} {c c' : Caller α} {t : Batch α} {notes : List (Note α)} :
      s.callers[i]? = some c → c.Moves s t c' notes →
      Moves s (.caller i expired) { t with callers := t.callers.set i c' } notes
  | worker {label : Label α} {t : Batch α} {w : Worker α} {notes : List (Note α)} :
      label.caller? = none → (∀ op, label ≠ .begins op) → s.worker.Moves s t w notes →
      Moves s label { t with worker := w } notes

theorem moves_of_step {s u : Batch α} {label : Label α} {notes : List (Note α)}
    (h : s.step label = some (u, notes)) : s.Moves label u notes := by
  cases label with
  | begins op => cases h; exact .begins op
  | caller i expired =>
      simp only [step, Option.bind_eq_bind, Option.bind_eq_some_iff] at h
      obtain ⟨c, hc, m, hm, h⟩ := h
      cases h
      exact .caller hc (Caller.moves_of_step hm)
  | worker expired =>
      obtain ⟨m, hm, h⟩ := Option.map_eq_some_iff.1 h
      cases h
      exact .worker rfl (by intro op; exact nofun) (Worker.moves_of_step hm)
  | ended o =>
      obtain ⟨w, hw, h⟩ := Option.map_eq_some_iff.1 h
      cases h
      exact .worker rfl (by intro op; exact nofun) (Worker.moves_of_ended hw)
  | named name =>
      obtain ⟨m, hm, h⟩ := Option.map_eq_some_iff.1 h
      cases h
      exact .worker rfl (by intro op; exact nofun) (Worker.moves_of_named hm)

end Telemetry.Batch
