import Telemetry.Counters
import Telemetry.Export.Retry
import Telemetry.Proofs.Export.Observed

set_option autoImplicit false

/-! # What the inner exporter of a retrying one goes through

The attempts to send a batch are told by the inner exporter alone: `tried` is its call at attempt
number `n`, behind attempts that all failed. The first attempt that is accepted, or refused because
the inner exporter was shut down, is the last one, and what the inner exporter goes through is the
batch, and for each retry a pause and the batch again. -/

namespace Telemetry

variable {α σ : Type}

/-- The failures after which a batch is sent again: all but that of an exporter that was shut
down. -/
def Outcome.Fails (o : Outcome) : Prop :=
  ∃ e, o = .returned (.error e) ∧ e ≠ .shutdown

/-- Asking the exporter for its name does not panic. -/
def Exporter.IsNamed (E : Exporter α σ) : Prop :=
  ∀ t, ∃ name, (E.name t).1 = .ok name

/-- Giving the exporter a batch does not panic. -/
def Exporter.Returns (E : Exporter α σ) : Prop :=
  ∀ batch t, ∃ r, (E.call (.send batch) t).outcome = .returned r

theorem Duration.min_le_right (a b : Duration) : a.min b ≤ b := by
  unfold Duration.min
  split
  · assumption
  · exact Nat.le_refl _

/-- A pause is at most as long as the longest one. -/
theorem RetryConfig.backoff_le (c : RetryConfig) (retry : Nat) : c.backoff retry ≤ c.maxDelay := by
  unfold RetryConfig.backoff
  split
  · exact Duration.min_le_right ..
  · exact Nat.le_refl _

namespace Retrying

/-! ## Attempts -/

section

variable (c : RetryConfig) (E : Exporter α σ) (batch : List α)

/-- The inner call of attempt number `n` from the state `t`, if the attempts before it failed.
Behind each of them the inner exporter was asked for its name, for the report, and a pause was
slept off. -/
def tried (t : σ) : Nat → Call σ
  | 0 => E.call (.send batch) t
  | n + 1 => E.call (.send batch) (E.elapse (c.backoff (n + 1)) (E.name (tried t n).state).2)

/-- Attempt number `k` is the first one whose answer, `r`, is final. -/
structure FirstFinal (t : σ) (k : Nat) (r : ExportResult) : Prop where
  fails : ∀ j < k, (tried c E batch t j).outcome.Fails
  answered : (tried c E batch t k).outcome = .returned r
  final : r = .ok () ∨ r = .error .shutdown

/-- The name that the report of a failure of attempt number `j` needs is told. -/
def Reported (t : σ) (j : Nat) : Prop :=
  ∃ name, (E.name (tried c E batch t j).state).1 = .ok name

/-- A retrying exporter behind `n` attempts that failed. -/
def after (s : Retrying σ) : Nat → Retrying σ
  | 0 => s
  | n + 1 =>
      ⟨(E.name (tried c E batch s.inner n).state).2, s.totalRetries + n.toUInt64, s.recovered⟩

theorem call_prepare (s : Retrying σ) (n : Nat) :
    E.call (.send batch) (prepare c E n (after c E batch s n)).inner
      = tried c E batch s.inner n := by
  cases n <;> simp [prepare, after, tried]

theorem totalRetries_prepare (s : Retrying σ) (n : Nat) :
    (prepare c E n (after c E batch s n)).totalRetries = s.totalRetries + n.toUInt64 := by
  cases n with
  | zero => exact (UInt64.add_zero _).symm
  | succ n => simp [prepare, after, toUInt64_succ, UInt64.add_assoc]

theorem recovered_prepare (s : Retrying σ) (n : Nat) :
    (prepare c E n (after c E batch s n)).recovered = s.recovered := by
  cases n <;> simp [prepare, after]

variable {c E batch} {s : Retrying σ} {n : Nat}

/-- An attempt that fails counts as a retry unless it is the first one. -/
theorem attempt_of_error (reported : Reported c E batch s.inner n) {e : ExportError}
    (failed : (tried c E batch s.inner n).outcome = .returned (.error e)) :
    (attempt c E n batch (after c E batch s n)).outcome = .returned (.error e) ∧
      (attempt c E n batch (after c E batch s n)).state = after c E batch s (n + 1) := by
  obtain ⟨name, told⟩ := reported
  have asked : E.name (tried c E batch s.inner n).state
      = (.ok name, (E.name (tried c E batch s.inner n).state).2) := Prod.ext told rfl
  simp only [attempt, call_prepare, failed, conclude]
  rw [asked]
  simp only [totalRetries_prepare, recovered_prepare]
  exact ⟨trivial, rfl⟩

/-- An attempt that succeeds counts as a recovery unless it is the first one. -/
theorem attempt_of_ok (accepted : (tried c E batch s.inner n).outcome = .returned (.ok ())) :
    (attempt c E n batch (after c E batch s n)).outcome = .returned (.ok ()) ∧
      (attempt c E n batch (after c E batch s n)).state
        = ⟨(tried c E batch s.inner n).state, s.totalRetries + n.toUInt64,
            if n = 0 then s.recovered else s.recovered + 1⟩ := by
  simp only [attempt, call_prepare, accepted, conclude]
  by_cases first : n = 0
  · simp [first, prepare, after]
  · simp [first, totalRetries_prepare, recovered_prepare]

/-! ## All attempts for a batch -/

/-- An attempt with a final answer is the last one. -/
theorem attempts_of_final {left : Nat} {s : Retrying σ} {r : ExportResult}
    (answered : (attempt c E n batch s).outcome = .returned r) (final : isFinal r = true) :
    attempts c E batch left n s = attempt c E n batch s := by
  unfold attempts
  simp [answered, final]

/-- Behind an attempt that failed, the next one is made. -/
theorem attempts_of_fails (reported : Reported c E batch s.inner n)
    (fails : (tried c E batch s.inner n).outcome.Fails) (left : Nat) :
    (attempts c E batch (left + 1) n (after c E batch s n)).outcome
        = (attempts c E batch left (n + 1) (after c E batch s (n + 1))).outcome ∧
      (attempts c E batch (left + 1) n (after c E batch s n)).state
        = (attempts c E batch left (n + 1) (after c E batch s (n + 1))).state := by
  obtain ⟨e, failed, again⟩ := fails
  obtain ⟨outcome, state⟩ := attempt_of_error reported failed
  rw [attempts, outcome, state]
  simp [isFinal, again]

/-- Behind the last attempt, the answer is that all have failed. -/
theorem attempts_of_last (reported : Reported c E batch s.inner n)
    (fails : (tried c E batch s.inner n).outcome.Fails) :
    (attempts c E batch 0 n (after c E batch s n)).outcome = .returned (exhausted c) ∧
      (attempts c E batch 0 n (after c E batch s n)).state = after c E batch s (n + 1) := by
  obtain ⟨e, failed, again⟩ := fails
  obtain ⟨outcome, state⟩ := attempt_of_error reported failed
  rw [attempts, outcome, state]
  simp [isFinal, again]

/-- Attempts that failed are followed by the next ones. -/
theorem attempts_behind {k : Nat} (reported : ∀ j < k, Reported c E batch s.inner j)
    (fails : ∀ j < k, (tried c E batch s.inner j).outcome.Fails) (left : Nat) :
    (attempts c E batch (left + k) 0 s).outcome
        = (attempts c E batch left k (after c E batch s k)).outcome ∧
      (attempts c E batch (left + k) 0 s).state
        = (attempts c E batch left k (after c E batch s k)).state := by
  induction k generalizing left with
  | zero => exact ⟨rfl, rfl⟩
  | succ k ih =>
      obtain ⟨outcome, state⟩ := ih (fun j before => reported j (Nat.lt_succ_of_lt before))
        (fun j before => fails j (Nat.lt_succ_of_lt before)) (left + 1)
      obtain ⟨outcome', state'⟩ := attempts_of_fails (reported k (Nat.lt_succ_self k))
        (fails k (Nat.lt_succ_self k)) left
      rw [Nat.add_right_comm] at outcome state
      exact ⟨outcome.trans outcome', state.trans state'⟩

/-- If attempt number `k` is the first one with a final answer, it is the last one. -/
theorem call_of_final {k : Nat} (within : k ≤ c.maxRetries.toNat)
    (reported : ∀ j < k, Reported c E batch s.inner j)
    (fails : ∀ j < k, (tried c E batch s.inner j).outcome.Fails) {r : ExportResult}
    (answered : (attempt c E k batch (after c E batch s k)).outcome = .returned r)
    (final : isFinal r = true) :
    (call c E (.send batch) s).outcome = .returned r ∧
      (call c E (.send batch) s).state = (attempt c E k batch (after c E batch s k)).state := by
  obtain ⟨outcome, state⟩ := attempts_behind reported fails (c.maxRetries.toNat - k)
  rw [Nat.sub_add_cancel within, attempts_of_final answered final] at outcome state
  exact ⟨outcome.trans answered, state⟩

theorem call_of_fails (reported : ∀ j ≤ c.maxRetries.toNat, Reported c E batch s.inner j)
    (fails : ∀ j ≤ c.maxRetries.toNat, (tried c E batch s.inner j).outcome.Fails) :
    (call c E (.send batch) s).outcome = .returned (exhausted c) ∧
      (call c E (.send batch) s).state = after c E batch s (c.maxRetries.toNat + 1) := by
  obtain ⟨outcome, state⟩ := attempts_behind (fun j before => reported j (Nat.le_of_lt before))
    (fun j before => fails j (Nat.le_of_lt before)) 0
  obtain ⟨outcome', state'⟩ := attempts_of_last (reported _ (Nat.le_refl _))
    (fails _ (Nat.le_refl _))
  rw [Nat.zero_add] at outcome state
  exact ⟨outcome.trans outcome', state.trans state'⟩

/-- An answer is final, or the attempt has failed. -/
theorem final_or_fails (r : ExportResult) :
    (r = .ok () ∨ r = .error .shutdown) ∨ (Outcome.returned r).Fails := by
  cases r with
  | ok => exact .inl (.inl rfl)
  | error e =>
      by_cases closed : e = .shutdown
      · exact .inl (.inr (congrArg _ closed))
      · exact .inr ⟨e, rfl, closed⟩

/-- The attempts come to a final answer, or they all fail. -/
theorem exists_final_or_fails (c : RetryConfig) (batch : List α) (returns : E.Returns) (t : σ)
    (attempts : Nat) :
    (∃ k r, k < attempts ∧ FirstFinal c E batch t k r) ∨
      ∀ j < attempts, (tried c E batch t j).outcome.Fails := by
  induction attempts with
  | zero => exact .inr fun j before => absurd before (Nat.not_lt_zero j)
  | succ n ih =>
      rcases ih with ⟨k, r, before, first⟩ | fails
      · exact .inl ⟨k, r, Nat.lt_succ_of_lt before, first⟩
      · obtain ⟨r, answered⟩ : ∃ r, (tried c E batch t n).outcome = .returned r := by
          cases n with
          | zero => exact returns batch _
          | succ n => exact returns batch _
        rcases final_or_fails r with final | failed
        · exact .inl ⟨n, r, Nat.lt_succ_self n, fails, answered, final⟩
        · refine .inr fun j before => ?_
          rcases Nat.lt_succ_iff_lt_or_eq.1 before with earlier | rfl
          · exact fails j earlier
          · rwa [answered]

end

/-! ## Under observation -/

section

variable (c : RetryConfig) (E : Exporter α σ) (batch : List α)

/-- What the inner exporter goes through until attempt number `k` has ended: it is given the batch,
and for each retry a pause is slept off and it is given the batch again. -/
def schedule (answers : Nat → Outcome) (k : Nat) : List (Incident α) :=
  .asked (.send batch) (answers 0) :: (List.range k).flatMap fun j =>
    [.slept (c.backoff (j + 1)), .asked (.send batch) (answers (j + 1))]

theorem schedule_succ (answers : Nat → Outcome) (k : Nat) :
    schedule c batch answers (k + 1) = schedule c batch answers k ++
      [.slept (c.backoff (k + 1)), .asked (.send batch) (answers (k + 1))] := by
  simp [schedule, List.range_succ]

theorem tried_observed (t : Observed α σ) (n : Nat) :
    tried c E.observed batch t n
      = (tried c E batch t.state n).map fun state =>
          ⟨state, t.log ++ schedule c batch (fun j => (tried c E batch t.state j).outcome) n⟩ := by
  induction n with
  | zero => rfl
  | succ n ih =>
      rw [tried, ih, schedule_succ, ← List.append_assoc]
      simp [Exporter.observed, Call.map, tried]

/-- A retrying exporter without what its inner exporter went through. -/
def forget (s : Retrying (Observed α σ)) : Retrying σ :=
  ⟨s.inner.state, s.totalRetries, s.recovered⟩

end

section

variable {τ : Type} {E : Exporter α σ} {F : Exporter α τ} {f : σ → τ}

/-- A retrying exporter of whose inner state only a part is looked at. -/
def map (f : σ → τ) (s : Retrying σ) : Retrying τ :=
  ⟨f s.inner, s.totalRetries, s.recovered⟩

theorem prepare_map (h : E.Shows f F) (c : RetryConfig) (s : Retrying σ) (n : Nat) :
    prepare c F n (s.map f) = (prepare c E n s).map f := by
  unfold prepare
  split
  · rfl
  · simp [map, h.elapse]

theorem conclude_map (h : E.Shows f F) (s : Retrying σ) (n : Nat) (r : ExportResult) :
    conclude F n r (s.map f) = ((conclude E n r s).1, (conclude E n r s).2.map f) := by
  cases r with
  | ok =>
      by_cases first : n = 0
      · simp [conclude, first]
      · simp [conclude, first, map]
  | error e =>
      simp only [conclude, map, h.name]
      rcases E.name s.inner with ⟨_ | _, t⟩ <;> rfl

theorem attempt_map (h : E.Shows f F) (c : RetryConfig) (batch : List α) (s : Retrying σ)
    (n : Nat) : (attempt c E n batch s).map (map f) = attempt c F n batch (s.map f) := by
  simp only [attempt, prepare_map h]
  generalize prepare c E n s = u
  have called : F.call (.send batch) (u.map f).inner = (E.call (.send batch) u.inner).map f :=
    (h.call (.send batch) u.inner).symm
  rw [called]
  rcases E.call (.send batch) u.inner with ⟨outcome, events, t⟩
  cases outcome with
  | panicked p => rfl
  | returned r =>
      have concluded := conclude_map h ⟨t, u.totalRetries, u.recovered⟩ n r
      simp only [map, Call.map] at concluded ⊢
      rw [concluded]
      rcases conclude E n r _ with ⟨_ | _, _⟩ <;> rfl

/-- The attempts for a batch do not depend on what is not looked at. -/
theorem attempts_map (h : E.Shows f F) (c : RetryConfig) (batch : List α) (left n : Nat)
    (s : Retrying σ) :
    (attempts c E batch left n s).map (map f) = attempts c F batch left n (s.map f) := by
  induction left generalizing n s with
  | zero =>
      unfold attempts
      rw [← attempt_map h]
      rcases attempt c E n batch s with ⟨r | p, events, t⟩
      · simp only [Call.map]
        split <;> rfl
      · rfl
  | succ left ih =>
      unfold attempts
      rw [← attempt_map h]
      rcases attempt c E n batch s with ⟨r | p, events, t⟩
      · simp only [Call.map]
        split
        · rfl
        · rw [← ih]
          rfl
      · rfl

/-- What an exporter shows, the retrying exporter around it shows. -/
theorem shows_map (h : E.Shows f F) (c : RetryConfig) :
    (exporter c E).Shows (map f) (exporter c F) where
  call := by
    intro request s
    cases request with
    | send batch => exact attempts_map h c batch c.maxRetries.toNat 0 s
    | flush limit | close limit =>
        simp only [exporter, call, map, ← h.call]
        rfl
  name := by
    intro s
    simp only [exporter, map, h.name]
  elapse := by
    intro d s
    simp only [exporter, map, h.elapse]

/-- Observation changes nothing in a call. -/
theorem call_observed (c : RetryConfig) (E : Exporter α σ) (request : Request α)
    (s : Retrying (Observed α σ)) :
    (call c E.observed request s).map forget = call c E request s.forget :=
  (shows_map E.observed_shows c).call request s

end

/-! ## One export -/

/-- How often an export that ended so at attempt number `k` counts as a recovery. -/
def recoveries (k : Nat) : ExportResult → UInt64
  | .ok () => if k = 0 then 0 else 1
  | .error _ => 0

/-- An export of a batch whose last attempt is number `k` and whose answer is `r`. -/
structure Exports (c : RetryConfig) (E : Exporter α σ) (batch : List α)
    (s : Retrying (Observed α σ)) (k : Nat) (r : ExportResult) : Prop where
  outcome : (call c E.observed (.send batch) s).outcome = .returned r
  log : (call c E.observed (.send batch) s).state.inner.log = s.inner.log ++
    schedule c batch (fun j => (tried c E batch s.inner.state j).outcome) k
  totalRetries : (call c E.observed (.send batch) s).state.totalRetries
    = s.totalRetries + k.toUInt64
  recovered : (call c E.observed (.send batch) s).state.recovered
    = s.recovered + recoveries k r

section

variable {c : RetryConfig} {E : Exporter α σ} {batch : List α} {s : Retrying (Observed α σ)}

theorem outcome_observed (t : Observed α σ) (j : Nat) :
    (tried c E.observed batch t j).outcome = (tried c E batch t.state j).outcome := by
  rw [tried_observed]
  rfl

theorem reported_observed (t : Observed α σ) (j : Nat) :
    Reported c E.observed batch t j ↔ Reported c E batch t.state j := by
  unfold Reported
  rw [tried_observed]
  rfl

theorem log_after (s : Retrying (Observed α σ)) (k : Nat) :
    (after c E.observed batch s (k + 1)).inner.log = s.inner.log ++
      schedule c batch (fun j => (tried c E batch s.inner.state j).outcome) k := by
  rw [after, tried_observed]
  rfl

/-- An export that ends behind an attempt that failed. -/
theorem exports_of_error {k : Nat} {e : ExportError}
    (outcome : (call c E.observed (.send batch) s).outcome = .returned (.error e))
    (state : (call c E.observed (.send batch) s).state = after c E.observed batch s (k + 1)) :
    Exports c E batch s k (.error e) where
  outcome := outcome
  log := by rw [state, log_after]
  totalRetries := by
    rw [state]
    rfl
  recovered := by
    rw [state]
    exact (UInt64.add_zero _).symm

/-- Attempts of which number `k` is the first one with a final answer. -/
theorem exports_of_final (named : E.IsNamed) {k : Nat} {r : ExportResult}
    (within : k ≤ c.maxRetries.toNat) (first : FirstFinal c E batch s.inner.state k r) :
    Exports c E batch s k r := by
  obtain ⟨fails, answered, final⟩ := first
  have reported (j : Nat) : Reported c E.observed batch s.inner j :=
    (reported_observed s.inner j).2 (named _)
  simp only [← outcome_observed] at fails
  rw [← outcome_observed] at answered
  rcases final with rfl | rfl
  · obtain ⟨outcome, state⟩ := attempt_of_ok answered
    obtain ⟨outcome', state'⟩ := call_of_final within (fun j _ => reported j) fails outcome rfl
    rw [state] at state'
    exact {
      outcome := outcome'
      log := by
        rw [state', tried_observed]
        rfl
      totalRetries := by rw [state']
      recovered := by
        rw [state']
        by_cases first : k = 0
        · simp [first, recoveries]
        · simp [first, recoveries] }
  · obtain ⟨outcome, state⟩ := attempt_of_error (reported k) answered
    obtain ⟨outcome', state'⟩ := call_of_final within (fun j _ => reported j) fails outcome rfl
    exact exports_of_error outcome' (state'.trans state)

/-- Attempts that all fail, and of which each one is reported. -/
theorem exports_of_reported
    (reported : ∀ j ≤ c.maxRetries.toNat, Reported c E batch s.inner.state j)
    (fails : ∀ j ≤ c.maxRetries.toNat, (tried c E batch s.inner.state j).outcome.Fails) :
    Exports c E batch s c.maxRetries.toNat (exhausted c) := by
  simp only [← reported_observed] at reported
  simp only [← outcome_observed] at fails
  obtain ⟨outcome, state⟩ := call_of_fails reported fails
  exact exports_of_error outcome state

/-- Attempts that all fail. -/
theorem exports_of_fails (named : E.IsNamed)
    (fails : ∀ j ≤ c.maxRetries.toNat, (tried c E batch s.inner.state j).outcome.Fails) :
    Exports c E batch s c.maxRetries.toNat (exhausted c) :=
  exports_of_reported (fun _ _ => named _) fails

/-- An export comes to its end: one of its attempts is the last one. -/
theorem exists_exports (returns : E.Returns) (named : E.IsNamed) (batch : List α)
    (s : Retrying (Observed α σ)) : ∃ k r, Exports c E batch s k r := by
  rcases exists_final_or_fails c batch returns s.inner.state (c.maxRetries.toNat + 1) with
    ⟨k, r, within, first⟩ | fails
  · exact ⟨k, r, exports_of_final named (Nat.le_of_lt_succ within) first⟩
  · exact ⟨_, _, exports_of_fails named fun j within => fails j (Nat.lt_succ_of_le within)⟩

end

/-! ## Any number of requests -/

/-- Requests one after the other. -/
def serve (c : RetryConfig) (E : Exporter α σ) : Retrying σ → List (Request α) → Retrying σ
  | s, [] => s
  | s, request :: rest => serve c E (call c E request s).state rest

/-- From `s` to `t` the inner exporter went through `new`: it was given `batches` different batches,
and each of them once more behind each pause; the pauses are the retries that were counted. -/
structure Paced (c : RetryConfig) (s t : Retrying (Observed α σ)) (batches : Nat)
    (new : List (Incident α)) : Prop where
  log : t.inner.log = s.inner.log ++ new
  sends : new.countP (·.isSend) = batches + new.countP (·.isPause)
  pauses : ∀ d, .slept d ∈ new → d ≤ c.maxDelay
  totalRetries : t.totalRetries = s.totalRetries + (new.countP (·.isPause)).toUInt64

section

variable {c : RetryConfig} {E : Exporter α σ} {s t u : Retrying (Observed α σ)}

theorem Paced.trans {n m : Nat} {new new' : List (Incident α)} (first : Paced c s t n new)
    (second : Paced c t u m new') : Paced c s u (n + m) (new ++ new') where
  log := by rw [second.log, first.log, List.append_assoc]
  sends := by
    have := first.sends
    have := second.sends
    simp only [List.countP_append]
    omega
  pauses d slept := (List.mem_append.1 slept).elim (first.pauses d) (second.pauses d)
  totalRetries := by
    rw [second.totalRetries, first.totalRetries, List.countP_append, toUInt64_add,
      UInt64.add_assoc]

theorem schedule_counts (c : RetryConfig) (batch : List α) (answers : Nat → Outcome) (k : Nat) :
    (schedule c batch answers k).countP (·.isSend) = k + 1 ∧
      (schedule c batch answers k).countP (·.isPause) = k := by
  induction k with
  | zero => exact ⟨rfl, rfl⟩
  | succ k ih =>
      obtain ⟨sends, pauses⟩ := ih
      rw [schedule_succ, List.countP_append, List.countP_append, sends, pauses]
      exact ⟨rfl, rfl⟩

theorem schedule_pauses {c : RetryConfig} {batch : List α} {answers : Nat → Outcome} {k : Nat}
    {d : Duration} (slept : .slept d ∈ schedule c batch answers k) : d ≤ c.maxDelay := by
  simp only [schedule, List.mem_cons, List.mem_flatMap, reduceCtorEq, false_or] at slept
  obtain ⟨j, -, paused⟩ := slept
  have pause : d = c.backoff (j + 1) := by simpa using paused
  rw [pause]
  exact c.backoff_le _

theorem Exports.paced {batch : List α} {k : Nat} {r : ExportResult} (h : Exports c E batch s k r) :
    ∃ new, Paced c s (call c E.observed (.send batch) s).state 1 new := by
  obtain ⟨sends, pauses⟩ := schedule_counts c batch
    (fun j => (tried c E batch s.inner.state j).outcome) k
  refine ⟨_, h.log, ?_, fun d => schedule_pauses, ?_⟩
  · rw [sends, pauses, Nat.add_comm]
  · rw [pauses, h.totalRetries]

/-- What is not a batch goes straight through. -/
theorem call_of_not_send {request : Request α} (other : request.kind ≠ .send)
    (s : Retrying (Observed α σ)) :
    call c E.observed request s = (E.call request s.inner.state).map fun t =>
      ⟨⟨t, s.inner.log ++ [.asked request (E.call request s.inner.state).outcome]⟩,
        s.totalRetries, s.recovered⟩ := by
  cases request with
  | send batch => exact absurd rfl other
  | flush limit => rfl
  | close limit => rfl

theorem paced_of_not_send {request : Request α} (other : request.kind ≠ .send)
    (s : Retrying (Observed α σ)) :
    Paced c s (call c E.observed request s).state 0
      [.asked request (E.call request s.inner.state).outcome] := by
  rw [call_of_not_send other]
  refine ⟨rfl, ?_, by simp, (UInt64.add_zero _).symm⟩
  cases request with
  | send batch => exact absurd rfl other
  | flush limit => rfl
  | close limit => rfl

/-- Any number of requests keep the pace. -/
theorem exists_paced (returns : E.Returns) (named : E.IsNamed) (requests : List (Request α))
    (s : Retrying (Observed α σ)) :
    ∃ new, Paced c s (serve c E.observed s requests) (requests.countP (·.kind = .send)) new := by
  induction requests generalizing s with
  | nil => exact ⟨[], by simp [serve], rfl, by simp, (UInt64.add_zero _).symm⟩
  | cons request rest ih =>
      obtain ⟨later, second⟩ := ih (call c E.observed request s).state
      by_cases batch : request.kind = .send
      · obtain ⟨records, rfl⟩ : ∃ records, request = .send records := by
          cases request with
          | send records => exact ⟨records, rfl⟩
          | flush limit => cases batch
          | close limit => cases batch
        obtain ⟨k, r, exported⟩ := exists_exports (c := c) returns named records s
        obtain ⟨new, first⟩ := exported.paced
        refine ⟨new ++ later, ?_⟩
        simpa [batch, Nat.add_comm, serve] using first.trans second
      · have both := (paced_of_not_send (c := c) (E := E) batch s).trans second
        rw [Nat.zero_add] at both
        exact ⟨_, by simpa [batch, serve] using both⟩

/-- The number of attempts as it is reported. -/
theorem toNat_attempts (bounded : c.maxRetries.toNat + 1 < UInt32.size) :
    (c.maxRetries + 1).toNat = c.maxRetries.toNat + 1 := by
  rw [UInt32.toNat_add]
  exact Nat.mod_eq_of_lt bounded

end

/-- **A batch is sent until it is accepted, the exporter was shut down, or the attempts are used
up.** Let the inner exporter, whatever it answers, panic neither for a batch nor for its name, and
let the attempts be less than 2^32. In any state, and with a record of what the inner exporter goes
through, which changes nothing in any call: if attempt number `k`, counted from zero, is the first
one that is accepted or refused because the inner exporter was shut down, and not more than the
retries allow, the export ends with that answer behind `k + 1` inner calls with this batch; if there
is none, it ends behind all attempts and reports how many they were. One of the two is the case.
Between the inner calls the pauses are slept off in their order and nothing else, none longer than
the longest one. Each retry is counted, and so is a batch that was accepted at a retry. Other
requests reach the inner exporter once, as they are, and come back unchanged. So over any number of
requests the inner exporter is given as many batches as were exported, and one more for each pause,
and the pauses are the retries that were counted. -/
theorem retries_until_answered (c : RetryConfig) (E : Exporter α σ)
    (bounded : c.maxRetries.toNat + 1 < UInt32.size) (returns : E.Returns) (named : E.IsNamed)
    (s : Retrying (Observed α σ)) :
    (∀ request, (call c E.observed request s).map forget = call c E request s.forget) ∧
    (∀ batch k r, k ≤ c.maxRetries.toNat → FirstFinal c E batch s.inner.state k r →
      Exports c E batch s k r) ∧
    (∀ batch, (∀ j ≤ c.maxRetries.toNat, (tried c E batch s.inner.state j).outcome.Fails) →
      ∃ attempts : UInt32, attempts.toNat = c.maxRetries.toNat + 1 ∧
        Exports c E batch s c.maxRetries.toNat (.error (.retriesExhausted attempts))) ∧
    (∀ batch, (∃ k r, k ≤ c.maxRetries.toNat ∧ FirstFinal c E batch s.inner.state k r) ∨
      ∀ j ≤ c.maxRetries.toNat, (tried c E batch s.inner.state j).outcome.Fails) ∧
    (∀ retry, c.backoff retry ≤ c.maxDelay) ∧
    (∀ request : Request α, request.kind ≠ .send →
      call c E.observed request s = (E.call request s.inner.state).map fun t =>
        ⟨⟨t, s.inner.log ++ [.asked request (E.call request s.inner.state).outcome]⟩,
          s.totalRetries, s.recovered⟩) ∧
    ∀ requests, ∃ new,
      Paced c s (serve c E.observed s requests) (requests.countP (·.kind = .send)) new := by
  refine ⟨fun request => call_observed c E request s,
    fun batch k r within first => exports_of_final named within first,
    fun batch fails => ⟨_, toNat_attempts bounded, exports_of_fails named fails⟩,
    fun batch => ?_, c.backoff_le,
    fun request other => call_of_not_send other s,
    fun requests => exists_paced returns named requests s⟩
  have cases := exists_final_or_fails c batch returns s.inner.state
    (c.maxRetries.toNat + 1)
  simpa only [Nat.lt_succ_iff] using cases

/-- An exporter that refuses as many batches as its state says, and accepts the next one. -/
def flaky : Exporter Nat Nat :=
  .plain "flaky" fun request n =>
    match request, n with
    | .send _, n + 1 => .answer (.error (.transport "connection refused")) n
    | _, n => .answer (.ok ()) n

theorem flaky_returns : flaky.Returns := by
  intro batch n
  cases n with
  | zero => exact ⟨_, rfl⟩
  | succ n => exact ⟨_, rfl⟩

/-- Two failures, and a third attempt that is accepted. -/
theorem retries_until_answered_of_two_failures :
    ∃ c : RetryConfig, c = .doubling 3 (.ofMillis 1) ∧ c.maxRetries.toNat + 1 < UInt32.size ∧
    ∃ t, t = call c flaky.observed (.send [7, 8]) ⟨⟨2, []⟩, 0, 0⟩ ∧
      t.outcome = .returned (.ok ()) ∧
      t.state.inner.log =
        [.asked (.send [7, 8]) (.returned (.error (.transport "connection refused"))),
          .slept (c.backoff 1),
          .asked (.send [7, 8]) (.returned (.error (.transport "connection refused"))),
          .slept (c.backoff 2), .asked (.send [7, 8]) (.returned (.ok ()))] ∧
      t.state.totalRetries = 2 ∧ t.state.recovered = 1 := by
  have bounded : (RetryConfig.doubling 3 (.ofMillis 1)).maxRetries.toNat + 1 < UInt32.size := by
    decide
  obtain ⟨-, final, -⟩ := retries_until_answered (.doubling 3 (.ofMillis 1)) flaky bounded
    flaky_returns (fun _ => ⟨_, rfl⟩) ⟨⟨2, []⟩, 0, 0⟩
  have fails (j : Nat) (before : j < 2) :
      (tried (.doubling 3 (.ofMillis 1)) flaky [7, 8] 2 j).outcome.Fails := by
    match j with
    | 0 | 1 => exact ⟨.transport "connection refused", rfl, by decide⟩
  have exports := final [7, 8] 2 (.ok ()) (by decide) ⟨fails, rfl, .inl rfl⟩
  exact ⟨_, rfl, bounded, _, rfl, exports.outcome, exports.log, exports.totalRetries,
    exports.recovered⟩

end Retrying

end Telemetry
