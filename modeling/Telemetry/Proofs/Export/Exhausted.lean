import Telemetry.Proofs.Export.Retrying

set_option autoImplicit false

/-! # Attempts that are used up

Around an exporter that accepts nothing, all attempts are made and their number is reported. There
is one more of them than of the retries, which may be any word, so the word that reports them wraps
around to zero at the largest number of retries. Before that, each failure is reported under the
exporter's name. An exporter that panics when it is asked for its name ends the attempts, and the
panic goes to the caller. -/

namespace Telemetry

variable {α σ : Type}

/-- The exporter accepts no batch, for other reasons than that it was shut down. -/
def Exporter.Refuses (E : Exporter α σ) : Prop :=
  ∀ batch t, (E.call (.send batch) t).outcome.Fails

namespace Retrying

/-! ## Failures that cannot be reported -/

/-- Asking for the name panics with `p` when the failure of attempt number `k` is to be reported,
which is the first time that this happens. -/
structure FirstUnreported (c : RetryConfig) (E : Exporter α σ) (batch : List α) (t : σ) (k : Nat)
    (p : Panic) : Prop where
  reported : ∀ j < k, Reported c E batch t j
  unnamed : (E.name (tried c E batch t k).state).1 = .error p

/-- An export that a panic of the inner exporter ends behind attempt number `k`. -/
structure Unwinds (c : RetryConfig) (E : Exporter α σ) (batch : List α)
    (s : Retrying (Observed α σ)) (k : Nat) (p : Panic) : Prop where
  outcome : (call c E.observed (.send batch) s).outcome = .panicked p
  log : (call c E.observed (.send batch) s).state.inner.log = s.inner.log ++
    schedule c batch (fun j => (tried c E batch s.inner.state j).outcome) k
  totalRetries : (call c E.observed (.send batch) s).state.totalRetries
    = s.totalRetries + k.toUInt64
  recovered : (call c E.observed (.send batch) s).state.recovered = s.recovered

section

variable {c : RetryConfig} {E : Exporter α σ} {batch : List α}

theorem tried_fails (refuses : E.Refuses) (t : σ) (n : Nat) :
    (tried c E batch t n).outcome.Fails := by
  cases n with
  | zero => exact refuses batch _
  | succ n => exact refuses batch _

/-- Each of the first attempts can be reported, or one of them is the first that cannot. -/
theorem reported_or_exists_unreported (c : RetryConfig) (E : Exporter α σ) (batch : List α) (t : σ)
    (attempts : Nat) :
    (∀ j < attempts, Reported c E batch t j) ∨
      ∃ k < attempts, ∃ p, FirstUnreported c E batch t k p := by
  induction attempts with
  | zero => exact .inl fun j before => absurd before (Nat.not_lt_zero j)
  | succ n ih =>
      rcases ih with reported | ⟨k, before, p, first⟩
      · cases told : (E.name (tried c E batch t n).state).1 with
        | ok name =>
            refine .inl fun j before => ?_
            rcases Nat.lt_succ_iff_lt_or_eq.1 before with earlier | rfl
            · exact reported j earlier
            · exact ⟨name, told⟩
        | error p => exact .inr ⟨n, Nat.lt_succ_self n, p, reported, told⟩
      · exact .inr ⟨k, Nat.lt_succ_of_lt before, p, first⟩

/-- The panic of an attempt that cannot be reported is the outcome of the attempts. -/
theorem attempts_of_unnamed {s : Retrying σ} {n : Nat} {p : Panic}
    (fails : (tried c E batch s.inner n).outcome.Fails)
    (unnamed : (E.name (tried c E batch s.inner n).state).1 = .error p) (left : Nat) :
    (attempts c E batch left n (after c E batch s n)).outcome = .panicked p ∧
      (attempts c E batch left n (after c E batch s n)).state = after c E batch s (n + 1) := by
  obtain ⟨e, failed, -⟩ := fails
  have asked : E.name (tried c E batch s.inner n).state
      = (.error p, (E.name (tried c E batch s.inner n).state).2) := Prod.ext unnamed rfl
  have attempted : (attempt c E n batch (after c E batch s n)).outcome = .panicked p ∧
      (attempt c E n batch (after c E batch s n)).state = after c E batch s (n + 1) := by
    simp only [attempt, call_prepare, failed, conclude]
    rw [asked]
    simp only [totalRetries_prepare, recovered_prepare]
    exact ⟨trivial, rfl⟩
  unfold attempts
  simp [attempted]

theorem unwinds_of_unreported {s : Retrying (Observed α σ)} (refuses : E.Refuses) {k : Nat}
    {p : Panic} (within : k ≤ c.maxRetries.toNat)
    (first : FirstUnreported c E batch s.inner.state k p) : Unwinds c E batch s k p := by
  obtain ⟨reported, unnamed⟩ := first
  have fails (j : Nat) : (tried c E.observed batch s.inner j).outcome.Fails := by
    rw [outcome_observed]
    exact tried_fails refuses _ j
  have unnamed' : (E.observed.name (tried c E.observed batch s.inner k).state).1 = .error p := by
    rw [tried_observed]
    exact unnamed
  simp only [← reported_observed] at reported
  obtain ⟨outcome, state⟩ := attempts_behind reported (fun j _ => fails j) (c.maxRetries.toNat - k)
  obtain ⟨panicked, last⟩ := attempts_of_unnamed (fails k) unnamed' (c.maxRetries.toNat - k)
  rw [Nat.sub_add_cancel within] at outcome state
  have ends : (call c E.observed (.send batch) s).state = after c E.observed batch s (k + 1) :=
    state.trans last
  refine ⟨outcome.trans panicked, ?_, ?_, ?_⟩
  · rw [ends, log_after]
  · rw [ends]
    rfl
  · rw [ends]
    rfl

end

/-! ## What is reported -/

/-- How often the inner exporter was given a batch. -/
def sends (s : Retrying (Observed α σ)) : Nat :=
  s.inner.log.countP (·.isSend)

theorem sends_of_schedule {c : RetryConfig} {batch : List α} {answers : Nat → Outcome} {k : Nat}
    {s t : Retrying (Observed α σ)}
    (log : t.inner.log = s.inner.log ++ schedule c batch answers k) :
    t.sends = s.sends + (k + 1) := by
  rw [sends, log, List.countP_append, (schedule_counts ..).1]
  rfl

/-- The word for the number of attempts wraps around at the largest number of retries. -/
theorem attempts_eq_zero {c : RetryConfig} (largest : c.maxRetries.toNat + 1 = UInt32.size) :
    c.maxRetries + 1 = 0 := by
  rw [← UInt32.toNat_inj, UInt32.toNat_add]
  exact (congrArg (· % 2 ^ 32) largest).trans (Nat.mod_self _)

/-- **Behind attempts that are used up, a word reports their number.** Let the settings be any, and
let the inner exporter accept no batch, for other reasons than that it was shut down. If it tells
its name whenever a failure is to be reported, it is given the batch once more than there are
retries, and the export returns that the attempts are used up, with a word for their number. The
word is the number of these inner calls if that is below 2^32. With the largest number of retries it
is not: 2^32 inner calls are made, and the word is zero.

If asking for the name panics, the first such panic goes to the caller, and the inner calls until
then are all that were made. The record of the inner calls changes nothing. -/
theorem attempts_are_reported_by_a_word (c : RetryConfig) (E : Exporter α σ)
    (refuses : E.Refuses) (batch : List α) (s : Retrying (Observed α σ)) :
    (call c E.observed (.send batch) s).map forget = call c E (.send batch) s.forget ∧
    ((∀ j ≤ c.maxRetries.toNat, Reported c E batch s.inner.state j) →
      ∃ attempts : UInt32,
        (call c E.observed (.send batch) s).outcome
          = .returned (.error (.retriesExhausted attempts)) ∧
        (call c E.observed (.send batch) s).state.sends
          = s.sends + (c.maxRetries.toNat + 1) ∧
        (c.maxRetries.toNat + 1 < UInt32.size → attempts.toNat = c.maxRetries.toNat + 1) ∧
        (c.maxRetries.toNat + 1 = UInt32.size → attempts = 0)) ∧
    (∀ k ≤ c.maxRetries.toNat, ∀ p, FirstUnreported c E batch s.inner.state k p →
      (call c E.observed (.send batch) s).outcome = .panicked p ∧
      (call c E.observed (.send batch) s).state.sends = s.sends + (k + 1)) ∧
    ((∀ j ≤ c.maxRetries.toNat, Reported c E batch s.inner.state j) ∨
      ∃ k ≤ c.maxRetries.toNat, ∃ p, FirstUnreported c E batch s.inner.state k p) := by
  refine ⟨call_observed c E _ s, fun reported => ?_, fun k within p first => ?_, ?_⟩
  · have exports := exports_of_reported reported fun j _ => tried_fails refuses _ j
    exact ⟨c.maxRetries + 1, exports.outcome, sends_of_schedule exports.log, toNat_attempts,
      attempts_eq_zero⟩
  · have unwinds := unwinds_of_unreported refuses within first
    exact ⟨unwinds.outcome, sends_of_schedule unwinds.log⟩
  · have cases := reported_or_exists_unreported c E batch s.inner.state (c.maxRetries.toNat + 1)
    simpa only [Nat.lt_succ_iff] using cases

/-- An exporter that accepts nothing. It counts the batches that it is given, and panics when it is
asked for its name behind as many as `mute`. -/
def sulking (mute : Nat) : Exporter Nat Nat where
  call := fun request n =>
    match request with
    | .send _ => .answer (.error (.transport "connection refused")) (n + 1)
    | _ => .answer (.ok ()) n
  name := fun n => (if n = mute then .error (.text "name panicked") else .ok "sulking", n)
  elapse := fun _ n => n

theorem sulking_refuses (mute : Nat) : (sulking mute).Refuses :=
  fun _ _ => ⟨.transport "connection refused", rfl, by decide⟩

theorem tried_sulking (c : RetryConfig) (batch : List Nat) (mute n j : Nat) :
    (tried c (sulking mute) batch n j).state = n + j + 1 := by
  induction j with
  | zero => rfl
  | succ j ih =>
      rw [tried, ih]
      rfl

theorem reported_sulking (c : RetryConfig) (batch : List Nat) (n j : Nat) :
    Reported c (sulking 0) batch n j := by
  refine ⟨"sulking", ?_⟩
  rw [tried_sulking]
  simp [sulking]

/-- With two retries there are three attempts, and three are reported. With 2^32 - 1 retries there
are 2^32 attempts, and none is reported. With two retries and a name that panics at the second
report there are two attempts, and the panic goes to the caller. -/
theorem attempts_are_reported_by_a_word_of_extremes :
    ((sulking 0).Refuses ∧
      ∃ t, t = call (.doubling 2 .zero) (sulking 0).observed (.send [7]) (.around ⟨0, []⟩) ∧
        t.outcome = .returned (.error (.retriesExhausted 3)) ∧ t.state.sends = 3) ∧
    (∃ t, t = call (.doubling 4294967295 .zero) (sulking 0).observed (.send [7])
        (.around ⟨0, []⟩) ∧
      t.outcome = .returned (.error (.retriesExhausted 0)) ∧ t.state.sends = 4294967296) ∧
    ((sulking 2).Refuses ∧
      ∃ t, t = call (.doubling 2 .zero) (sulking 2).observed (.send [7]) (.around ⟨0, []⟩) ∧
        t.outcome = .panicked (.text "name panicked") ∧ t.state.sends = 2) := by
  refine ⟨⟨sulking_refuses 0, _, rfl, ?_⟩, ⟨_, rfl, ?_⟩, ⟨sulking_refuses 2, _, rfl, ?_⟩⟩
  · obtain ⟨-, told, -⟩ := attempts_are_reported_by_a_word (.doubling 2 .zero) (sulking 0)
      (sulking_refuses 0) [7] (.around ⟨0, []⟩)
    obtain ⟨attempts, outcome, sends, exact, -⟩ := told fun j _ => reported_sulking _ [7] 0 j
    obtain rfl : attempts = 3 := UInt32.toNat_inj.1 (exact (by decide))
    exact ⟨outcome, sends⟩
  · obtain ⟨-, told, -⟩ := attempts_are_reported_by_a_word (.doubling 4294967295 .zero)
      (sulking 0) (sulking_refuses 0) [7] (.around ⟨0, []⟩)
    obtain ⟨attempts, outcome, sends, -, wraps⟩ := told fun j _ => reported_sulking _ [7] 0 j
    obtain rfl : attempts = 0 := wraps rfl
    exact ⟨outcome, sends⟩
  · obtain ⟨-, -, unwinds, -⟩ := attempts_are_reported_by_a_word (.doubling 2 .zero) (sulking 2)
      (sulking_refuses 2) [7] (.around ⟨0, []⟩)
    refine unwinds 1 (by decide) (.text "name panicked") ⟨fun j before => ?_, rfl⟩
    obtain rfl := Nat.lt_one_iff.1 before
    exact ⟨"sulking", rfl⟩

end Retrying

end Telemetry
