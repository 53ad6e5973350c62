import Telemetry.Proofs.Simple.Moves

set_option autoImplicit false

/-! # What the exporter still sees once a simple processor shuts down

A caller looks at the flag before it waits for the lock, and does not look again when it has the
lock. So the flag does not close the door behind those who have passed it: each of them makes its
call on the exporter, in any order with the exporter's shutdown. It keeps out everybody else, and
the lock lets only one caller shut the exporter down. -/

namespace Telemetry.Simple

variable {α : Type}

/-! ## Places -/

/-- A caller that has the lock. -/
def Caller.inside : Caller α → Bool
  | .calling _ | .naming _ => true
  | _ => false

/-- A caller that shuts the exporter down. -/
def Caller.shuts : Caller α → Bool
  | .calling (.close _) => true
  | _ => false

/-- A caller that has found the flag down and has not called the exporter yet. -/
def Caller.admitted : Caller α → Bool
  | .counting _ | .locking (.send _) | .locking (.flush _) => true
  | _ => false

/-- The number of callers that are let through to the exporter. -/
def admitted (s : Simple α) : Nat :=
  s.callers.countP Caller.admitted

/-- Whether a request shuts the exporter down. -/
def isClose (request : Request α) : Bool :=
  request.kind = .close

/-- How often the exporter was shut down. -/
def closings (notes : List (Note α)) : Nat :=
  (calls notes).countP isClose

/-- How often the exporter was given records or flushed. -/
def deliveries (notes : List (Note α)) : Nat :=
  (calls notes).countP fun request => !isClose request

theorem closings_append (notes new : List (Note α)) :
    closings (notes ++ new) = closings notes + closings new := by
  simp [closings, List.countP_append]

theorem deliveries_append (notes new : List (Note α)) :
    deliveries (notes ++ new) = deliveries notes + deliveries new := by
  simp [deliveries, List.countP_append]

/-- Moving one caller changes a count by the difference of its places. -/
theorem countP_set {p : Caller α → Bool} {callers : List (Caller α)} {i : Nat} {c : Caller α}
    (hc : callers[i]? = some c) (c' : Caller α) :
    (callers.set i c').countP p + (p c).toNat = callers.countP p + (p c').toNat := by
  obtain ⟨lt, rfl⟩ := List.getElem?_eq_some_iff.1 hc
  have found : p callers[i] = true → 0 < callers.countP p := fun now =>
    List.countP_pos_iff.2 ⟨_, List.getElem_mem lt, now⟩
  rw [List.countP_set lt]
  cases now : p callers[i] <;> cases p c' <;> simp <;> have := found now <;> omega

theorem Operation.place_outside (op : Operation α) :
    op.place.inside = false ∧ op.place.shuts = false ∧ op.place.admitted = false := by
  cases op <;> exact ⟨rfl, rfl, rfl⟩

/-! ## One shutdown -/

/-- The lock keeps callers apart, so the exporter is shut down by one of them: while it is at it
there is no answer, and when it is done there is one, which later callers find. -/
structure ClosesOnce (notes : List (Note α)) (s : Simple α) : Prop where
  inside : s.callers.countP Caller.inside = s.holder.isSome.toNat
  unanswered : 0 < s.callers.countP Caller.shuts → s.shutdownResult = none
  closed : closings notes = s.shutdownResult.isSome.toNat + s.callers.countP Caller.shuts

theorem shuts_le_inside (callers : List (Caller α)) :
    callers.countP Caller.shuts ≤ callers.countP Caller.inside :=
  List.countP_mono_left fun c _ shuts => by cases c <;> first | rfl | cases shuts

/-- While nobody has the lock, nobody shuts the exporter down. -/
theorem ClosesOnce.shuts_of_free {notes : List (Note α)} {s : Simple α} (h : ClosesOnce notes s)
    (free : s.holder = none) : s.callers.countP Caller.shuts = 0 := by
  have fewer := shuts_le_inside s.callers
  have none := h.inside
  rw [free] at none
  exact Nat.le_zero.1 (Nat.le_trans fewer (Nat.le_of_eq none))

/-- What a caller's step does to the lock and to the exporter's shutdown: nothing, or the caller
takes the lock for a request, or lets go of it, or lets go of it with the answer to the shutdown. -/
theorem Caller.Moves.turns {s t : Simple α} {i : Nat} {c c' : Caller α} {new : List (Note α)}
    (h : c.Moves s i t c' new) :
    (c'.inside = c.inside ∧ c'.shuts = c.shuts ∧ t.holder = s.holder ∧
        t.shutdownResult = s.shutdownResult ∧ closings new = 0) ∨
      (c.inside = false ∧ c'.inside = true ∧ c.shuts = false ∧ s.holder = none ∧
        t.holder = some i ∧ t.shutdownResult = s.shutdownResult ∧
        (c'.shuts = true → s.shutdownResult = none) ∧ closings new = c'.shuts.toNat) ∨
      (c.inside = true ∧ c'.inside = false ∧ c'.shuts = false ∧ t.holder = none ∧
        closings new = 0 ∧ (if c.shuts then t.shutdownResult.isSome = true
          else t.shutdownResult = s.shutdownResult)) := by
  cases h with
  | @locks request free first =>
      refine .inr (.inl ⟨rfl, rfl, rfl, free, rfl, rfl, fun shuts => first ?_, ?_⟩)
      · cases request <;> first | rfl | cases shuts
      · cases request <;> rfl
  | sent | flushed | closed | reports | panics =>
      exact .inr (.inr ⟨rfl, rfl, rfl, rfl, rfl, rfl⟩)
  | _ => exact .inl ⟨rfl, rfl, rfl, rfl, rfl⟩

theorem ClosesOnce.step {notes new : List (Note α)} {s u : Simple α} {label : Label α}
    (h : ClosesOnce notes s) (hm : s.Moves label u new) : ClosesOnce (notes ++ new) u := by
  have free := h.shuts_of_free
  obtain ⟨inside₀, unanswered, closed⟩ := h
  cases hm with
  | begins op =>
      obtain ⟨outside, calm, -⟩ := op.place_outside
      have same : (s.callers ++ [op.place]).countP Caller.shuts =
          s.callers.countP Caller.shuts := by
        simp [List.countP_append, calm]
      refine ⟨?_, same ▸ unanswered, ?_⟩
      · simpa [List.countP_append, outside] using inside₀
      · rw [closings_append, same]
        exact closed
  | @caller label i c c' t _ hl hc hm =>
      have inside := countP_set (p := Caller.inside) hc c'
      have shuts := countP_set (p := Caller.shuts) hc c'
      rcases hm.turns with ⟨ins, sh, holder, result, none⟩ |
        ⟨out, ins, calm, isFree, holder, result, first, one⟩ |
        ⟨ins, out, calm, holder, none, result⟩
      · rw [ins] at inside
        rw [sh] at shuts
        constructor <;> dsimp only
        case inside => rw [holder]; omega
        case unanswered => rw [result]; exact fun pos => unanswered (by omega)
        case closed => rw [closings_append, result]; omega
      · -- Whoever takes the lock finds nobody inside.
        have nobody := free isFree
        rw [out, ins] at inside
        rw [calm] at shuts
        rw [isFree] at inside₀
        simp only [Bool.toNat_false, Bool.toNat_true, Option.isSome_none] at inside shuts inside₀
        constructor <;> dsimp only
        case inside =>
          rw [holder, Option.isSome_some, Bool.toNat_true]
          omega
        case unanswered =>
          rw [result]
          intro pos
          refine first (Bool.toNat_eq_one.1 ?_)
          have atMost := Bool.toNat_le c'.shuts
          omega
        case closed =>
          rw [closings_append, result]
          omega
      · rw [ins, out] at inside
        rw [calm] at shuts
        have atMost := Bool.toNat_le s.holder.isSome
        have fewer := shuts_le_inside (s.callers.set i c')
        simp only [Bool.toNat_false, Bool.toNat_true] at inside shuts
        constructor <;> dsimp only
        case inside =>
          rw [holder, Option.isSome_none, Bool.toNat_false]
          omega
        case unanswered =>
          intro pos
          omega
        case closed =>
          rw [closings_append, none]
          split at result
          · rename_i now
            rw [now] at shuts
            rw [result]
            have before := unanswered (by rw [Bool.toNat_true] at shuts; omega)
            rw [before] at closed
            simp only [Bool.toNat_true, Option.isSome_none, Bool.toNat_false] at shuts closed ⊢
            omega
          · rename_i other
            rw [Bool.eq_false_iff.2 other, Bool.toNat_false] at shuts
            rw [result]
            omega

theorem Run.closesOnce {s : Simple α} {labels : List (Label α)} {notes : List (Note α)}
    (run : Run start labels notes s) : ClosesOnce notes s :=
  run.preserves ClosesOnce.step ⟨rfl, fun pos => absurd pos (Nat.lt_irrefl 0), rfl⟩

theorem ClosesOnce.closings_le {notes : List (Note α)} {s : Simple α} (h : ClosesOnce notes s) :
    closings notes ≤ 1 := by
  have inside := h.inside
  have atMost := Bool.toNat_le s.holder.isSome
  have fewer := shuts_le_inside s.callers
  rw [h.closed]
  cases result : s.shutdownResult with
  | none =>
      rw [Option.isSome_none, Bool.toNat_false]
      omega
  | some r =>
      have calm : ¬ 0 < s.callers.countP Caller.shuts := fun pos =>
        absurd (result.symm.trans (h.unanswered pos)) nofun
      rw [Option.isSome_some, Bool.toNat_true]
      omega

/-! ## Callers behind the flag -/

/-- A caller's step behind the flag: a call on the exporter that does not shut it down is made by a
caller that was admitted, and no caller is admitted any more. -/
theorem Caller.Moves.admitted {s t : Simple α} {i : Nat} {c c' : Caller α} {new : List (Note α)}
    (h : c.Moves s i t c' new) (flag : s.isShutdown = true) :
    t.isShutdown = true ∧ deliveries new + c'.admitted.toNat = c.admitted.toNat := by
  cases h with
  | enters down | flushes down => exact absurd (down.symm.trans flag) nofun
  | @locks request => cases request <;> exact ⟨flag, rfl⟩
  | closes => exact ⟨rfl, rfl⟩
  | _ => exact ⟨flag, rfl⟩

theorem Run.deliveries_add_admitted {s t : Simple α} {labels : List (Label α)}
    {notes : List (Note α)} (run : Run s labels notes t) (flag : s.isShutdown = true) :
    t.isShutdown = true ∧ deliveries notes + t.admitted = s.admitted := by
  refine run.preserves
    (p := fun notes t => t.isShutdown = true ∧ deliveries notes + t.admitted = s.admitted)
    ?_ ⟨flag, Nat.zero_add _⟩
  intro n t v label new ⟨flag, count⟩ hm
  rw [deliveries_append]
  cases hm with
  | begins op =>
      refine ⟨flag, ?_⟩
      rw [← count]
      simp [Simple.admitted, List.countP_append, op.place_outside.2.2, deliveries, calls]
  | @caller label i c c' t' _ hl hc hm =>
      obtain ⟨still, one⟩ := hm.admitted flag
      have moved := countP_set (p := Caller.admitted) hc c'
      refine ⟨still, ?_⟩
      simp only [Simple.admitted] at count ⊢
      omega

/-- Once the flag is set, the exporter is given records or flushed exactly once for each caller
that had been admitted before and has gone on since, whether it has been shut down by then or not;
it is shut down at most once in the whole run. So when nobody is left who was admitted, the
exporter that was shut down is not called again. -/
theorem calls_behind_flag {s t : Simple α} {labels labels' : List (Label α)}
    {notes notes' : List (Note α)} (run : Run start labels notes s) (flag : s.isShutdown = true)
    (run' : Run s labels' notes' t) :
    deliveries notes' + t.admitted = s.admitted ∧ closings notes + closings notes' ≤ 1 ∧
      (s.admitted = 0 → closings notes = 1 → calls notes' = []) := by
  have deliveries := (run'.deliveries_add_admitted flag).2
  have once := (run.append run').closesOnce.closings_le
  rw [closings_append] at once
  refine ⟨deliveries, once, fun nobody closed => ?_⟩
  have all := List.length_eq_countP_add_countP isClose (l := calls notes')
  have others : (calls notes').countP (fun request => ¬ isClose request = true) =
      Simple.deliveries notes' := by
    simp [Simple.deliveries]
  have none : (calls notes').countP isClose = 0 := by
    show closings notes' = 0
    omega
  exact List.eq_nil_of_length_eq_zero (by omega)

/-- A producer passes the flag, and the exporter is shut down before the producer has the lock. -/
def oneStraggler : List (Label Nat) :=
  [.begins (.receive 1), .caller 0, .begins (.shutdown (Duration.ofSecs 1)), .caller 1, .caller 0,
    .caller 1, .ended 1 (.returned (.ok ())), .caller 0]

/-- The exporter may be called behind its shutdown. -/
theorem send_behind_close :
    ∃ (s : Simple Nat) (notes : List (Note Nat)), Run start oneStraggler notes s ∧
      calls notes = [.close (Duration.ofSecs 1), .send [1]] := by
  obtain ⟨s, notes, run, called⟩ := exists_run start oneStraggler
    (fun _ notes => calls notes == [.close (Duration.ofSecs 1), .send [1]]) (by decide +kernel)
  exact ⟨s, notes, run, eq_of_beq called⟩

end Telemetry.Simple
