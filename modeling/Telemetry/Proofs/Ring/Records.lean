import Mathlib.Data.List.Nodup
import Mathlib.Data.List.Perm.Subperm
import Telemetry.Proofs.Ring.Protocol

set_option autoImplicit false

/-! # What is read, and how often

A deed is done in a state that has exactly the deeds before it behind it (`Shared.Run.before`), and
there the invariant tells what the slot holds. So a read finds the record of its own position, and
no position is claimed, written, taken or read twice. -/

namespace Telemetry.Ring

variable {α : Type} {c : Config} {h new : Deeds α} {s u : Shared α} {t : Nat} {w : UInt64}

/-! ## Single deeds -/

theorem Shared.Moves.single (moves : s.Moves u new) : new = [] ∨ ∃ deed, new = [deed] := by
  cases moves with
  | begins => exact .inl rfl
  | @thread t place place' r deed here moves =>
      cases deed with
      | none => exact .inl rfl
      | some deed => exact .inr ⟨(t, deed), rfl⟩

/-- A deed is done behind all deeds before it. -/
theorem Shared.Run.before {s₀ : Shared α} {turns : List (Turn α)} {h before after : Deeds α}
    {deed : Nat × Deed α} (run : Run s₀ turns h s) (cut : h = before ++ deed :: after) :
    ∃ turns' s' u, Run s₀ turns' before s' ∧ s'.Moves u [deed] := by
  induction run generalizing after with
  | nil => exact absurd cut (by simp)
  | @snoc s' u turns h new turn run turned ih =>
      have moves := Shared.moves_of_turn turned
      rcases moves.single with rfl | ⟨last, rfl⟩
      · rw [List.append_nil] at cut
        exact ih cut
      · rcases List.eq_nil_or_concat' after with rfl | ⟨rest, x, rfl⟩
        · obtain ⟨rfl, here⟩ := List.append_inj' cut rfl
          cases here
          exact ⟨turns, s', u, run, moves⟩
        · rw [← List.cons_append, ← List.append_assoc] at cut
          exact ih (List.append_inj' cut rfl).1

/-- Who writes is at the place for it. -/
theorem Shared.Moves.of_writes {a : α} (moves : s.Moves u [(t, .writes w a)]) :
    s.threads[t]? = some (.pushWrite a w) := by
  generalize written : [(t, Deed.writes w a)] = new at moves
  cases moves with
  | begins => cases written
  | thread here moves =>
      cases moves <;> cases written
      exact here

theorem Shared.Moves.of_takes (moves : s.Moves u [(t, .takes w)]) :
    u.threads[t]? = some (.popRead w) := by
  generalize taken : [(t, Deed.takes w)] = new at moves
  cases moves with
  | begins => cases taken
  | thread here moves =>
      cases moves <;> cases taken
      exact List.getElem?_set_self (List.getElem?_eq_some_iff.1 here).1

theorem Shared.Moves.of_reads {value : Option α} (moves : s.Moves u [(t, .reads w value)]) :
    s.threads[t]? = some (.popRead w) ∧ value = s.ring.valueAt w := by
  generalize read : [(t, Deed.reads w value)] = new at moves
  cases moves with
  | begins => cases read
  | thread here moves =>
      cases moves <;> cases read
      exact ⟨here, rfl⟩

/-- A thread that is about to read stays so until it reads. -/
theorem Shared.Moves.popRead (moves : s.Moves u new) (here : s.threads[t]? = some (.popRead w)) :
    u.threads[t]? = some (.popRead w) ∨ w ∈ read new := by
  cases moves with
  | @begins t' place task there done =>
      refine .inl ?_
      rw [List.getElem?_set_ne]
      · exact here
      · rintro rfl
        rw [here] at there
        cases there
        cases done
  | @thread t' place place' r deed there moves =>
      by_cases same : t' = t
      · subst same
        rw [here] at there
        cases there
        cases moves with
        | reads => exact .inr (List.mem_singleton.2 rfl)
        | observes before => cases before
        | rests done => cases done
      · rw [List.getElem?_set_ne same]
        exact .inl here

/-! ## Reads -/

/-- A read finds the record that the claimer of its position wrote. -/
theorem Sound.of_reads {value : Option α} (sound : Sound c h s)
    (moves : s.Moves u [(t, .reads w value)]) :
    (∃ a, value = some a ∧ Wrote h w a ∧ (t, .takes w) ∈ h) ∧ w ∉ read h := by
  obtain ⟨here, rfl⟩ := moves.of_reads
  obtain ⟨m, a, -, -, -, rfl, slot, -, wrote, takes, fresh, -⟩ := sound.reading here
  rw [← c.slotOf_position sound.fits] at slot
  exact ⟨⟨a, valueAt_of_slot sound.config_eq sound.fits slot, wrote, takes⟩, fresh⟩

theorem Config.positions_nodup (c : Config) (fits : c.Fits) {n : Nat}
    (laps : n < c.capacity.toNat * c.lapLimit) : ((List.range n).map c.position).Nodup := by
  refine List.nodup_range.map_on ?_
  intro k hk m hm same
  rw [List.mem_range] at hk hm
  exact c.position_inj fits (hk.trans laps) (hm.trans laps) same

theorem Sound.claimed_words (sound : Sound c h s) :
    (claimed h).map (·.1) = (List.range (tailOf h)).map c.position := by
  refine List.ext_getElem? fun n => ?_
  rw [List.getElem?_map, List.getElem?_map]
  rcases Nat.lt_or_ge n (tailOf h) with inside | outside
  · rw [List.getElem?_range inside, List.getElem?_eq_getElem inside]
    exact congrArg some (sound.claims n _ (List.getElem?_eq_getElem inside))
  · rw [List.getElem?_eq_none outside, List.getElem?_eq_none (by rwa [List.length_range])]
    rfl

theorem Sound.claimed_nodup (sound : Sound c h s) : ((claimed h).map (·.1)).Nodup := by
  rw [sound.claimed_words]
  exact c.positions_nodup sound.fits sound.laps

theorem Sound.taken_nodup (sound : Sound c h s) : (taken h).Nodup := by
  rw [sound.takes]
  exact c.positions_nodup sound.fits (sound.order.trans_lt sound.laps)

theorem Sound.written_nodup (sound : Sound c h s) (moves : s.Moves u new)
    (nodup : (written h).Nodup) : (written (h ++ new)).Nodup := by
  rcases moves.single with rfl | ⟨⟨t, deed⟩, rfl⟩
  · rwa [List.append_nil]
  · cases deed with
    | writes w a =>
        obtain ⟨n, -, -, -, -, -, -, fresh, -⟩ := sound.writing moves.of_writes
        rw [written_append]
        exact List.nodup_append_comm.1 (List.nodup_cons.2 ⟨fresh, nodup⟩)
    | claims | takes | reads => rwa [written_append_of_nil rfl]

theorem Sound.read_nodup (sound : Sound c h s) (moves : s.Moves u new) (nodup : (read h).Nodup) :
    (read (h ++ new)).Nodup := by
  rcases moves.single with rfl | ⟨⟨t, deed⟩, rfl⟩
  · rwa [List.append_nil]
  · cases deed with
    | reads w value =>
        have fresh := (sound.of_reads moves).2
        rw [read_append]
        exact List.nodup_append_comm.1 (List.nodup_cons.2 ⟨fresh, nodup⟩)
    | claims | takes | writes => rwa [read_append_of_nil rfl]

section Runs

variable {threads : Nat} {turns : List (Turn α)}

/-- What was taken is read, or some thread is about to read it. -/
theorem Shared.Run.taken_read (run : Run (Shared.start c threads) turns h s) :
    ∀ w ∈ taken h, w ∈ read h ∨ ∃ t : Nat, s.threads[t]? = some (.popRead w) := by
  induction run with
  | nil => rintro w ⟨⟩
  | @snoc s u turns h new turn run turned ih =>
      have moves := Shared.moves_of_turn turned
      intro w there
      rw [taken_append, List.mem_append] at there
      rw [read_append, List.mem_append]
      rcases there with old | new
      · rcases ih w old with done | ⟨t, here⟩
        · exact .inl (.inl done)
        · rcases moves.popRead here with stays | done
          · exact .inr ⟨t, stays⟩
          · exact .inl (.inr done)
      · rcases moves.single with rfl | ⟨⟨t, deed⟩, rfl⟩
        · cases new
        · cases deed with
          | takes w' =>
              rw [List.mem_singleton.1 new]
              exact .inr ⟨t, moves.of_takes⟩
          | claims | writes | reads => cases new

/-- Nothing is written or read twice. -/
theorem Shared.Run.nodup (fits : c.Fits) (run : Run (Shared.start c threads) turns h s)
    (laps : tailOf h < c.capacity.toNat * c.lapLimit) : (written h).Nodup ∧ (read h).Nodup := by
  induction run with
  | nil => exact ⟨List.nodup_nil, List.nodup_nil⟩
  | snoc run turned ih =>
      have laps' := tailOf_le_of_append.trans_lt laps
      have sound := run.sound fits laps'
      have moves := Shared.moves_of_turn turned
      exact ⟨sound.written_nodup moves (ih laps').1, sound.read_nodup moves (ih laps').2⟩

/-- A position is claimed only when the record of the lap before is read. -/
theorem Sound.claimed_le (sound : Sound c h s)
    (pending : ∀ w ∈ taken h, w ∈ read h ∨ ∃ t : Nat, s.threads[t]? = some (.popRead w)) :
    tailOf h ≤ (read h).length + c.capacity.toNat := by
  have early : ((List.range (tailOf h - c.capacity.toNat)).map c.position) ⊆ read h := by
    intro w there
    obtain ⟨k, before, rfl⟩ := List.mem_map.1 there
    rw [List.mem_range] at before
    have room := sound.room
    have laps := sound.laps
    have wasTaken : c.position k ∈ taken h := by
      rw [sound.takes]
      exact List.mem_map_of_mem (List.mem_range.2 (by omega))
    rcases pending _ wasTaken with done | ⟨t, here⟩
    · exact done
    · -- a thread that is about to read it holds back the tail
      obtain ⟨m, -, -, older, tail, same, -⟩ := sound.reading here
      have order := sound.order
      have := c.position_inj sound.fits (by omega) (by omega) same
      omega
  have nodup := c.positions_nodup sound.fits
    (Nat.lt_of_le_of_lt (Nat.sub_le (tailOf h) c.capacity.toNat) sound.laps)
  have length := (List.subperm_of_subset nodup early).length_le
  rw [List.length_map, List.length_range] at length
  omega

theorem Sound.read_le (sound : Sound c h s) (nodup : (read h).Nodup) :
    (read h).length ≤ headOf h := by
  refine (List.subperm_of_subset nodup ?_).length_le
  intro w there
  obtain ⟨m, before, rfl⟩ := sound.reads w there
  rw [sound.takes]
  exact List.mem_map_of_mem (List.mem_range.2 before)

end Runs

end Telemetry.Ring
