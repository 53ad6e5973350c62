import Telemetry.Export.Writer
import Telemetry.Proofs.Record.OneLine

set_option autoImplicit false

/-! # Writers that do not fail

A writer that does not fail takes at least one byte of what it is offered, and has it behind what it
took before. Offering the rest again then gets everything across, however small the pieces are. The
supplied writers do not fail while they have room. Of the bytes of a text only those of a line break
end a line. -/

namespace Telemetry

/-! ## Writing everything -/

section

variable {ω : Type} {w : Writer ω} {ready : ω → Prop} {content : ω → List UInt8}

/-- From the states `ready` the writer takes what it is offered, in pieces of any size, and stays
ready; `content` is what it took altogether. -/
structure Writer.Accepts (w : Writer ω) (ready : ω → Prop) (content : ω → List UInt8) : Prop where
  write : ∀ {s} b rest, ready s → ∃ n t, w.write (b :: rest) s = (.ok (n + 1), t) ∧ ready t ∧
    content t = content s ++ (b :: rest).take (n + 1)
  flush : ∀ {s}, ready s → ∃ t, w.flush s = (.ok (), t) ∧ ready t ∧ content t = content s

/-- Offering the rest again gets all bytes across. -/
theorem Writer.Accepts.writeAll (h : w.Accepts ready content) (bytes : List UInt8) {s : ω}
    (start : ready s) :
    ∃ t, w.writeAll bytes s = (.ok (), t) ∧ ready t ∧ content t = content s ++ bytes := by
  induction length : bytes.length using Nat.strongRecOn generalizing bytes s with
  | _ size ih =>
    match bytes with
    | [] =>
        unfold Writer.writeAll
        exact ⟨s, rfl, start, by simp⟩
    | b :: rest =>
        obtain ⟨n, t, wrote, still, took⟩ := h.write b rest start
        have fewer : (rest.drop n).length < size := by
          rw [← length, List.length_drop, List.length_cons]
          omega
        obtain ⟨u, wroteRest, still', tookRest⟩ := ih _ fewer (rest.drop n) still rfl
        refine ⟨u, ?_, still', ?_⟩
        · unfold Writer.writeAll
          rw [wrote]
          exact wroteRest
        · rw [tookRest, took]
          simp

end

/-! ## The supplied writers -/

namespace Sink

theorem allowed_eq_take (limit : Option Nat) (bytes : List UInt8) :
    allowed limit bytes = bytes.take (allowed limit bytes).length := by
  rw [← List.prefix_iff_eq_take]
  unfold allowed
  split
  · exact List.prefix_rfl
  · exact List.take_prefix _ bytes

theorem allowed_ne_nil {limit : Option Nat} {bytes : List UInt8} (some_bytes : limit ≠ some 0)
    (offered : bytes ≠ []) : allowed limit bytes ≠ [] := by
  unfold allowed
  split
  · exact offered
  · rename_i n
    have pos : n ≠ 0 := fun none => some_bytes (congrArg some none)
    simp [pos, offered]

/-- A sink takes everything if its room has no limit and its pieces have at least one byte. -/
theorem accepts :
    writer.Accepts (fun s => s.room = none ∧ s.chunk ≠ some 0 ∧ s.refusesFlush = false)
      Sink.bytes where
  write := by
    rintro s b rest ⟨room, chunk, quiet⟩
    have part := allowed_ne_nil chunk (List.cons_ne_nil b rest)
    obtain ⟨n, length⟩ := Nat.exists_eq_succ_of_ne_zero
      fun none => part (List.length_eq_zero_iff.1 none)
    have took := allowed_eq_take s.chunk (b :: rest)
    rw [length] at took
    have wrote : Sink.write (b :: rest) s = (.ok (n + 1),
        { s with taken := ((b :: rest).take (n + 1)).reverse ++ s.taken }) := by
      unfold Sink.write
      simp only [room, reduceCtorEq, ↓reduceIte, Option.map_none]
      rw [allowed, length, ← took]
    refine ⟨n, _, wrote, ⟨room, chunk, quiet⟩, ?_⟩
    simp [bytes]
  flush := by
    rintro s ⟨room, chunk, quiet⟩
    refine ⟨{ s with flushes := s.flushes + 1 }, ?_, ⟨room, chunk, quiet⟩, rfl⟩
    simp [writer, Sink.flush, quiet]

end Sink

namespace Console

theorem splitLines_append (bytes : List UInt8) :
    (splitLines bytes).1 ++ (splitLines bytes).2 = bytes := by
  have tail : (bytes.reverse.takeWhile (· != newline)).reverse <:+ bytes := by
    have front := List.takeWhile_prefix (l := bytes.reverse) (· != newline)
    simpa using List.reverse_suffix.2 front
  exact List.suffix_iff_eq_append.1 tail

theorem pass_of_room {c : Console} (room : c.isFull = false) (bytes : List UInt8) :
    c.pass bytes = (.ok (), { c with shown := c.shown ++ c.pending ++ bytes, pending := [] }) := by
  simp [pass, room]

/-- A console takes everything as long as its device has room; what waits for the end of its line
counts as taken. -/
theorem accepts :
    writer.Accepts (fun c => c.isFull = false) fun c => c.shown ++ c.pending where
  write := by
    intro c b rest room
    have parts := splitLines_append (b :: rest)
    simp only [writer, Console.write, pass_of_room room]
    split
    · exact ⟨rest.length, _, rfl, room, by simp⟩
    · split
      · exact ⟨rest.length, _, rfl, room, by simp⟩
      · refine ⟨rest.length, _, rfl, room, ?_⟩
        rw [List.append_assoc, parts]
        simp
  flush := by
    intro c room
    refine ⟨_, pass_of_room room [], room, ?_⟩
    simp

end Console

/-! ## The bytes of lines -/

/-- Only a line break has the byte that ends a line. -/
theorem newline_mem_utf8EncodeChar {c : Char} (h : newline ∈ String.utf8EncodeChar c) :
    c = '\n' := by
  have byte {n : Nat} (same : newline = UInt8.ofNat n) : n % 256 = 10 := by
    simpa [newline] using (congrArg UInt8.toNat same).symm
  unfold String.utf8EncodeChar at h
  simp only at h
  split at h
  · rename_i plain
    have code : c.val.toNat % 256 = 10 := byte (List.mem_singleton.1 h)
    have ten : c.val.toNat = 10 := by omega
    exact Char.ext (UInt32.toNat_inj.1 ten)
  · -- Every byte of a longer encoding is at least 128.
    exfalso
    split at h
    · simp only [List.mem_cons, List.not_mem_nil, or_false] at h
      rcases h with h | h <;> have := byte h <;> omega
    · split at h
      · simp only [List.mem_cons, List.not_mem_nil, or_false] at h
        rcases h with h | h | h <;> have := byte h <;> omega
      · simp only [List.mem_cons, List.not_mem_nil, or_false] at h
        rcases h with h | h | h | h <;> have := byte h <;> omega

theorem newline_notMem_utf8 {text : String} (h : Text.OneLine text) : newline ∉ utf8 text := by
  intro broken
  obtain ⟨c, inside, ends⟩ := List.mem_flatMap.1 broken
  exact h (newline_mem_utf8EncodeChar ends ▸ inside)

/-- The bytes of lines, each behind the end of the one before. -/
def lineBytes (lines : List String) : List UInt8 :=
  lines.flatMap fun line => utf8 line ++ [newline]

/-- Split at the ends of lines, the bytes of lines are the texts, and nothing behind the last. -/
theorem splitOn_lineBytes {lines : List String} (h : ∀ line ∈ lines, Text.OneLine line) :
    (lineBytes lines).splitOn newline = lines.map utf8 ++ [[]] := by
  induction lines with
  | nil => simp [lineBytes]
  | cons line lines ih =>
      have whole := newline_notMem_utf8 (h line List.mem_cons_self)
      have more := ih fun other later => h other (List.mem_cons_of_mem _ later)
      unfold lineBytes at more ⊢
      rw [List.flatMap_cons, List.append_assoc, List.singleton_append,
        List.splitOn_append_cons_self_of_not_mem whole, more]
      simp

end Telemetry
