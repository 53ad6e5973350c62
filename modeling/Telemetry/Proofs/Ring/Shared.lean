import Telemetry.Proofs.Ring.Position
import Telemetry.Ring.Protocol

set_option autoImplicit false

/-! # Threads on one ring

Any number of threads work on a ring, each with one operation after the other. A run is any sequence
of turns: a thread that has nothing to do begins an operation, or a thread takes one atomic step. A
run leaves a list of deeds: the claims of positions and the writes and reads of records, with the
threads that did them.

`Ring.step` computes one step of a thread. `Place.Moves` says what it computes as rules, and proofs
about runs go by cases on these. -/

namespace Telemetry.Ring

variable {α : Type}

/-! ## Runs -/

/-- What a thread can do with a ring. -/
inductive Task (α : Type) where
  | store (a : α)
  | take
  | count
  | testEmpty
  | testFull

/-- The first place of a task. -/
def Task.place : Task α → Place α
  | .store a => .pushTail a
  | .take => .popHead
  | .count => .lengthTail
  | .testEmpty => .emptyHead
  | .testFull => .fullTail

/-- What a step may do to the records. -/
inductive Deed (α : Type) where
  /-- Moves the tail over a position, for a record. -/
  | claims (position : UInt64) (a : α)
  /-- Writes the record of a claimed position. -/
  | writes (position : UInt64) (a : α)
  /-- Moves the head over a position. -/
  | takes (position : UInt64)
  /-- Reads what is in the slot of a taken position. -/
  | reads (position : UInt64) (value : Option α)

/-- The deed of a step. -/
def deed? (r : Ring α) (fails : Bool) : Place α → Option (Deed α)
  | .pushClaim a tail => if r.tail = tail ∧ !fails then some (.claims tail a) else none
  | .pushWrite a tail => some (.writes tail a)
  | .popClaim head => if r.head = head ∧ !fails then some (.takes head) else none
  | .popRead head => some (.reads head (r.valueAt head))
  | _ => none

/-- The deeds of a run, each with the thread that did it. -/
abbrev Deeds (α : Type) := List (Nat × Deed α)

/-- What happens next. -/
inductive Turn (α : Type) where
  /-- Thread `t`, which has nothing to do, begins an operation. -/
  | begins (t : Nat) (task : Task α)
  /-- Thread `t` takes a step. -/
  | steps (t : Nat) (fails : Bool)

/-- A new ring with threads that have nothing to do. -/
def Shared.start (config : Config) (threads : Nat) : Shared α :=
  ⟨Ring.new config, List.replicate threads .nothing⟩

/-- One turn, with what it does; `none` if it cannot happen. -/
def Shared.turn (s : Shared α) : Turn α → Option (Shared α × Deeds α)
  | .begins t task =>
    match s.threads[t]? with
    | some place =>
      if place.isDone then some (⟨s.ring, s.threads.set t task.place⟩, []) else none
    | none => none
  | .steps t fails =>
    match s.threads[t]? with
    | some place =>
      some (s.step t fails, (s.ring.deed? fails place).toList.map fun deed => (t, deed))
    | none => none

/-- A run: from one state to another by these turns, with these deeds. -/
inductive Shared.Run : Shared α → List (Turn α) → Deeds α → Shared α → Prop where
  | nil (s : Shared α) : Run s [] [] s
  | snoc {s t u : Shared α} {turns : List (Turn α)} {deeds new : Deeds α} {turn : Turn α} :
      Run s turns deeds t → t.turn turn = some (u, new) →
      Run s (turns ++ [turn]) (deeds ++ new) u

/-- The state and the deeds at the end of some turns; `none` if they cannot happen. -/
def Shared.follow (s : Shared α) (deeds : Deeds α) : List (Turn α) → Option (Shared α × Deeds α)
  | [] => some (s, deeds)
  | turn :: turns =>
    match s.turn turn with
    | some (t, new) => t.follow (deeds ++ new) turns
    | none => none

theorem Shared.Run.follow {s t u : Shared α} {turns more : List (Turn α)} {deeds deeds' : Deeds α}
    (run : Run s turns deeds t) (h : t.follow deeds more = some (u, deeds')) :
    Run s (turns ++ more) deeds' u := by
  induction more generalizing t turns deeds with
  | nil =>
      cases h
      rw [List.append_nil]
      exact run
  | cons turn more ih =>
      rw [Shared.follow] at h
      split at h
      · rename_i v new next
        have rest := ih (.snoc run next) h
        rwa [List.append_assoc, List.singleton_append] at rest
      · cases h

/-! ## The rules of a thread -/

/-- Whether a thread only looks at head and tail. -/
def Place.observes : Place α → Bool
  | .lengthTail | .lengthHead _ | .lengthAgain _ _ | .counted _ => true
  | .emptyHead | .emptyTail _ | .fullTail | .fullHead _ | .answered _ => true
  | _ => false

/-- The position whose slot a thread owns: from its claim to the stamp that it leaves. -/
def Place.owns? : Place α → Option UInt64
  | .pushWrite _ tail | .pushPublish tail => some tail
  | .popRead head | .popFree head _ => some head
  | _ => none

/-- The rules of a thread. -/
inductive Place.Moves (r : Ring α) : Place α → Ring α → Place α → Option (Deed α) → Prop where
  | readsTail {a : α} : Moves r (.pushTail a) r (.pushStamp a r.tail) none
  | findsRoom {a : α} {tail : UInt64} : r.stampAt tail = tail →
      Moves r (.pushStamp a tail) r (.pushClaim a tail) none
  | findsOlder {a : α} {tail : UInt64} : r.stampAt tail + r.config.oneLap = tail + 1 →
      Moves r (.pushStamp a tail) r (.pushHead a tail) none
  | findsTransit {a : α} {tail : UInt64} : Moves r (.pushStamp a tail) r (.pushTail a) none
  | claims {a : α} :
      Moves r (.pushClaim a r.tail) { r with tail := r.next r.tail } (.pushWrite a r.tail)
        (some (.claims r.tail a))
  | claimsNothing {a : α} {tail : UInt64} :
      Moves r (.pushClaim a tail) r (.pushStamp a r.tail) none
  | writes {a : α} {tail : UInt64} :
      Moves r (.pushWrite a tail) (r.setValue tail (some a)) (.pushPublish tail)
        (some (.writes tail a))
  | publishes {tail : UInt64} :
      Moves r (.pushPublish tail) (r.setStamp tail (tail + 1)) .stored none
  | refuses {a : α} {tail : UInt64} : r.lapAhead r.head tail = true →
      Moves r (.pushHead a tail) r (.refused a) none
  | storesAgain {a : α} {tail : UInt64} : Moves r (.pushHead a tail) r (.pushTail a) none
  | readsHead : Moves r .popHead r (.popStamp r.head) none
  | findsRecord {head : UInt64} : r.stampAt head = head + 1 →
      Moves r (.popStamp head) r (.popClaim head) none
  | findsFree {head : UInt64} : Moves r (.popStamp head) r (.popTail head) none
  | findsTransitTaking {head : UInt64} : Moves r (.popStamp head) r .popHead none
  | takes :
      Moves r (.popClaim r.head) { r with head := r.next r.head } (.popRead r.head)
        (some (.takes r.head))
  | takesNothing {head : UInt64} : Moves r (.popClaim head) r (.popStamp r.head) none
  | reads {head : UInt64} :
      Moves r (.popRead head) (r.setValue head none) (.popFree head (r.valueAt head))
        (some (.reads head (r.valueAt head)))
  | frees {head : UInt64} {a : Option α} :
      Moves r (.popFree head a) (r.setStamp head (head + r.config.oneLap)) (.taken a) none
  | findsNothing {head : UInt64} : r.tail = head → Moves r (.popTail head) r .nothing none
  | takesAgain {head : UInt64} : Moves r (.popTail head) r .popHead none
  | observes {place place' : Place α} : place.observes = true → place'.observes = true →
      Moves r place r place' none
  | rests {place : Place α} : place.isDone = true → Moves r place r place none

/-- Every step of a thread is by one of the rules. -/
theorem Place.moves_of_step (r : Ring α) (fails : Bool) (place : Place α) :
    place.Moves r (r.step fails place).1 (r.step fails place).2 (r.deed? fails place) := by
  cases place with
  | pushTail a => exact .readsTail
  | pushStamp a tail =>
      simp only [step, deed?]
      split
      · rename_i room
        exact .findsRoom room.symm
      · split
        · rename_i older
          exact .findsOlder older
        · exact .findsTransit
  | pushClaim a tail =>
      simp only [step, deed?]
      split
      · rename_i free
        obtain ⟨rfl, -⟩ := free
        exact .claims
      · exact .claimsNothing
  | pushWrite a tail => exact .writes
  | pushPublish tail => exact .publishes
  | pushHead a tail =>
      simp only [step, deed?]
      split
      · rename_i full
        exact .refuses full
      · exact .storesAgain
  | popHead => exact .readsHead
  | popStamp head =>
      simp only [step, deed?]
      split
      · rename_i record
        exact .findsRecord record.symm
      · split
        · exact .findsFree
        · exact .findsTransitTaking
  | popClaim head =>
      simp only [step, deed?]
      split
      · rename_i free
        obtain ⟨rfl, -⟩ := free
        exact .takes
      · exact .takesNothing
  | popRead head => exact .reads
  | popFree head a => exact .frees
  | popTail head =>
      simp only [step, deed?]
      split
      · rename_i empty
        exact .findsNothing empty
      · exact .takesAgain
  | lengthAgain tail head =>
      simp only [step, deed?]
      split <;> exact .observes rfl rfl
  | lengthTail | lengthHead | emptyHead | emptyTail | fullTail | fullHead =>
      exact .observes rfl rfl
  | stored | refused | taken | nothing | counted | answered => exact .rests rfl

/-- The rules of the whole: a thread that has nothing to do begins, or a thread moves. -/
inductive Shared.Moves (s : Shared α) : Shared α → Deeds α → Prop where
  | begins {t : Nat} {place : Place α} (task : Task α) : s.threads[t]? = some place →
      place.isDone = true → Moves s ⟨s.ring, s.threads.set t task.place⟩ []
  | thread {t : Nat} {place place' : Place α} {r : Ring α} {deed : Option (Deed α)} :
      s.threads[t]? = some place → place.Moves s.ring r place' deed →
      Moves s ⟨r, s.threads.set t place'⟩ (deed.toList.map fun deed => (t, deed))

theorem Shared.moves_of_turn {s u : Shared α} {turn : Turn α} {new : Deeds α}
    (h : s.turn turn = some (u, new)) : s.Moves u new := by
  cases turn with
  | begins t task =>
      simp only [Shared.turn] at h
      split at h
      · rename_i place here
        split at h
        · rename_i done
          cases h
          exact .begins task here done
        · cases h
      · cases h
  | steps t fails =>
      simp only [Shared.turn] at h
      split at h
      · rename_i place here
        have whole : s.step t fails =
            ⟨(s.ring.step fails place).1, s.threads.set t (s.ring.step fails place).2⟩ := by
          simp only [Shared.step, here]
        rw [whole, Option.some.injEq, Prod.mk.injEq] at h
        obtain ⟨rfl, rfl⟩ := h
        exact .thread here (Place.moves_of_step s.ring fails place)
      · cases h

/-! ## What the deeds of a run say -/

section Deeds

variable {h new : Deeds α}

/-- The position that a deed claims, with the record it is for. -/
def Deed.claimed? : Deed α → Option (UInt64 × α)
  | .claims position a => some (position, a)
  | _ => none

def Deed.taken? : Deed α → Option UInt64
  | .takes position => some position
  | _ => none

def Deed.written? : Deed α → Option UInt64
  | .writes position _ => some position
  | _ => none

def Deed.read? : Deed α → Option UInt64
  | .reads position _ => some position
  | _ => none

/-- The positions that were claimed, in order, with the records that they were claimed for. -/
def claimed (h : Deeds α) : List (UInt64 × α) :=
  h.filterMap fun deed => deed.2.claimed?

/-- The positions that were taken, in order. -/
def taken (h : Deeds α) : List UInt64 :=
  h.filterMap fun deed => deed.2.taken?

/-- The positions whose records were written. -/
def written (h : Deeds α) : List UInt64 :=
  h.filterMap fun deed => deed.2.written?

/-- The positions whose records were read. -/
def read (h : Deeds α) : List UInt64 :=
  h.filterMap fun deed => deed.2.read?

theorem claimed_append (h new : Deeds α) : claimed (h ++ new) = claimed h ++ claimed new :=
  List.filterMap_append ..

theorem taken_append (h new : Deeds α) : taken (h ++ new) = taken h ++ taken new :=
  List.filterMap_append ..

theorem written_append (h new : Deeds α) : written (h ++ new) = written h ++ written new :=
  List.filterMap_append ..

theorem read_append (h new : Deeds α) : read (h ++ new) = read h ++ read new :=
  List.filterMap_append ..

/-- The number of the position at the tail. -/
def tailOf (h : Deeds α) : Nat :=
  (claimed h).length

/-- How many laps the tail has been in; it begins in the first one. -/
def lapsOf (c : Config) (h : Deeds α) : Nat :=
  tailOf h / c.capacity.toNat + 1

/-- The number of the position at the head. -/
def headOf (h : Deeds α) : Nat :=
  (taken h).length

theorem tailOf_append (h new : Deeds α) : tailOf (h ++ new) = tailOf h + tailOf new := by
  rw [tailOf, claimed_append, List.length_append]
  rfl

theorem headOf_append (h new : Deeds α) : headOf (h ++ new) = headOf h + headOf new := by
  rw [headOf, taken_append, List.length_append]
  rfl

/-- A step that claims nothing. -/
theorem claimed_append_of_nil (none : claimed new = []) : claimed (h ++ new) = claimed h := by
  rw [claimed_append, none, List.append_nil]

theorem taken_append_of_nil (none : taken new = []) : taken (h ++ new) = taken h := by
  rw [taken_append, none, List.append_nil]

theorem written_append_of_nil (none : written new = []) : written (h ++ new) = written h := by
  rw [written_append, none, List.append_nil]

theorem read_append_of_nil (none : read new = []) : read (h ++ new) = read h := by
  rw [read_append, none, List.append_nil]

theorem claimed_append_of_some {n : Nat} {e : UInt64 × α} (new : Deeds α)
    (here : (claimed h)[n]? = some e) : (claimed (h ++ new))[n]? = some e := by
  rw [claimed_append, List.getElem?_append_left (List.getElem?_eq_some_iff.1 here).1]
  exact here

theorem lt_tailOf {n : Nat} {e : UInt64 × α} (here : (claimed h)[n]? = some e) : n < tailOf h :=
  (List.getElem?_eq_some_iff.1 here).1

/-- One thread claimed the position for this record and wrote the record. -/
def Wrote (h : Deeds α) (w : UInt64) (a : α) : Prop :=
  ∃ t, (t, .claims w a) ∈ h ∧ (t, .writes w a) ∈ h

theorem Wrote.append {w : UInt64} {a : α} (wrote : Wrote h w a) (new : Deeds α) :
    Wrote (h ++ new) w a := by
  obtain ⟨t, claims, writes⟩ := wrote
  exact ⟨t, List.mem_append_left _ claims, List.mem_append_left _ writes⟩

end Deeds

end Telemetry.Ring
