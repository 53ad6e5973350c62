import Telemetry.Proofs.Queue
import Telemetry.Proofs.Ring.Records

set_option autoImplicit false

/-! # The slot protocol is an atomic queue

An atomic queue changes in one step, and an operation on it is done with that step. `Shared.view`
reads off a ring with its threads, and the deeds so far, what they are as an atomic queue with the
same threads: a store has taken effect when its thread has moved the tail, a take when its thread
has moved the head. Every step of the protocol is then a step of the atomic queue or none
(`Sound.simulates`).

A thread may sleep through all laps but one with the tail that it read first. If it then finds the
record of the last lap in its slot and the head at that record, the words agree by accident, and it
takes the ring to be full. So refusals are exact as long as no slot is used in every lap that there
is (`sure`); everything else holds up to the last lap. -/

namespace Telemetry.Ring

variable {α : Type}

/-! ## Atomic queues -/

/-- What an operation on an atomic queue has come to. -/
inductive Atomic.Phase (α : Type) where
  /-- The record is not in the queue yet. -/
  | storing (a : α)
  /-- Nothing is taken yet. -/
  | taking
  | stored
  /-- The queue was full. -/
  | refused (a : α)
  | took (value : Option α)
  /-- The queue was empty. -/
  | nothing
  /-- A count or a test. -/
  | looking

/-- Whether nothing is left to be done. -/
def Atomic.Phase.isOver : Atomic.Phase α → Bool
  | .storing _ | .taking => false
  | _ => true

/-- A queue with its threads, by number. -/
structure Atomic (α : Type) where
  queue : Queue α
  threads : List (Atomic.Phase α)

/-- An operation that has not done anything. -/
def Task.phase : Task α → Atomic.Phase α
  | .store a => .storing a
  | .take => .taking
  | _ => .looking

def Atomic.start (capacity threads : Nat) : Atomic α :=
  ⟨Queue.empty capacity, List.replicate threads .nothing⟩

/-- The steps of an atomic queue, by the deeds of the step of the ring. If `sure`, then a record is
refused only by a full queue. -/
inductive Atomic.Step (sure : Prop) (m : Atomic α) : Deeds α → Atomic α → Prop where
  | idles {new : Deeds α} : claimed new = [] → taken new = [] → Step sure m new m
  | begins {t : Nat} {phase : Phase α} (task : Task α) : m.threads[t]? = some phase →
      phase.isOver = true → Step sure m [] ⟨m.queue, m.threads.set t task.phase⟩
  | stores {t : Nat} {w : UInt64} {a : α} {queue : Queue α} :
      m.threads[t]? = some (.storing a) → m.queue.push? a = some queue →
      Step sure m [(t, .claims w a)] ⟨queue, m.threads.set t .stored⟩
  | refuses {t : Nat} {a : α} : m.threads[t]? = some (.storing a) →
      (sure → m.queue.push? a = none) →
      Step sure m [] ⟨m.queue, m.threads.set t (.refused a)⟩
  | takes {t : Nat} {w : UInt64} {a : α} {queue : Queue α} :
      m.threads[t]? = some .taking → m.queue.pop? = some (a, queue) →
      Step sure m [(t, .takes w)] ⟨queue, m.threads.set t (.took (some a))⟩
  | findsNothing {t : Nat} : m.threads[t]? = some .taking → m.queue.pop? = none →
      Step sure m [] ⟨m.queue, m.threads.set t .nothing⟩

/-- Steps one after the other, with the deeds of the ring. -/
inductive Atomic.Run (sure : Prop) : Atomic α → Deeds α → Atomic α → Prop where
  | nil (m : Atomic α) : Run sure m [] m
  | snoc {m m' m'' : Atomic α} {h new : Deeds α} :
      Run sure m h m' → Step sure m' new m'' → Run sure m (h ++ new) m''

/-! ## What a ring is as an atomic queue -/

/-- What an operation at this place has come to. A thread that has taken a position has its record,
even before it reads it. -/
def Place.phase (h : Deeds α) : Place α → Atomic.Phase α
  | .pushTail a | .pushStamp a _ | .pushClaim a _ | .pushHead a _ => .storing a
  | .pushWrite _ _ | .pushPublish _ | .stored => .stored
  | .refused a => .refused a
  | .popHead | .popStamp _ | .popClaim _ | .popTail _ => .taking
  | .popRead head => .took ((claimed h).lookup head)
  | .popFree _ value | .taken value => .took value
  | .nothing => .nothing
  | _ => .looking

/-- The records that were claimed and not taken. -/
def pending (h : Deeds α) : List α :=
  ((claimed h).drop (headOf h)).map (·.2)

/-- A ring with its threads as an atomic queue. -/
def Shared.view (h : Deeds α) (s : Shared α) : Atomic α :=
  ⟨⟨s.ring.config.capacity.toNat, pending h⟩, s.threads.map (Place.phase h)⟩

theorem Shared.view_start (config : Config) (threads : Nat) :
    (Shared.start config threads : Shared α).view []
      = Atomic.start config.capacity.toNat threads := by
  rw [Shared.view, Shared.start, List.map_replicate]
  rfl

theorem Task.phase_place (task : Task α) (h : Deeds α) : task.place.phase h = task.phase := by
  cases task <;> rfl

theorem Place.phase_isOver {place : Place α} (done : place.isDone = true) (h : Deeds α) :
    (place.phase h).isOver = true := by
  cases place <;> first | rfl | cases done

theorem Place.phase_of_observes {place : Place α} (observes : place.observes = true)
    (h : Deeds α) : place.phase h = .looking := by
  cases place <;> first | rfl | cases observes

section View

variable {c : Config} {h new : Deeds α} {s u : Shared α} {t : Nat} {place place' : Place α}
  {r : Ring α}

theorem Shared.view_threads (here : s.threads[t]? = some place) :
    (s.view h).threads[t]? = some (place.phase h) := by
  rw [Shared.view, List.getElem?_map, here]
  rfl

/-- Each claimed position has one record. -/
theorem Sound.lookup (sound : Sound c h s) {n : Nat} {w : UInt64} {a : α}
    (here : (claimed h)[n]? = some (w, a)) : (claimed h).lookup w = some a := by
  obtain ⟨inside, same⟩ := List.getElem?_eq_some_iff.1 here
  have split := List.take_append_drop n (claimed h)
  rw [List.drop_eq_getElem_cons inside, same] at split
  refine List.lookup_eq_some_iff.2 ⟨_, _, split.symm, ?_⟩
  have nodup := sound.claimed_nodup
  rw [← split, List.map_append, List.nodup_append] at nodup
  intro e there
  have other := nodup.2.2 e.1 (List.mem_map_of_mem there) w List.mem_cons_self
  exact bne_iff_ne.2 other.symm

/-- What a thread has come to is not changed by what is claimed later. -/
theorem Sound.phase_append (sound : Sound c h s) (here : s.threads[t]? = some place)
    (new : Deeds α) : place.phase (h ++ new) = place.phase h := by
  cases place with
  | popRead w =>
      obtain ⟨m, a, -, -, -, -, -, claimed, -⟩ := sound.reading here
      rw [Place.phase, Place.phase, claimed_append, List.lookup_append, sound.lookup claimed]
      rfl
  | _ => rfl

/-- The view behind a step of one thread. -/
theorem Sound.view_set (sound : Sound c h s) (config : r.config = s.ring.config)
    (place' : Place α) (t : Nat) (new : Deeds α) :
    (⟨r, s.threads.set t place'⟩ : Shared α).view (h ++ new)
      = ⟨⟨(s.view h).queue.capacity, pending (h ++ new)⟩,
          (s.view h).threads.set t (place'.phase (h ++ new))⟩ := by
  have others : s.threads.map (Place.phase (h ++ new)) = s.threads.map (Place.phase h) := by
    refine List.map_congr_left fun place there => ?_
    obtain ⟨t', here⟩ := List.mem_iff_getElem?.1 there
    exact sound.phase_append here new
  rw [Shared.view, List.map_set, others, config]
  rfl

/-- A step that changes neither the queue nor what its thread has come to. -/
theorem Sound.idles {sure : Prop} (sound : Sound c h s) (here : s.threads[t]? = some place)
    (config : r.config = s.ring.config) (noClaim : claimed new = []) (noTake : taken new = [])
    (same : place'.phase (h ++ new) = place.phase h) :
    Atomic.Step sure (s.view h) new ((⟨r, s.threads.set t place'⟩ : Shared α).view (h ++ new)) := by
  have unchanged : (s.view h).threads.set t (place.phase h) = (s.view h).threads := by
    obtain ⟨inside, phase⟩ := List.getElem?_eq_some_iff.1 (Shared.view_threads (h := h) here)
    rw [← phase]
    exact List.set_getElem_self inside
  have queue : pending (h ++ new) = pending h := by
    rw [pending, pending, headOf, claimed_append_of_nil noClaim, taken_append_of_nil noTake]
    rfl
  rw [sound.view_set config, same, unchanged, queue]
  exact .idles noClaim noTake

theorem Shared.view_length (h : Deeds α) (s : Shared α) :
    (s.view h).queue.length = tailOf h - headOf h := by
  change (pending h).length = _
  rw [pending, List.length_map, List.length_drop]
  rfl

theorem Sound.view_capacity (sound : Sound c h s) :
    (s.view h).queue.capacity = c.capacity.toNat := by
  change s.ring.config.capacity.toNat = _
  rw [sound.config_eq]

/-- A record is refused by a full queue, if words can be told apart for one lap more. -/
theorem Sound.full_of_refuses {a : α} {w : UInt64} (sound : Sound c h s)
    (here : s.threads[t]? = some (.pushHead a w)) (ahead : s.ring.lapAhead s.ring.head w = true)
    (few : tailOf h + c.capacity.toNat ≤ c.capacity.toNat * c.lapLimit) :
    tailOf h = headOf h + c.capacity.toNat := by
  obtain ⟨n, old, rfl, later⟩ := sound.knows t _ here
  obtain ⟨k, rfl⟩ := Nat.exists_eq_add_of_le' (later few)
  rw [lapAhead, beq_iff_eq, sound.config_eq, c.position_add_capacity, UInt64.add_left_inj,
    sound.head_eq] at ahead
  have laps := sound.laps
  have order := sound.order
  have room := sound.room
  have := c.position_inj sound.fits (by omega) (by omega) ahead
  omega

/-- Nothing is found in an empty queue only. -/
theorem Sound.empty_of_findsNothing {w : UInt64} (sound : Sound c h s)
    (here : s.threads[t]? = some (.popTail w)) (same : s.ring.tail = w) :
    tailOf h = headOf h := by
  obtain ⟨m, old, rfl⟩ := sound.knows t _ here
  have laps := sound.laps
  have order := sound.order
  rw [sound.tail_eq] at same
  have := c.position_inj sound.fits laps (by omega) same
  omega

/-- A store takes effect when the tail moves. -/
theorem Sound.stores {sure : Prop} {a : α} (sound : Sound c h s)
    (here : s.threads[t]? = some (.pushClaim a s.ring.tail)) (config : r.config = s.ring.config) :
    Atomic.Step sure (s.view h) [(t, .claims s.ring.tail a)]
      ((⟨r, s.threads.set t (.pushWrite a s.ring.tail)⟩ : Shared α).view
        (h ++ [(t, .claims s.ring.tail a)])) := by
  have order : (taken h).length ≤ (claimed h).length := sound.order
  obtain ⟨room, -, -⟩ := sound.claiming here
  have added : pending (h ++ [(t, .claims s.ring.tail a)]) = pending h ++ [a] := by
    rw [pending, headOf, taken_append_of_nil rfl, claimed_append,
      List.drop_append_of_le_length order, List.map_append]
    rfl
  rw [sound.view_set config, added]
  refine .stores (Shared.view_threads here) (Queue.push?_eq_some_iff.2 ⟨?_, rfl⟩)
  rw [Shared.view_length, sound.view_capacity]
  exact Nat.sub_lt_left_of_lt_add order room

/-- A take takes effect when the head moves. -/
theorem Sound.pops {sure : Prop} (sound : Sound c h s)
    (here : s.threads[t]? = some (.popClaim s.ring.head)) (config : r.config = s.ring.config) :
    Atomic.Step sure (s.view h) [(t, .takes s.ring.head)]
      ((⟨r, s.threads.set t (.popRead s.ring.head)⟩ : Shared α).view
        (h ++ [(t, .takes s.ring.head)])) := by
  obtain ⟨a, -, first, -, -⟩ := sound.taking here
  have front : pending h = a :: pending (h ++ [(t, .takes s.ring.head)]) := by
    obtain ⟨inside, same⟩ := List.getElem?_eq_some_iff.1 first
    rw [pending, pending, headOf_append, claimed_append_of_nil rfl,
      List.drop_eq_getElem_cons inside, same]
    rfl
  have phase : (Place.popRead s.ring.head).phase (h ++ [(t, .takes s.ring.head)])
      = .took (some a) := by
    rw [Place.phase, claimed_append_of_nil rfl, sound.head_eq, sound.lookup first]
  rw [sound.view_set config, phase]
  exact .takes (Shared.view_threads here) (Queue.pop?_eq_some_iff.2 ⟨front, rfl⟩)

theorem Sound.refuses {sure : Prop} {a : α} {w : UInt64} (sound : Sound c h s)
    (few : sure → tailOf h + c.capacity.toNat ≤ c.capacity.toNat * c.lapLimit)
    (here : s.threads[t]? = some (.pushHead a w)) (ahead : s.ring.lapAhead s.ring.head w = true) :
    Atomic.Step sure (s.view h) []
      ((⟨s.ring, s.threads.set t (.refused a)⟩ : Shared α).view (h ++ [])) := by
  rw [sound.view_set rfl, List.append_nil]
  refine .refuses (Shared.view_threads here) fun exact => Queue.push?_eq_none_iff.2 ?_
  have full := sound.full_of_refuses here ahead (few exact)
  rw [Shared.view_length, sound.view_capacity]
  omega

theorem Sound.findsNothing {sure : Prop} {w : UInt64} (sound : Sound c h s)
    (here : s.threads[t]? = some (.popTail w)) (same : s.ring.tail = w) :
    Atomic.Step sure (s.view h) []
      ((⟨s.ring, s.threads.set t .nothing⟩ : Shared α).view (h ++ [])) := by
  rw [sound.view_set rfl, List.append_nil]
  refine .findsNothing (Shared.view_threads here) (Queue.pop?_eq_none_iff.2 ?_)
  have empty := sound.empty_of_findsNothing here same
  refine List.eq_nil_of_length_eq_zero ?_
  rw [← Queue.length, Shared.view_length]
  omega

/-- Every step of the protocol is a step of the atomic queue, or none. -/
theorem Sound.simulates {sure : Prop} (sound : Sound c h s) (moves : s.Moves u new)
    (few : sure → tailOf h + c.capacity.toNat ≤ c.capacity.toNat * c.lapLimit) :
    Atomic.Step sure (s.view h) new (u.view (h ++ new)) := by
  cases moves with
  | begins task here done =>
      rw [sound.view_set rfl, task.phase_place, List.append_nil]
      exact .begins task (Shared.view_threads here) (Place.phase_isOver done h)
  | thread here moves =>
      cases moves with
      | claims => exact sound.stores here rfl
      | takes => exact sound.pops here rfl
      | refuses ahead => exact sound.refuses few here ahead
      | findsNothing same => exact sound.findsNothing here same
      | reads =>
          obtain ⟨m, a, -, -, -, rfl, slot, first, -⟩ := sound.reading here
          rw [← c.slotOf_position sound.fits] at slot
          refine sound.idles here rfl rfl rfl ?_
          rw [Place.phase, Place.phase, sound.lookup first,
            valueAt_of_slot sound.config_eq sound.fits slot]
      | observes before behind =>
          refine sound.idles here rfl rfl rfl ?_
          rw [Place.phase_of_observes before, Place.phase_of_observes behind]
      | rests => exact sound.idles here rfl rfl rfl (sound.phase_append here [])
      | readsTail | findsRoom | findsOlder | findsTransit | claimsNothing | writes | publishes
      | storesAgain | readsHead | findsRecord | findsFree | findsTransitTaking | takesNothing
      | frees | takesAgain =>
          exact sound.idles here rfl rfl rfl rfl

end View

/-! ## Runs -/

/-- At most one thread is between the claim of a position and the stamp it leaves, for each slot. -/
def Shared.Exclusive (s : Shared α) : Prop :=
  ∀ (t t' : Nat) (place place' : Place α) (w w' : UInt64),
    s.threads[t]? = some place → place.owns? = some w →
    s.threads[t']? = some place' → place'.owns? = some w' →
    s.ring.index w = s.ring.index w' → t = t'

/-- Every record is handed over once: what is read at a position is what the thread that claimed the
position has written there before, to the thread that took the position. -/
structure Delivers (h : Deeds α) (s : Shared α) : Prop where
  from_claimer : ∀ before after t w value, h = before ++ (t, .reads w value) :: after →
    ∃ a, value = some a ∧ Wrote before w a ∧ (t, .takes w) ∈ before
  claimed_once : ((claimed h).map (·.1)).Nodup
  written_once : (written h).Nodup
  taken_once : (taken h).Nodup
  read_once : (read h).Nodup
  read_if_taken : ∀ w ∈ taken h, w ∈ read h ∨ ∃ t : Nat, s.threads[t]? = some (.popRead w)

section Runs

variable {c : Config} {h : Deeds α} {s : Shared α} {threads : Nat} {turns : List (Turn α)}

theorem Sound.exclusive (sound : Sound c h s) : s.Exclusive := by
  intro t t' place place' w w' here owns here' owns' same
  have fits : s.ring.config.Fits := sound.config_eq ▸ sound.fits
  have slot : c.slotOf w' = c.slotOf w := by
    have words := congrArg UInt64.toNat same
    rw [toNat_index s.ring fits, toNat_index s.ring fits, sound.config_eq] at words
    exact words.symm
  obtain ⟨n, -, -, -, index, -, -, alone⟩ := sound.owned here owns
  exact Option.some.inj (alone t' place' w' here' owns' (slot.trans index))

theorem Shared.Run.delivers (fits : c.Fits) (run : Run (Shared.start c threads) turns h s)
    (laps : tailOf h < c.capacity.toNat * c.lapLimit) : Delivers h s := by
  have sound := run.sound fits laps
  obtain ⟨written, read⟩ := run.nodup fits laps
  refine ⟨?_, sound.claimed_nodup, written, sound.taken_nodup, read, run.taken_read⟩
  rintro before after t w value cut
  obtain ⟨turns', s', u, prior, moves⟩ := run.before cut
  rw [cut] at laps
  exact ((prior.sound fits (tailOf_le_of_append.trans_lt laps)).of_reads moves).1

theorem Shared.Run.simulates {sure : Prop} (fits : c.Fits)
    (run : Run (Shared.start c threads) turns h s)
    (laps : tailOf h < c.capacity.toNat * c.lapLimit)
    (few : sure → tailOf h + c.capacity.toNat ≤ c.capacity.toNat * c.lapLimit) :
    Atomic.Run sure (Atomic.start c.capacity.toNat threads) h (s.view h) := by
  induction run with
  | nil =>
      rw [← Shared.view_start]
      exact .nil _
  | snoc run turned ih =>
      have laps' := tailOf_le_of_append.trans_lt laps
      have few' := fun exact => (Nat.add_le_add_right tailOf_le_of_append _).trans (few exact)
      have sound := run.sound fits laps'
      exact .snoc (ih laps' few') (sound.simulates (Shared.moves_of_turn turned) few')

/-- Any number of threads store and take on a ring of any capacity, in any order of their steps, as
long as the tail has been in no more laps than there are: slots have one owner at a time, every
record is handed over once, no more positions are claimed and not yet read than there are slots, and
the run is one of an atomic queue. A refusal means that the queue is full as long as the claims
leave one of the laps out.

Laps are counted as those that the tail has been in, the one that it is in included. All that there
are may be used: no word comes up twice before the last lap is over. A refusal asks whether the head
is one lap behind a tail that was read before, and in the last lap that may seem so of a tail that
was read in the first. -/
theorem ring_is_atomic_queue (capacity : c.capacity.toNat + 1 < 2 ^ 64)
    (run : Shared.Run (Shared.start c threads) turns h s)
    (laps : lapsOf c h ≤ c.lapLimit) :
    s.Exclusive
    ∧ Delivers h s
    ∧ (read h).length ≤ (taken h).length
    ∧ (taken h).length ≤ (claimed h).length
    ∧ (claimed h).length ≤ (read h).length + c.capacity.toNat
    ∧ Atomic.Run ((claimed h).length + c.capacity.toNat ≤ c.capacity.toNat * c.lapLimit)
        (Atomic.start c.capacity.toNat threads) h (s.view h) := by
  have fits := c.fits_of_laps capacity (Nat.zero_lt_of_lt laps)
  rw [lapsOf, Nat.succ_le_iff, Nat.div_lt_iff_lt_mul c.capacity_toNat_pos, Nat.mul_comm] at laps
  have sound := run.sound fits laps
  have delivers := run.delivers fits laps
  exact ⟨sound.exclusive, delivers, sound.read_le delivers.read_once, sound.order,
    sound.claimed_le run.taken_read, run.simulates fits laps id⟩

end Runs

/-- Two threads at a ring of one slot. -/
def oneSlot : Shared Nat :=
  Shared.start ⟨1, by decide, .dropNewest, false⟩ 2

/-- Thread 0 stores a record while thread 1 waits for it, and claims the slot again in the next lap
once thread 1 has freed it. The first claim fails once for no reason. -/
def storeAndTake : List (Turn Nat) :=
  [.begins 0 (.store 7), .steps 0 false, .steps 0 false, .steps 0 true, .steps 0 false,
    .steps 0 false, .begins 1 .take, .steps 1 false, .steps 1 false, .steps 0 false,
    .steps 1 false, .steps 1 false, .steps 0 false, .steps 1 false, .steps 1 false,
    .steps 1 false, .steps 1 false, .begins 0 (.store 8), .steps 0 false, .steps 1 false,
    .steps 0 false, .steps 0 false]

theorem ring_is_atomic_queue_of_one :
    ∃ h s, Shared.Run oneSlot storeAndTake h s
      ∧ claimed h = [(0, 7), (2, 8)] ∧ read h = [0]
      ∧ lapsOf ⟨1, by decide, .dropNewest, false⟩ h
        ≤ Config.lapLimit ⟨1, by decide, .dropNewest, false⟩
      ∧ s.Exclusive ∧ Delivers h s ∧ (claimed h).length ≤ (read h).length + 1 := by
  have test : (oneSlot.follow [] storeAndTake).map (fun e => (claimed e.2, read e.2))
      = some ([(0, 7), (2, 8)], [0]) := by
    decide +kernel
  obtain ⟨⟨s, h⟩, followed, shown⟩ := Option.map_eq_some_iff.1 test
  obtain ⟨stored, seen⟩ := Prod.mk.inj shown
  have run : Shared.Run oneSlot storeAndTake h s := (Shared.Run.nil oneSlot).follow followed
  have laps : lapsOf ⟨1, by decide, .dropNewest, false⟩ h
      ≤ Config.lapLimit ⟨1, by decide, .dropNewest, false⟩ := by
    rw [lapsOf, tailOf, stored]
    decide +kernel
  obtain ⟨exclusive, delivers, -, -, bound, -⟩ := ring_is_atomic_queue (by decide) run laps
  exact ⟨h, s, run, stored, seen, laps, exclusive, delivers, bound⟩

end Telemetry.Ring
