import Telemetry.Processor
import Telemetry.Simple.Basic

set_option autoImplicit false

/-! # A simple processor with one thread

With one thread and an exporter, every call on a simple processor runs to its end before the next
one begins. -/

namespace Telemetry.Simple

variable {α σ : Type}

/-- A simple processor with its exporter, and the reports so far. -/
structure Alone (α σ : Type) where
  simple : Simple α
  exporter : σ
  events : List Event

namespace Alone

/-- A processor that was not called yet. -/
def around (exporter : σ) : Alone α σ :=
  ⟨Simple.start, exporter, []⟩

/-- The report that a note shows. -/
def reported : Note α → Option Event
  | .event e => some e
  | _ => none

/-- Takes a step, if it can happen. -/
def apply (s : Alone α σ) (label : Label α) : Alone α σ :=
  match s.simple.step label with
  | none => s
  | some (simple, notes) =>
    { s with simple := simple, events := s.events ++ notes.filterMap reported }

/-- The next step of a caller, which may be one of the exporter. -/
def advance (E : Exporter α σ) (i : Nat) (s : Alone α σ) : Alone α σ :=
  match s.simple.callers[i]? with
  | some (.calling request) =>
    let c := E.call request s.exporter
    let s := { s with exporter := c.state, events := s.events ++ c.events }
    s.apply (.ended i c.outcome)
  | some (.naming _) =>
    let (name, exporter) := E.name s.exporter
    { s with exporter := exporter }.apply (.named i name)
  | _ => s.apply (.caller i)

/-- The longest call: the flag or the counter, the lock, the exporter, its name. -/
def longestCall : Nat := 5

/-- Lets a caller take so many steps. -/
def advanceTimes (E : Exporter α σ) (i : Nat) : Nat → Alone α σ → Alone α σ
  | 0, s => s
  | steps + 1, s => advanceTimes E i steps (s.advance E i)

/-- A whole call, with its answer. -/
def run (E : Exporter α σ) (op : Operation α) (s : Alone α σ) : Option Return × Alone α σ :=
  let i := s.simple.callers.length
  let s := advanceTimes E i longestCall (s.apply (.begins op))
  match s.simple.callers[i]? with
  | some (.done r) => (some r, s)
  | _ => (none, s)

/-- The answer of a call that has one. -/
def answerOf : Option Return → Processor.Answer
  | some (.answered r) => ⟨r, Duration.zero⟩
  | _ => ⟨.ok (), Duration.zero⟩

/-- The processor. -/
def processor (E : Exporter α σ) : Processor α (Alone α σ) where
  receive := fun a s =>
    match run E (.receive a) s with
    | (some (.panicked p), s) => (.error p, s)
    | (_, s) => (.ok (), s)
  flush := fun limit s =>
    let (r, s) := run E (.flush limit) s
    (answerOf r, s)
  shutdown := fun limit s =>
    let (r, s) := run E (.shutdown limit) s
    (answerOf r, s)

end Alone

end Telemetry.Simple
