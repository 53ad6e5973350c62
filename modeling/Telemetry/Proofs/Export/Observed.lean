import Telemetry.Export.Basic

set_option autoImplicit false

/-! # Exporters under observation

What an exporter goes through while another one calls it is put on record by an exporter around it,
which passes everything on unchanged: each request with its outcome, and the time that passes in
between. -/

namespace Telemetry

variable {α σ τ υ : Type}

/-- A call on an exporter of which only a part of the state is looked at. -/
def Call.map (f : σ → τ) (c : Call σ) : Call τ :=
  ⟨c.outcome, c.events, f c.state⟩

/-- Something that an exporter goes through. -/
inductive Incident (α : Type) where
  /-- It was asked for something, and this was the outcome. -/
  | asked (request : Request α) (outcome : Outcome)
  /-- Time passed. -/
  | slept (d : Duration)

/-- Whether the exporter was given a batch. -/
def Incident.isSend : Incident α → Bool
  | .asked (.send _) _ => true
  | _ => false

/-- Whether time passed. -/
def Incident.isPause : Incident α → Bool
  | .slept _ => true
  | .asked _ _ => false

/-- The state of an exporter, with what it went through. -/
structure Observed (α σ : Type) where
  state : σ
  log : List (Incident α)

/-- Puts on record what an exporter goes through. Being asked for its name is not put on record. -/
def Exporter.observed (E : Exporter α σ) : Exporter α (Observed α σ) where
  call := fun request s =>
    let c := E.call request s.state
    c.map fun state => ⟨state, s.log ++ [.asked request c.outcome]⟩
  name := fun s =>
    let (name, state) := E.name s.state
    (name, ⟨state, s.log⟩)
  elapse := fun d s => ⟨E.elapse d s.state, s.log ++ [.slept d]⟩

/-! ## Looking at a part of the state -/

/-- Who looks at the states of an exporter through `f` sees another exporter. -/
structure Exporter.Shows (E : Exporter α σ) (f : σ → τ) (F : Exporter α τ) : Prop where
  call : ∀ request s, (E.call request s).map f = F.call request (f s)
  name : ∀ s, F.name (f s) = ((E.name s).1, f (E.name s).2)
  elapse : ∀ d s, F.elapse d (f s) = f (E.elapse d s)

/-- Observation changes nothing. -/
theorem Exporter.observed_shows (E : Exporter α σ) : E.observed.Shows Observed.state E :=
  ⟨fun _ _ => rfl, fun _ => rfl, fun _ _ => rfl⟩

theorem Exporter.shows_self (E : Exporter α σ) : E.Shows id E :=
  ⟨fun _ _ => rfl, fun _ => rfl, fun _ _ => rfl⟩

theorem Exporter.Shows.trans {E : Exporter α σ} {F : Exporter α τ} {G : Exporter α υ}
    {f : σ → τ} {g : τ → υ} (h : E.Shows f F) (k : F.Shows g G) :
    E.Shows (fun s => g (f s)) G where
  call := by
    intro request s
    rw [← k.call, ← h.call]
    rfl
  name := by
    intro s
    rw [k.name, h.name]
  elapse := by
    intro d s
    rw [k.elapse, h.elapse]

end Telemetry
