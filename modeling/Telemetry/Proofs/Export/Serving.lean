import Telemetry.Export.Basic

set_option autoImplicit false

/-! # Requests one after the other

What an exporter has taken over is told by the batches that it was given before it was first closed.
Each exporter has a state in which it takes over every batch, and one in which it takes over
nothing any more; a request to close leads from the first to the second, and none leads back. -/

namespace Telemetry

variable {α σ : Type}

/-- The batches up to the first request to close. -/
def Request.openBatches : List (Request α) → List (List α)
  | [] => []
  | .send batch :: rest => batch :: openBatches rest
  | .flush _ :: rest => openBatches rest
  | .close _ :: _ => []

/-- The state behind the requests. -/
def Exporter.serve (E : Exporter α σ) : List (Request α) → σ → σ
  | [], s => s
  | request :: rest, s => E.serve rest (E.call request s).state

theorem Exporter.serve_append (E : Exporter α σ) (before after : List (Request α)) (s : σ) :
    E.serve (before ++ after) s = E.serve after (E.serve before s) := by
  induction before generalizing s with
  | nil => simp [serve]
  | cons request before ih => simp [serve, ih]

/-- What every request keeps, all of them keep. -/
theorem Exporter.serve_keeps {E : Exporter α σ} {P : σ → Prop}
    (step : ∀ request s, P s → P (E.call request s).state) (requests : List (Request α)) {s : σ}
    (h : P s) : P (E.serve requests s) := by
  induction requests generalizing s with
  | nil => exact h
  | cons request rest ih => exact ih (step request s h)

open Request

/-- An exporter that takes over batches until it is closed: `isOpen` and `isShut` say of a state
that it is reached with these batches taken over. -/
structure Exporter.Collects (E : Exporter α σ) (isOpen isShut : List (List α) → σ → Prop) :
    Prop where
  send : ∀ {taken s} batch, isOpen taken s →
    isOpen (taken ++ [batch]) (E.call (.send batch) s).state
  flush : ∀ {taken s} limit, isOpen taken s → isOpen taken (E.call (.flush limit) s).state
  close : ∀ {taken s} limit, isOpen taken s → isShut taken (E.call (.close limit) s).state
  shut : ∀ {taken s} request, isShut taken s → isShut taken (E.call request s).state

namespace Exporter.Collects

variable {E : Exporter α σ} {isOpen isShut : List (List α) → σ → Prop} {taken : List (List α)}
  {s : σ}

/-- Without a request to close the exporter stays open. -/
theorem serve_open (h : E.Collects isOpen isShut) {requests : List (Request α)}
    (unclosed : ∀ request ∈ requests, request.kind ≠ .close) (start : isOpen taken s) :
    isOpen (taken ++ openBatches requests) (E.serve requests s) := by
  induction requests generalizing taken s with
  | nil => simpa [openBatches, serve] using start
  | cons request rest ih =>
      have later := fun other more => unclosed other (List.mem_cons_of_mem request more)
      cases request with
      | send batch => simpa [openBatches, serve] using ih later (h.send batch start)
      | flush limit => exact ih later (h.flush limit start)
      | close limit => exact absurd rfl (unclosed _ List.mem_cons_self)

/-- Any requests leave the exporter with the batches up to the first request to close. -/
theorem serve (h : E.Collects isOpen isShut) (requests : List (Request α))
    (start : isOpen taken s) :
    isOpen (taken ++ openBatches requests) (E.serve requests s) ∨
      isShut (taken ++ openBatches requests) (E.serve requests s) := by
  induction requests generalizing taken s with
  | nil => exact .inl (by simpa [openBatches, Exporter.serve] using start)
  | cons request rest ih =>
      cases request with
      | send batch => simpa [openBatches, Exporter.serve] using ih (h.send batch start)
      | flush limit => exact ih (h.flush limit start)
      | close limit =>
          have closed := serve_keeps (fun other _ => h.shut other) rest (h.close limit start)
          exact .inr (by simpa [openBatches, Exporter.serve] using closed)

end Exporter.Collects

end Telemetry
