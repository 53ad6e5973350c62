import Telemetry.Proofs.Batch.Beside
import Telemetry.Proofs.Batch.Termination
import Telemetry.Proofs.Batch.Wakeup

set_option autoImplicit false

/-! # Nobody notices that a call gives up

A call registers its request before it waits, and a call that gives up takes nothing back. So a run
in which the time of some calls runs out can be put beside one in which the same calls wait on, the
other threads taking the same steps at the same time in both. The two never differ in anything that
the threads share, in what the exporter is asked for, or in what the other calls return. The
requests of the calls that have given up are served like all others: the calls that wait on in their
place are told the answers. -/

namespace Telemetry.Batch

variable {α : Type}

/-! ## Two runs -/

/-- A run up to some moment: what has happened, what it has shown and where it has come to. -/
structure Past (α : Type) where
  labels : List (Label α)
  notes : List (Note α)
  state : Batch α

/-- One step more. -/
inductive Past.Steps (p : Past α) (label : Label α) : Past α → Prop where
  | intro {s : Batch α} {new : List (Note α)} : p.state.step label = some (s, new) →
      Steps p label ⟨p.labels ++ [label], p.notes ++ new, s⟩

/-- Two runs from the same state. In the first one the time of the calls in `late` has run out; in
the second one these calls wait on, and look at the answer whenever they like. All other threads
take the same steps at the same time. Only a caller that waits for the worker's end may have to do
so alone, when a late call in the second run was the first one to wait for it. -/
inductive Twins (s : Batch α) : List Nat → Past α → Past α → Prop where
  | starts : Twins s [] ⟨[], [], s⟩ ⟨[], [], s⟩
  /-- A step in both runs. -/
  | both {late : List Nat} {p q p' q' : Past α} {label : Label α} : Twins s late p q →
      (∀ i, label.caller? = some i →
        i ∉ late ∧ q.state.callers[i]? = p.state.callers[i]?) →
      p.Steps label p' → q.Steps label q' → Twins s late p' q'
  /-- A call looks and finds no answer. Its time is up in the first run. -/
  | parts {late : List Nat} {p q p' q' : Past α} {i : Nat} {c : Caller α} {limit : Duration} :
      Twins s late p q → i ∉ late → p.state.callers[i]? = some c →
      q.state.callers[i]? = some c → c.Misses p.state limit → p.Steps (.caller i true) p' →
      q.Steps (.caller i false) q' → Twins s (i :: late) p' q'
  /-- A late call comes back in the first run. -/
  | comesBack {late : List Nat} {p q p' : Past α} {i : Nat} {expired : Bool} :
      Twins s late p q → i ∈ late → p.Steps (.caller i expired) p' → Twins s late p' q
  /-- A late call goes on in the second run. -/
  | waitsOn {late : List Nat} {p q q' : Past α} {i : Nat} :
      Twins s late p q → i ∈ late → q.Steps (.caller i false) q' → Twins s late p q'
  /-- A caller has seen the worker's end in the first run. -/
  | joins {late : List Nat} {p q p' : Past α} {i : Nat} {expired implied : Bool}
      {r : ProcessorResult} : Twins s late p q →
      p.state.callers[i]? = some (.joining r implied) →
      q.state.callers[i]? = some (.leaving r implied) → p.Steps (.caller i expired) p' →
      Twins s late p' q

theorem Past.Steps.run {s : Batch α} {p q : Past α} {label : Label α} (h : p.Steps label q)
    (run : Run s p.labels p.notes p.state) : Run s q.labels q.notes q.state := by
  cases h with
  | intro step => exact .snoc run step

theorem Twins.runs {s : Batch α} {late : List Nat} {p q : Past α} (h : Twins s late p q) :
    Run s p.labels p.notes p.state ∧ Run s q.labels q.notes q.state := by
  induction h with
  | starts => exact ⟨.nil s, .nil s⟩
  | both _ _ first second ih => exact ⟨first.run ih.1, second.run ih.2⟩
  | parts _ _ _ _ _ first second ih => exact ⟨first.run ih.1, second.run ih.2⟩
  | comesBack _ _ first ih => exact ⟨first.run ih.1, ih.2⟩
  | waitsOn _ _ second ih => exact ⟨ih.1, second.run ih.2⟩
  | joins _ _ _ first ih => exact ⟨first.run ih.1, ih.2⟩

/-! ## What twins have in common -/

/-- Twins are side by side, and show the same apart from reports. -/
theorem Twins.abreast {name : String} {config : BatchConfig} {late : List Nat} {p q : Past α}
    (h : Twins (start name config) late p q) :
    Abreast late p.state q.state ∧ shown q.notes = shown p.notes := by
  induction h with
  | starts =>
      refine ⟨⟨rfl, id, fun i => ?_⟩, rfl⟩
      exact .none List.not_mem_nil
  | both _ keeps first second ih =>
      obtain ⟨abreast, same⟩ := ih
      cases first with
      | intro step =>
          cases second with
          | intro step' =>
              obtain ⟨_, next, abreast'⟩ := abreast.both keeps step
              rw [step'] at next
              cases next
              exact ⟨abreast', by rw [shown_append, shown_append, same]⟩
  | parts _ _ hc hd misses first second ih =>
      obtain ⟨abreast, same⟩ := ih
      cases first with
      | intro step =>
          cases second with
          | intro step' =>
              obtain ⟨_, _, _, _, next, next', quiet, quiet', abreast'⟩ :=
                abreast.parts hc hd misses
              rw [step] at next
              rw [step'] at next'
              cases next
              cases next'
              exact ⟨abreast', by rw [shown_append, shown_append, quiet, quiet', same]⟩
  | comesBack _ isLate first ih =>
      obtain ⟨abreast, same⟩ := ih
      cases first with
      | intro step =>
          obtain ⟨quiet, abreast'⟩ := abreast.comesBack isLate step
          exact ⟨abreast', by rw [shown_append, quiet, List.append_nil, same]⟩
  | waitsOn twins isLate second ih =>
      obtain ⟨abreast, same⟩ := ih
      cases second with
      | intro step =>
          obtain ⟨quiet, abreast'⟩ := abreast.waitsOn twins.runs.2.genuine isLate step
          exact ⟨abreast', by rw [shown_append, quiet, List.append_nil, same]⟩
  | joins _ hc hd first ih =>
      obtain ⟨abreast, same⟩ := ih
      cases first with
      | intro step =>
          obtain ⟨quiet, abreast'⟩ := abreast.joins hc hd step
          exact ⟨abreast', by rw [shown_append, quiet, List.append_nil, same]⟩

/-- The states that a run has come through. -/
def Past.Visits (s : Batch α) (p : Past α) (t : Batch α) : Prop :=
  ∃ before after notes, p.labels = before ++ after ∧ Run s before notes t

theorem Past.visits_end {s : Batch α} {p : Past α} (run : Run s p.labels p.notes p.state) :
    p.Visits s p.state :=
  ⟨p.labels, [], p.notes, (List.append_nil _).symm, run⟩

theorem Past.Steps.visits {s t : Batch α} {p q : Past α} {label : Label α}
    (h : p.Steps label q) (run : Run s p.labels p.notes p.state) :
    q.Visits s t ↔ p.Visits s t ∨ t = q.state := by
  constructor
  · rintro ⟨before, after, n, cut, first⟩
    have last := h.run run
    cases h with
    | intro step =>
        rcases List.eq_nil_or_concat after with rfl | ⟨after, label', rfl⟩
        · -- The labels decide where the run leads.
          rw [List.append_nil] at cut
          rw [cut] at last
          have same := (run_iff_follow.1 first).symm.trans (run_iff_follow.1 last)
          exact .inr (congrArg Prod.fst (Option.some.inj same))
        · rw [List.concat_eq_append, ← List.append_assoc] at cut
          exact .inl ⟨before, after, n, (List.append_inj' cut rfl).1, first⟩
  · rintro (⟨before, after, n, cut, first⟩ | rfl)
    · cases h with
      | intro step =>
          refine ⟨before, after ++ [label], n, ?_, first⟩
          rw [← List.append_assoc, ← cut]
    · exact visits_end (h.run run)

theorem Past.visits_stays {s t : Batch α} {p : Past α}
    (run : Run s p.labels p.notes p.state) :
    p.Visits s t ↔ p.Visits s t ∨ t = p.state := by
  constructor
  · exact .inl
  · rintro (before | rfl)
    · exact before
    · exact visits_end run

/-- Each of two runs goes through the same states as the other one, callers apart. -/
structure SameCourse (s : Batch α) (p q : Past α) : Prop where
  first : ∀ t, p.Visits s t → ∃ u, q.Visits s u ∧ Alike t u
  second : ∀ u, q.Visits s u → ∃ t, p.Visits s t ∧ Alike t u

theorem SameCourse.next {s : Batch α} {p q p' q' : Past α} (h : SameCourse s p q)
    (hp : ∀ t, p'.Visits s t ↔ p.Visits s t ∨ t = p'.state)
    (hq : ∀ u, q'.Visits s u ↔ q.Visits s u ∨ u = q'.state)
    (alike : Alike p'.state q'.state) : SameCourse s p' q' where
  first t ht := by
    rcases (hp t).1 ht with before | rfl
    · obtain ⟨u, hu, same⟩ := h.first t before
      exact ⟨u, (hq u).2 (.inl hu), same⟩
    · exact ⟨q'.state, (hq _).2 (.inr rfl), alike⟩
  second u hu := by
    rcases (hq u).1 hu with before | rfl
    · obtain ⟨t, ht, same⟩ := h.second u before
      exact ⟨t, (hp t).2 (.inl ht), same⟩
    · exact ⟨p'.state, (hp _).2 (.inr rfl), alike⟩

theorem Twins.sameCourse {name : String} {config : BatchConfig} {late : List Nat} {p q : Past α}
    (h : Twins (start name config) late p q) : SameCourse (start name config) p q := by
  have alike {late : List Nat} {p q : Past α} (twins : Twins (start name config) late p q) :
      Alike p.state q.state := twins.abreast.1.alike
  induction h with
  | starts => exact ⟨fun t ht => ⟨t, ht, rfl⟩, fun u hu => ⟨u, hu, rfl⟩⟩
  | both twins keeps first second ih =>
      exact ih.next (fun _ => first.visits twins.runs.1) (fun _ => second.visits twins.runs.2)
        (alike (.both twins keeps first second))
  | parts twins fresh hc hd misses first second ih =>
      exact ih.next (fun _ => first.visits twins.runs.1) (fun _ => second.visits twins.runs.2)
        (alike (.parts twins fresh hc hd misses first second))
  | comesBack twins isLate first ih =>
      exact ih.next (fun _ => first.visits twins.runs.1) (fun _ => Past.visits_stays twins.runs.2)
        (alike (.comesBack twins isLate first))
  | waitsOn twins isLate second ih =>
      exact ih.next (fun _ => Past.visits_stays twins.runs.1) (fun _ => second.visits twins.runs.2)
        (alike (.waitsOn twins isLate second))
  | joins twins hc hd first ih =>
      exact ih.next (fun _ => first.visits twins.runs.1) (fun _ => Past.visits_stays twins.runs.2)
        (alike (.joins twins hc hd first))

/-! ## The run in which the calls wait on -/

/-- Every step of a run can be followed by its twin; a call whose time runs out waits on there. -/
theorem Twins.exists_step {name : String} {config : BatchConfig} {late : List Nat}
    {p q p' : Past α} {label : Label α} (twins : Twins (start name config) late p q)
    (first : p.Steps label p') :
    ∃ late' q', Twins (start name config) late' p' q' ∧ late ⊆ late' ∧
      ∀ (i : Nat) (c : Caller α) (limit : Duration), label = .caller i true →
        p.state.callers[i]? = some c → c.Misses p.state limit → i ∈ late' := by
  have abreast := twins.abreast.1
  have both (keeps : ∀ i, label.caller? = some i →
        i ∉ late ∧ q.state.callers[i]? = p.state.callers[i]?) :
      ∃ q', Twins (start name config) late p' q' := by
    cases first with
    | intro step =>
        obtain ⟨v, step', -⟩ := abreast.both keeps step
        exact ⟨_, .both twins keeps (.intro step) (.intro step')⟩
  cases label with
  | caller i expired =>
      obtain ⟨c, hc⟩ : ∃ c, p.state.callers[i]? = some c := by
        cases first with
        | intro step =>
            obtain ⟨c, m, hc, -⟩ := step_caller_iff.1 step
            exact ⟨c, hc⟩
      have pair := abreast.callers i
      rw [hc] at pair
      generalize hd : q.state.callers[i]? = d? at pair
      cases pair with
      | apart isLate =>
          refine ⟨late, q, .comesBack twins isLate first, List.Subset.refl late, ?_⟩
          rintro _ _ _ ⟨⟩ _ _
          exact isLate
      | beside fresh beside =>
          cases beside with
          | leaves =>
              refine ⟨late, q, .joins twins hc hd first, List.Subset.refl late, ?_⟩
              rintro _ _ _ ⟨⟩ hc' misses
              rw [hc] at hc'
              cases hc'
              cases misses
          | same =>
              by_cases misses : expired = true ∧ ∃ limit, c.Misses p.state limit
              · obtain ⟨rfl, limit, misses⟩ := misses
                obtain ⟨_, v, _, _, -, step', -⟩ := abreast.parts hc hd misses
                refine ⟨i :: late, _, .parts twins fresh hc hd misses first (.intro step'),
                  List.subset_cons_self i late, ?_⟩
                rintro _ _ _ ⟨⟩ _ _
                exact List.mem_cons_self
              · obtain ⟨q', twins'⟩ := both (by
                  rintro _ ⟨⟩
                  exact ⟨fresh, hd.trans hc.symm⟩)
                refine ⟨late, q', twins', List.Subset.refl late, ?_⟩
                rintro _ _ limit ⟨⟩ hc' misses'
                rw [hc] at hc'
                cases hc'
                exact absurd ⟨rfl, limit, misses'⟩ misses
  | _ =>
      obtain ⟨q', twins'⟩ := both nofun
      exact ⟨late, q', twins', List.Subset.refl late, nofun⟩

/-- Whatever calls have run out of time, there is a run in which they wait on. -/
theorem Run.exists_twins {name : String} {config : BatchConfig} {s : Batch α}
    {labels : List (Label α)} {notes : List (Note α)}
    (run : Run (start name config) labels notes s) :
    ∃ late q, Twins (start name config) late ⟨labels, notes, s⟩ q ∧
      ∀ (i : Nat) (c : Caller α) (limit : Duration), s.callers[i]? = some c →
        c.overdue? = some limit → i ∈ late := by
  induction run with
  | nil => exact ⟨[], _, .starts, nofun⟩
  | @snoc s u labels notes new label run step ih =>
      obtain ⟨late, q, twins, known⟩ := ih
      obtain ⟨late', q', twins', more, now⟩ := twins.exists_step (.intro step)
      refine ⟨late', q', twins', fun i c limit hc isLate => ?_⟩
      obtain ⟨d, hd, before | ⟨mine, misses⟩⟩ := overdue_of_step run.genuine step hc isLate
      · exact more (known i d limit hd before)
      · exact now i d limit mine hd misses

/-! ## What becomes of the late calls -/

theorem Past.Steps.operation {p q : Past α} {label : Label α} (h : p.Steps label q) {i : Nat}
    {op : Operation α} (hop : (operations p.labels)[i]? = some op) :
    (operations q.labels)[i]? = some op := by
  cases h with
  | intro => exact operations_snoc hop label

/-- Only calls that flush, shut down or drop wait on. -/
theorem Twins.operation_of_late {name : String} {config : BatchConfig} {late : List Nat}
    {p q : Past α} (h : Twins (start name config) late p q) {i : Nat} (isLate : i ∈ late) :
    ∃ op, (operations p.labels)[i]? = some op ∧ op.isReceive = false := by
  induction h with
  | starts => cases isLate
  | both _ _ first _ ih | comesBack _ _ first ih | joins _ _ _ first ih =>
      obtain ⟨op, hop, other⟩ := ih isLate
      exact ⟨op, first.operation hop, other⟩
  | waitsOn _ _ _ ih => exact ih isLate
  | parts twins _ hc _ misses first _ ih =>
      rcases List.mem_cons.1 isLate with rfl | before
      · obtain ⟨op, hop⟩ := twins.runs.1.exists_operation hc
        refine ⟨op, first.operation hop, ?_⟩
        rcases twins.runs.1.operation_of_misses hop hc misses with ⟨rfl, -⟩ | ⟨rfl | rfl, -⟩
        · rfl
        · rfl
        · rfl
      · obtain ⟨op, hop, other⟩ := ih before
        exact ⟨op, first.operation hop, other⟩

theorem Past.Steps.operations_eq {p q : Past α} {label : Label α} (h : p.Steps label q) :
    operations q.labels = operations p.labels ++ operations [label] := by
  cases h with
  | intro => exact operations_append p.labels [label]

/-- The same calls are made in both runs. -/
theorem Twins.operations_eq {s : Batch α} {late : List Nat} {p q : Past α}
    (h : Twins s late p q) : operations q.labels = operations p.labels := by
  induction h with
  | starts => rfl
  | both _ _ first second ih => rw [first.operations_eq, second.operations_eq, ih]
  | parts _ _ _ _ _ first second ih =>
      rw [first.operations_eq, second.operations_eq, ih]
      rfl
  | comesBack _ _ first ih | joins _ _ _ first ih =>
      rw [first.operations_eq, ih]
      exact (List.append_nil _).symm
  | waitsOn _ _ second ih =>
      rw [second.operations_eq, ih]
      exact List.append_nil _

/-- A call that waits for the answer to a shutdown has requested it. -/
def Caller.awaitsShutdown : Caller α → Bool
  | .awaitingShutdown _ _ _ => true
  | _ => false

theorem Caller.awaitsShutdown_notify (c : Caller α) :
    c.notify.awaitsShutdown = c.awaitsShutdown := by
  cases c <;> rfl

theorem Caller.Moves.awaitsShutdown {s t : Batch α} {c c' : Caller α} {notes : List (Note α)}
    (h : c.Moves s t c' notes) (waits : c'.awaitsShutdown = true) :
    c.awaitsShutdown = true ∨ t.control.shutdownRequested = true := by
  cases h with
  | closesAgain requested => exact .inr requested
  | closes => exact .inr rfl
  | looksAtShutdown => exact .inl rfl
  | requestsFlush _ look | looksAtFlush look => cases look <;> cases waits
  | _ => cases waits

theorem Run.requested_of_awaiting {name : String} {config : BatchConfig} {s : Batch α}
    {labels : List (Label α)} {notes : List (Note α)}
    (run : Run (start name config) labels notes s) {i : Nat} {op : Operation α} {c : Caller α}
    (hop : (operations labels)[i]? = some op) (hc : s.callers[i]? = some c)
    (waits : c.awaitsShutdown = true) : s.control.shutdownRequested = true := by
  refine run.follows_calls (q := fun _ => True)
    (p := fun _ s c => c.awaitsShutdown = true → s.control.shutdownRequested = true)
    (fun _ => trivial) ?begins ?moves ?others hop ((Nat.zero_add i).symm ▸ hc) waits
  case begins =>
    intro u op _ waits
    cases op <;> cases waits
  case moves =>
    intro u v op c c' i new _ _ before hm waits
    rcases hm.awaitsShutdown waits with waited | now
    · exact hm.stays_requested (before waited)
    · exact now
  case others =>
    intro u v label new op c _ hm before
    have stays (waits : c.awaitsShutdown = true) : v.control.shutdownRequested = true :=
      hm.shutdownRequested (before waits)
    refine ⟨stays, fun waits => stays ?_⟩
    rw [← c.awaitsShutdown_notify]
    exact waits

/-- The time that a call allows for a shutdown, and whether it is a drop. -/
def Operation.closing? (config : BatchConfig) : Operation α → Option (Duration × Bool)
  | .shutdown limit => some (limit, false)
  | .drop => some (config.shutdownTimeout, true)
  | _ => none

/-- Where a call is that waits on: its request is registered, and when it has a result, that is an
answer of the worker. -/
inductive Caller.Stands (s : Batch α) : Operation α → Caller α → Prop where
  | awaitsFlush {number : Nat} {limit : Duration} {notified : Bool} :
      number ≤ s.control.flushRequested →
      Stands s (.flush limit) (.awaitingFlush number limit notified)
  | flushed {limit : Duration} {r : ProcessorResult} : isAnswer r = true →
      Stands s (.flush limit) (.done (some r))
  | awaitsShutdown {op : Operation α} {limit : Duration} {implied notified : Bool} :
      op.closing? s.config = some (limit, implied) → s.control.shutdownRequested = true →
      Stands s op (.awaitingShutdown limit implied notified)
  | told {op : Operation α} {limit : Duration} {implied : Bool} {r : ProcessorResult}
      {c : Caller α} : op.closing? s.config = some (limit, implied) →
      s.control.shutdownResult = some r → c.Ending r limit implied → c.persists = true →
      Stands s op c
  | dropped : Stands s .drop (.done none)

theorem Run.stands_of_flush {name : String} {config : BatchConfig} {s : Batch α}
    {labels : List (Label α)} {notes : List (Note α)}
    (run : Run (start name config) labels notes s) {i : Nat} {limit : Duration} {c : Caller α}
    (hop : (operations labels)[i]? = some (.flush limit)) (hc : s.callers[i]? = some c)
    (waits : c.persists = true) : c.Stands s (.flush limit) := by
  rcases run.flushing hop hc with flushes | ⟨r, rfl⟩
  · cases c with
    | awaitingFlush number own notified =>
        obtain rfl := Option.some.inj flushes
        exact .awaitsFlush (run.awake.asked _ (List.mem_of_getElem? hc) number rfl)
    | flushing | requestingFlush => cases waits
    | _ => cases flushes
  · exact .flushed waits

theorem Caller.Closing.stands {s : Batch α} {op : Operation α} {c : Caller α} {limit : Duration}
    {implied : Bool} (h : c.Closing s.control.shutdownResult limit implied)
    (closing : op.closing? s.config = some (limit, implied)) (waits : c.persists = true)
    (requested : c.awaitsShutdown = true → s.control.shutdownRequested = true) :
    c.Stands s op := by
  obtain ⟨r, ending, answer | ⟨-, rfl⟩⟩ := h
  · exact .told closing answer ending waits
  · -- The time has not run out where the call waits on.
    cases ending with
    | waits => exact .awaitsShutdown closing (requested rfl)
    | returnsNothing implied =>
        subst implied
        cases op with
        | drop => exact .dropped
        | _ => cases closing
    | _ => cases waits

theorem Run.stands {name : String} {config : BatchConfig} {s : Batch α}
    {labels : List (Label α)} {notes : List (Note α)}
    (run : Run (start name config) labels notes s) {i : Nat} {op : Operation α} {c : Caller α}
    (hop : (operations labels)[i]? = some op) (other : op.isReceive = false)
    (hc : s.callers[i]? = some c) (waits : c.persists = true) : c.Stands s op := by
  have requested := run.requested_of_awaiting hop hc
  cases op with
  | receive a => cases other
  | flush limit => exact run.stands_of_flush hop hc waits
  | shutdown limit =>
      have closing : c.Closing s.control.shutdownResult limit false := run.ends hop hc
      exact closing.stands rfl waits requested
  | drop =>
      rcases run.ends hop hc with rfl | rfl | closing
      · cases waits
      · exact .dropped
      · exact closing.stands rfl waits requested

/-- What a look at the answer finds, and where it leads. -/
inductive Caller.Finds (s : Batch α) : Caller α → Caller α → Prop where
  | flush {number : Nat} {limit : Duration} {notified : Bool} :
      number ≤ s.control.flushCompleted →
      Finds s (.awaitingFlush number limit notified) (.done (some s.control.flushResult))
  | shutdown {limit : Duration} {implied notified : Bool} {r : ProcessorResult} :
      s.control.shutdownResult = some r →
      Finds s (.awaitingShutdown limit implied notified) (.claiming r implied)

theorem Caller.Finds.step {s : Batch α} {c c' : Caller α} {i : Nat} (h : c.Finds s c')
    (hc : s.callers[i]? = some c) :
    s.step (.caller i false) = some ({ s with callers := s.callers.set i c' }, []) := by
  refine step_caller_iff.2 ⟨c, ⟨s, c', []⟩, hc, ?_, rfl⟩
  cases h with
  | flush answered => simp [Caller.step, lookAtFlush, answered, goTo]
  | shutdown answered => simp [Caller.step, lookAtShutdown, answered]

/-- Whether a caller waits for an answer. -/
def Caller.isWaiting : Caller α → Bool
  | .awaitingFlush _ _ _ | .awaitingShutdown _ _ _ => true
  | _ => false

/-- Before the worker rests, whether it sleeps unnoticed or has ended, all registered requests are
answered. -/
theorem Caller.Stands.finds {name : String} {config : BatchConfig} {s : Batch α}
    {labels : List (Label α)} {notes : List (Note α)}
    (run : Run (start name config) labels notes s) {op : Operation α} {c : Caller α}
    (h : c.Stands s op) (waits : c.isWaiting = true)
    (rests : s.worker = .asleep false ∨ ∃ panicked, s.worker = .stopped panicked) :
    ∃ c', c.Finds s c' := by
  have concluded (panicked : Bool) (stopped : s.worker = .stopped panicked) :
      s.worker.concluded = true := by
    rw [stopped]
    rfl
  cases h with
  | awaitsFlush registered =>
      rcases rests with sleeps | ⟨panicked, stopped⟩
      · exact ⟨_, .flush (Nat.le_trans registered (run.unwoken sleeps).answered)⟩
      · have all := run.concluded.flushed (concluded panicked stopped)
        exact ⟨_, .flush (all ▸ registered)⟩
  | awaitsShutdown _ requested =>
      rcases rests with sleeps | ⟨panicked, stopped⟩
      · exact absurd ((run.unwoken sleeps).running.symm.trans requested) nofun
      · have answered := run.concluded.answered.trans (concluded panicked stopped)
        obtain ⟨r, answer⟩ := Option.isSome_iff_exists.1 answered
        exact ⟨_, .shutdown answer⟩
  | told _ answer ending =>
      cases ending with
      | waits => exact ⟨_, .shutdown answer⟩
      | _ => cases waits
  | flushed | dropped => cases waits

/-! ## The theorem -/

theorem Caller.Stands.of_alike {s u : Batch α} {op : Operation α} {c : Caller α}
    (h : c.Stands u op) (alike : Alike s u) : c.Stands s op := by
  cases h with
  | awaitsFlush registered => exact .awaitsFlush (alike.control ▸ registered)
  | flushed answer => exact .flushed answer
  | awaitsShutdown closing requested =>
      exact .awaitsShutdown (alike.config ▸ closing) (alike.control ▸ requested)
  | told closing answer ending waits =>
      exact .told (alike.config ▸ closing) (alike.control ▸ answer) ending waits
  | dropped => exact .dropped

theorem Caller.Finds.of_alike {s u : Batch α} {c c' : Caller α} (h : c.Finds s c')
    (alike : Alike s u) : c.Finds u c' := by
  cases h with
  | flush answered =>
      rw [← alike.control] at answered ⊢
      exact .flush answered
  | shutdown answered => exact .shutdown (alike.control ▸ answered)

theorem Paired.result?_eq {late : List Nat} {s u : Batch α}
    (h : Paired late s.callers u.callers) {i : Nat} (fresh : i ∉ late) :
    u.result? i = s.result? i := by
  have pair := h i
  unfold result?
  generalize s.callers[i]? = c? at pair ⊢
  generalize u.callers[i]? = d? at pair ⊢
  cases pair with
  | none => rfl
  | beside _ beside => cases beside <;> rfl
  | apart isLate => exact absurd isLate fresh

theorem calls_shown (notes : List (Note α)) : calls (shown notes) = calls notes := by
  unfold calls shown
  rw [List.filterMap_filter]
  congr
  funext note
  cases note <;> rfl

/-- A call that has run out of time matters to nobody else. It was given the time that it returns,
and its time was up at a look which found that its request had no answer. There is a run in which
every such call waits on instead; and in any such run, the rest going on as it did, all states are
the same but for the callers and for who waits for the worker's end, the exporter is asked for the
same, the same records are accepted and lost, and all other calls return the same. The requests of
the late calls stay registered. Before the worker comes to rest they are answered, and the next look
of a call that has waited on finds the answer. -/
theorem timeouts_are_private {name : String} {config : BatchConfig} {s : Batch α}
    {labels : List (Label α)} {notes : List (Note α)}
    (run : Run (start name config) labels notes s) :
    (∀ (i : Nat) (limit : Duration), s.result? i = some (some (.error (.timeout limit))) →
      ∃ before after n p c, labels = before ++ .caller i true :: after ∧
        Run (start name config) before n p ∧ p.callers[i]? = some c ∧ c.Misses p limit ∧
        ((operations labels)[i]? = some (.flush limit) ∧ c.closes = false ∨
          (operations labels)[i]? = some (.shutdown limit) ∧ c.closes = true)) ∧
    (∃ late q, Twins (start name config) late ⟨labels, notes, s⟩ q ∧
      ∀ (i : Nat) (c : Caller α) (limit : Duration), s.callers[i]? = some c →
        c.overdue? = some limit → i ∈ late) ∧
    ∀ late q, Twins (start name config) late ⟨labels, notes, s⟩ q →
      Run (start name config) q.labels q.notes q.state ∧
      Alike s q.state ∧ SameCourse (start name config) ⟨labels, notes, s⟩ q ∧
      calls q.notes = calls notes ∧ shown q.notes = shown notes ∧
      (∀ i, i ∉ late → q.state.result? i = s.result? i) ∧
      ∀ i ∈ late, ∃ op c, (operations labels)[i]? = some op ∧
        q.state.callers[i]? = some c ∧ c.Stands s op ∧
        (c.isWaiting = true →
          (s.worker = .asleep false ∨ ∃ panicked, s.worker = .stopped panicked) →
          ∃ c', c.Finds s c') ∧
        ∀ c', c.Finds s c' → q.state.step (.caller i false) =
          some ({ q.state with callers := q.state.callers.set i c' }, []) := by
  refine ⟨fun i limit late => run.timed_out late, run.exists_twins, ?_⟩
  intro late q twins
  obtain ⟨abreast, same⟩ := twins.abreast
  obtain ⟨-, second⟩ := twins.runs
  refine ⟨second, abreast.alike, twins.sameCourse, ?_, same,
    fun i fresh => abreast.callers.result?_eq fresh, ?late⟩
  · rw [← calls_shown, same, calls_shown]
  case late =>
    intro i isLate
    obtain ⟨op, hop, other⟩ := twins.operation_of_late isLate
    have pair := abreast.callers i
    generalize hc : s.callers[i]? = c? at pair
    generalize hd : q.state.callers[i]? = d? at pair
    cases pair with
    | none fresh | beside fresh => exact absurd isLate fresh
    | @apart c d _ _ waits =>
        have stands := (second.stands (twins.operations_eq ▸ hop) other hd waits).of_alike
          abreast.alike
        exact ⟨op, d, hop, rfl, stands, fun waits rests => stands.finds run waits rests,
          fun c' finds => (finds.of_alike abreast.alike).step hd⟩

/-- A call flushes and runs out of time while it waits. Then the worker takes up its request, has
the exporter flush, answers and falls asleep. -/
def lateFlush : List (Label Nat) :=
  .begins (.flush (Duration.ofSecs 1)) :: List.replicate 2 (.caller 0 false) ++
    .caller 0 true :: List.replicate 4 (.worker false) ++
    .ended (.returned (.ok ())) :: List.replicate 3 (.worker false)

theorem timeouts_are_private_of_one :
    ∃ (s : Batch Nat) (notes : List (Note Nat)),
      Run (start "logs" (smallest .dropNewest)) lateFlush notes s ∧
      s.result? 0 = some (some (.error (.timeout (Duration.ofSecs 1)))) ∧
      calls notes = [.flush (Duration.ofSecs 1)] ∧
      ∃ late q c, Twins (start "logs" (smallest .dropNewest)) late ⟨lateFlush, notes, s⟩ q ∧
        0 ∈ late ∧ Alike s q.state ∧ calls q.notes = calls notes ∧
        q.state.callers[0]? = some c ∧ c.Stands s (.flush (Duration.ofSecs 1)) ∧
        (c.isWaiting = true → ∃ c', c.Finds s c') := by
  obtain ⟨s, notes, run, timedOut⟩ := exists_run (start "logs" (smallest .dropNewest)) lateFlush
    (fun s _ => s.result? 0 = some (some (.error (.timeout (Duration.ofSecs 1)))))
    (by decide +kernel)
  have timedOut := of_decide_eq_true timedOut
  have asked := run.test (fun _ notes => calls notes == [.flush (Duration.ofSecs 1)])
    (by decide +kernel)
  have sleeps := Worker.eq_asleep (run.test (fun s _ => s.worker.isAsleep) (by decide +kernel))
  obtain ⟨-, ⟨late, q, twins, all⟩, same⟩ := timeouts_are_private run
  have isLate := all 0 _ _ (callers_of_result? timedOut) rfl
  obtain ⟨-, alike, -, called, -, -, known⟩ := same late q twins
  obtain ⟨op, c, hop, hc, stands, finds, -⟩ := known 0 isLate
  cases hop
  exact ⟨s, notes, run, timedOut, eq_of_beq asked, late, q, c, twins, isLate, alike, called, hc,
    stands, fun waits => finds waits (.inl sleeps)⟩

end Telemetry.Batch
