import Telemetry.Pipeline.Basic

set_option autoImplicit false

/-! # The two sides of a pipeline

The processors of a pipeline know nothing of each other. `Pipeline.turn` tells a call as what either
side is asked for on its own: the span side what the call says, and the log side the same under what
the span side has left of the limit. The calls of a pipeline do exactly that, so that each side goes
through what its processor would go through alone, whatever the processor of the other side is and
however it answers. The remaining limit is all that one side can do to the other. -/

namespace Telemetry

variable {α σ τ : Type}

/-- What is left of a limit is never less than nothing. -/
theorem nanos_saturatingSub (limit elapsed : Duration) :
    ((limit.saturatingSub elapsed).nanos : Int) = max 0 ((limit.nanos : Int) - elapsed.nanos) := by
  simp only [Duration.saturatingSub]
  omega

/-! ## Processors on record -/

/-- What a processor is asked for. -/
inductive Processor.Demand (α : Type) where
  | receive (a : α)
  | flush (limit : Duration)
  | shutdown (limit : Duration)

/-- Something that a processor goes through: what it was asked for, and how that ended. -/
inductive Processor.Meeting (α : Type) where
  | received (a : α) (outcome : Except Panic Unit)
  | flushed (limit : Duration) (answer : Processor.Answer)
  | shut (limit : Duration) (answer : Processor.Answer)

/-- The state of a processor, with what it went through. -/
structure Processor.Recorded (α σ : Type) where
  state : σ
  log : List (Processor.Meeting α)

namespace Processor

namespace Demand

/-- The limit of a request. -/
def limit? : Demand α → Option Duration
  | .receive _ => none
  | .flush limit | .shutdown limit => some limit

/-- The same when a part of the limit is gone. -/
def behind (elapsed : Duration) : Demand α → Demand α
  | .receive a => .receive a
  | .flush limit => .flush (limit.saturatingSub elapsed)
  | .shutdown limit => .shutdown (limit.saturatingSub elapsed)

/-- The same, whatever the limit is. -/
def untimed : Demand α → Demand α
  | .receive a => .receive a
  | .flush _ => .flush .zero
  | .shutdown _ => .shutdown .zero

@[simp] theorem untimed_behind (elapsed : Duration) (d : Demand α) :
    (d.behind elapsed).untimed = d.untimed := by
  cases d <;> simp [behind, untimed]

@[simp] theorem limit?_behind (elapsed : Duration) (d : Demand α) :
    (d.behind elapsed).limit? = d.limit?.map (·.saturatingSub elapsed) := by
  cases d <;> simp [behind, limit?]

end Demand

namespace Meeting

/-- What the processor was asked for. -/
def demand : Meeting α → Demand α
  | .received a _ => .receive a
  | .flushed limit _ => .flush limit
  | .shut limit _ => .shutdown limit

/-- How a record ended that was handed over, if one was. -/
def outcomeOf : Option (Meeting α) → Except Panic Unit
  | some (.received _ outcome) => outcome
  | _ => .ok ()

/-- The answer to a request. Without one there is success at once. -/
def answerOf : Option (Meeting α) → Answer
  | some (.flushed _ answer) | some (.shut _ answer) => answer
  | _ => ⟨.ok (), .zero⟩

end Meeting

/-- Puts on record what a processor goes through. -/
def recorded (P : Processor α σ) : Processor α (Recorded α σ) where
  receive := fun a s =>
    let (outcome, t) := P.receive a s.state
    (outcome, ⟨t, s.log ++ [.received a outcome]⟩)
  flush := fun limit s =>
    let (answer, t) := P.flush limit s.state
    (answer, ⟨t, s.log ++ [.flushed limit answer]⟩)
  shutdown := fun limit s =>
    let (answer, t) := P.shutdown limit s.state
    (answer, ⟨t, s.log ++ [.shut limit answer]⟩)

/-! ## A processor on its own -/

/-- A processor meets a demand. -/
def meet (P : Processor α σ) (s : σ) : Demand α → Meeting α × σ
  | .receive a =>
    let (outcome, t) := P.receive a s
    (.received a outcome, t)
  | .flush limit =>
    let (answer, t) := P.flush limit s
    (.flushed limit answer, t)
  | .shutdown limit =>
    let (answer, t) := P.shutdown limit s
    (.shut limit answer, t)

/-- What becomes of a demand, if there is one, at a processor, if there is one. -/
def meet? (P : Processor α σ) (d : Option (Demand α)) (s : Option σ) :
    Option (Meeting α) × Option σ :=
  match d, s with
  | some d, some s =>
    let (meeting, t) := P.meet s d
    (some meeting, some t)
  | _, s => (none, s)

/-- A processor, if there is one, behind demands that it met one after the other. -/
def meetAll (P : Processor α σ) (s : Option σ) (demands : List (Demand α)) : Option σ :=
  demands.foldl (fun s d => (P.meet? (some d) s).2) s

section

variable (P : Processor α σ)

@[simp] theorem demand_meet (s : σ) (d : Demand α) : (P.meet s d).1.demand = d := by
  cases d <;> simp [meet, Meeting.demand]

@[simp] theorem meet?_none (s : Option σ) : P.meet? none s = (none, s) := by
  simp [meet?]

/-- A processor that is there goes through what it is asked for. -/
theorem demand_meet? (d : Option (Demand α)) {s : Option σ} (present : s.isSome) :
    (P.meet? d s).1.map (·.demand) = d := by
  obtain ⟨t, rfl⟩ := Option.isSome_iff_exists.1 present
  cases d <;> simp [meet?]

/-- It stays there. -/
@[simp] theorem isSome_meet? (d : Option (Demand α)) (s : Option σ) :
    (P.meet? d s).2.isSome = s.isSome := by
  cases d <;> cases s <;> simp [meet?]

theorem meetAll_append (s : Option σ) (first second : List (Demand α)) :
    P.meetAll s (first ++ second) = P.meetAll (P.meetAll s first) second := by
  simp [meetAll]

/-- One demand at most. -/
theorem meetAll_toList (s : Option σ) (d : Option (Demand α)) :
    P.meetAll s d.toList = (P.meet? d s).2 := by
  cases d <;> simp [meetAll]

theorem meet_recorded (s : Recorded α σ) (d : Demand α) :
    P.recorded.meet s d
      = ((P.meet s.state d).1, ⟨(P.meet s.state d).2, s.log ++ [(P.meet s.state d).1]⟩) := by
  cases d <;> simp [meet, recorded]

/-- A processor on record goes through the same, and has it on record. -/
theorem meet?_recorded (d : Option (Demand α)) (s : Option (Recorded α σ)) :
    (P.recorded.meet? d s).1 = (P.meet? d (s.map (·.state))).1 ∧
      (P.recorded.meet? d s).2.map (·.state) = (P.meet? d (s.map (·.state))).2 ∧
      (P.recorded.meet? d s).2.map (·.log)
        = s.map fun r => r.log ++ (P.meet? d (s.map (·.state))).1.toList := by
  cases d <;> cases s <;> simp [meet?, meet_recorded]

end

end Processor

namespace Pipeline

open Processor

/-! ## Calls on a pipeline -/

/-- A call on a pipeline. -/
inductive Call where
  | recordSpan (span : Span)
  | emitLog (entry : LogEntry)
  | flush (limit : Duration)
  | shutdown (limit : Duration)

/-- What a call comes back with: a record can bring back a panic, and a request has an answer. -/
inductive Reply where
  | handed (outcome : Except Panic Unit)
  | answered (result : ProcessorResult)

/-- Runs a call. -/
def perform (p : Pipeline σ τ) (s : State σ τ) : Call → Reply × State σ τ
  | .recordSpan span =>
    let (outcome, t) := p.recordSpan span s
    (.handed outcome, t)
  | .emitLog entry =>
    let (outcome, t) := p.emitLog entry s
    (.handed outcome, t)
  | .flush limit =>
    let (result, t) := p.flush limit s
    (.answered result, t)
  | .shutdown limit =>
    let (result, t) := p.shutdown limit s
    (.answered result, t)

/-- Runs calls one after the other. -/
def performAll (p : Pipeline σ τ) : State σ τ → List Call → List Reply × State σ τ
  | s, [] => ([], s)
  | s, call :: rest =>
    let (reply, t) := p.perform s call
    let (replies, u) := p.performAll t rest
    (reply :: replies, u)

/-- Puts on record what both processors go through. -/
def recorded (p : Pipeline σ τ) : Pipeline (Recorded Span σ) (Recorded LogEntry τ) :=
  ⟨p.spanProcessor.recorded, p.logProcessor.recorded⟩

/-- The states without the records. -/
def State.forget (s : State (Recorded Span σ) (Recorded LogEntry τ)) : State σ τ :=
  ⟨s.spans.map (·.state), s.logs.map (·.state)⟩

/-! ## What a call asks of either side -/

/-- The limit of a request. -/
def Call.limit? : Call → Option Duration
  | .recordSpan _ | .emitLog _ => none
  | .flush limit | .shutdown limit => some limit

/-- What a call asks of the span side. -/
def Call.forSpans : Call → Option (Demand Span)
  | .recordSpan span => some (.receive span)
  | .emitLog _ => none
  | .flush limit => some (.flush limit)
  | .shutdown limit => some (.shutdown limit)

/-- What a call asks of the log side, under the whole limit. -/
def Call.forLogs : Call → Option (Demand LogEntry)
  | .recordSpan _ => none
  | .emitLog entry => some (.receive entry)
  | .flush limit => some (.flush limit)
  | .shutdown limit => some (.shutdown limit)

/-- A call, with what either processor went through. One that is not there, or was not asked, went
through nothing. -/
structure Turn where
  call : Call
  spans : Option (Meeting Span)
  logs : Option (Meeting LogEntry)

namespace Turn

/-- The time that the span side took. -/
def elapsed (t : Turn) : Duration :=
  (Meeting.answerOf t.spans).took

/-- What is asked of the log side, under what is left of the limit. -/
def leftForLogs (t : Turn) : Option (Demand LogEntry) :=
  t.call.forLogs.map (·.behind t.elapsed)

theorem untimed_leftForLogs (t : Turn) :
    t.leftForLogs.map (·.untimed) = t.call.forLogs.map (·.untimed) := by
  simp [leftForLogs, Function.comp_def]

/-- What the call comes back with: to a request, the first failure. -/
def reply (t : Turn) : Reply :=
  match t.call with
  | .recordSpan _ => .handed (Meeting.outcomeOf t.spans)
  | .emitLog _ => .handed (Meeting.outcomeOf t.logs)
  | .flush _ | .shutdown _ =>
    .answered (firstFailure (Meeting.answerOf t.spans).result (Meeting.answerOf t.logs).result)

end Turn

/-- A call told of either side apart. -/
def turn (p : Pipeline σ τ) (s : State σ τ) (call : Call) : Turn × State σ τ :=
  let (spanMeeting, spans) := p.spanProcessor.meet? call.forSpans s.spans
  let elapsed := (Meeting.answerOf spanMeeting).took
  let (logMeeting, logs) := p.logProcessor.meet? (call.forLogs.map (·.behind elapsed)) s.logs
  (⟨call, spanMeeting, logMeeting⟩, ⟨spans, logs⟩)

/-- Calls told of either side apart. -/
def turns (p : Pipeline σ τ) : State σ τ → List Call → List Turn
  | _, [] => []
  | s, call :: rest => (p.turn s call).1 :: p.turns (p.turn s call).2 rest

section

variable (p : Pipeline σ τ)

/-- A call does what is told of it. -/
theorem perform_eq (s : State σ τ) (call : Call) :
    p.perform s call = ((p.turn s call).1.reply, (p.turn s call).2) := by
  obtain ⟨spans, logs⟩ := s
  cases call <;> cases spans <;> cases logs <;> rfl

theorem performAll_cons (s : State σ τ) (call : Call) (rest : List Call) :
    p.performAll s (call :: rest)
      = ((p.turn s call).1.reply :: (p.performAll (p.turn s call).2 rest).1,
          (p.performAll (p.turn s call).2 rest).2) := by
  simp [performAll, perform_eq]

/-! ## One call -/

/-- The span side goes through what the call asks of it, whatever comes of it. -/
theorem turn_spans (s : State σ τ) (call : Call) (present : s.spans.isSome) :
    (p.turn s call).1.spans.map (·.demand) = call.forSpans := by
  simp [turn, demand_meet? _ _ present]

/-- The log side goes through what the call asks of it, under what is left of the limit. -/
theorem turn_logs (s : State σ τ) (call : Call) (present : s.logs.isSome) :
    (p.turn s call).1.logs.map (·.demand) = (p.turn s call).1.leftForLogs := by
  simp [turn, demand_meet? _ _ present, Turn.leftForLogs, Turn.elapsed]

/-- A request asks the log side for something that has its limit. -/
theorem Call.forLogs_of_request {call : Call} {limit : Duration}
    (request : call.limit? = some limit) :
    ∃ d, call.forLogs = some d ∧ d.limit? = some limit := by
  cases call <;> simp_all [limit?, forLogs, Demand.limit?]

/-- A request reaches the log side whatever the span side did, even if nothing is left of the
limit. -/
theorem turn_limit {s : State σ τ} {call : Call} (present : s.logs.isSome) {limit : Duration}
    (request : call.limit? = some limit) :
    ∃ meeting rest, (p.turn s call).1.logs = some meeting ∧
      meeting.demand.limit? = some rest ∧
      (rest.nanos : Int) = max 0 ((limit.nanos : Int) - (p.turn s call).1.elapsed.nanos) := by
  obtain ⟨d, asked, limited⟩ := Call.forLogs_of_request request
  have reached := p.turn_logs s call present
  have left : (p.turn s call).1.leftForLogs = some (d.behind (p.turn s call).1.elapsed) := by
    simp [Turn.leftForLogs, turn, asked]
  rw [left] at reached
  obtain ⟨meeting, here, demand⟩ := Option.map_eq_some_iff.1 reached
  refine ⟨meeting, limit.saturatingSub (p.turn s call).1.elapsed, here, ?_,
    nanos_saturatingSub ..⟩
  rw [demand, Demand.limit?_behind, limited]
  simp

/-- To a request, the first failure is the answer. -/
theorem Turn.reply_of_request {t : Turn} (request : t.call.limit?.isSome) :
    (∀ e, (Meeting.answerOf t.spans).result = .error e → t.reply = .answered (.error e)) ∧
      ((Meeting.answerOf t.spans).result = .ok () →
        t.reply = .answered (Meeting.answerOf t.logs).result) := by
  have first : t.reply = .answered
      (firstFailure (Meeting.answerOf t.spans).result (Meeting.answerOf t.logs).result) := by
    obtain ⟨call, spans, logs⟩ := t
    cases call <;> simp_all [Call.limit?, reply]
  rw [first]
  constructor
  · intro e failed
    simp [failed, firstFailure]
  · intro succeeded
    simp [succeeded, firstFailure]

/-- Either side is as its processor would be that met its demand alone. -/
theorem turn_state (s : State σ τ) (call : Call) :
    (p.turn s call).2.spans = p.spanProcessor.meetAll s.spans call.forSpans.toList ∧
      (p.turn s call).2.logs
        = p.logProcessor.meetAll s.logs (p.turn s call).1.leftForLogs.toList := by
  simp [turn, meetAll_toList, Turn.leftForLogs, Turn.elapsed]

/-- Recording changes nothing, and puts down what the two sides go through. -/
theorem turn_recorded (s : State (Recorded Span σ) (Recorded LogEntry τ)) (call : Call) :
    (p.recorded.turn s call).1 = (p.turn s.forget call).1 ∧
      (p.recorded.turn s call).2.forget = (p.turn s.forget call).2 ∧
      (p.recorded.turn s call).2.spans.map (·.log)
        = s.spans.map (fun r => r.log ++ (p.turn s.forget call).1.spans.toList) ∧
      (p.recorded.turn s call).2.logs.map (·.log)
        = s.logs.map fun r => r.log ++ (p.turn s.forget call).1.logs.toList := by
  obtain ⟨spanMeeting, spanState, spanLog⟩ :=
    p.spanProcessor.meet?_recorded call.forSpans s.spans
  obtain ⟨logMeeting, logState, logLog⟩ := p.logProcessor.meet?_recorded
    (call.forLogs.map (·.behind (p.turn s.forget call).1.elapsed)) s.logs
  simp only [turn, Turn.elapsed, State.forget] at logMeeting logState logLog
  simp only [turn, recorded, State.forget, spanMeeting, spanState, spanLog, logMeeting, logState,
    logLog]
  simp

/-! ## Any number of calls -/

/-- Recording changes nothing in a run. -/
theorem performAll_recorded (s : State (Recorded Span σ) (Recorded LogEntry τ))
    (calls : List Call) :
    p.performAll s.forget calls
      = ((p.recorded.performAll s calls).1, (p.recorded.performAll s calls).2.forget) := by
  induction calls generalizing s with
  | nil => simp [performAll]
  | cons call rest ih =>
      obtain ⟨same, state, -⟩ := p.turn_recorded s call
      simp only [performAll_cons, same, ← state, ih]

/-- Behind a run the span side is as its processor would be alone. -/
theorem performAll_spans (s : State σ τ) (calls : List Call) :
    (p.performAll s calls).2.spans
      = p.spanProcessor.meetAll s.spans (calls.filterMap Call.forSpans) := by
  induction calls generalizing s with
  | nil => simp [performAll, meetAll]
  | cons call rest ih =>
      have alone := (p.turn_state s call).1
      rw [performAll_cons, ih, alone, ← meetAll_append]
      cases asked : call.forSpans <;> simp [asked]

/-- Behind a run the log side is as its processor would be alone, under what is left of the
limits. -/
theorem performAll_logs (s : State σ τ) (calls : List Call) :
    (p.performAll s calls).2.logs
      = p.logProcessor.meetAll s.logs ((p.turns s calls).filterMap Turn.leftForLogs) := by
  induction calls generalizing s with
  | nil => simp [performAll, turns, meetAll]
  | cons call rest ih =>
      have alone := (p.turn_state s call).2
      rw [performAll_cons, ih, alone, ← meetAll_append, turns]
      cases asked : (p.turn s call).1.leftForLogs <;> simp [asked]

theorem turns_recorded (s : State (Recorded Span σ) (Recorded LogEntry τ)) (calls : List Call) :
    p.recorded.turns s calls = p.turns s.forget calls := by
  induction calls generalizing s with
  | nil => simp [turns]
  | cons call rest ih =>
      obtain ⟨same, state, -⟩ := p.turn_recorded s call
      simp only [turns, same, ← state, ih]

end

/-- What one element brings in comes first. -/
theorem filterMap_cons_toList {β γ : Type} (f : β → Option γ) (b : β) (l : List β) :
    (b :: l).filterMap f = (f b).toList ++ l.filterMap f := by
  cases here : f b <;> simp [here]

/-- What the turns of a run from `s` to `t` say about it. -/
structure Parted (s t : State (Recorded Span σ) (Recorded LogEntry τ)) (calls : List Call)
    (replies : List Reply) (turns : List Turn) : Prop where
  calls_eq : turns.map (·.call) = calls
  replies_eq : turns.map (·.reply) = replies
  /-- The processors that are there go through what the turns say, and nothing else. -/
  spanLog : t.spans.map (·.log) = s.spans.map fun r => r.log ++ turns.filterMap (·.spans)
  logLog : t.logs.map (·.log) = s.logs.map fun r => r.log ++ turns.filterMap (·.logs)
  /-- The span processor is asked for each span and for each request, in order. -/
  spanDemands : s.spans.isSome →
    (turns.filterMap (·.spans)).map (·.demand) = calls.filterMap Call.forSpans
  /-- The log processor is asked for each entry and for each request, in order. -/
  logDemands : s.logs.isSome → (turns.filterMap (·.logs)).map (·.demand.untimed)
    = (calls.filterMap Call.forLogs).map (·.untimed)
  /-- Its limit is what the span side left of the whole one, and never less than nothing. -/
  limits : s.logs.isSome → ∀ turn ∈ turns, ∀ limit, turn.call.limit? = some limit →
    ∃ meeting rest, turn.logs = some meeting ∧ meeting.demand.limit? = some rest ∧
      (rest.nanos : Int) = max 0 ((limit.nanos : Int) - turn.elapsed.nanos)
  /-- To a request, the failure of the span side is the answer, and the answer of the log side if
  there is none. -/
  answers : ∀ turn ∈ turns, turn.call.limit?.isSome →
    (∀ e, (Meeting.answerOf turn.spans).result = .error e →
      turn.reply = .answered (.error e)) ∧
    ((Meeting.answerOf turn.spans).result = .ok () →
      turn.reply = .answered (Meeting.answerOf turn.logs).result)

namespace Parted

theorem nil (s : State (Recorded Span σ) (Recorded LogEntry τ)) : Parted s s [] [] [] where
  calls_eq := by simp
  replies_eq := by simp
  spanLog := by simp
  logLog := by simp
  spanDemands := by simp
  logDemands := by simp
  limits := by simp
  answers := by simp

/-- One call, and a run behind it. -/
theorem cons {p : Pipeline σ τ} {s u : State (Recorded Span σ) (Recorded LogEntry τ)} {call : Call}
    {rest : List Call} {replies : List Reply} {turns : List Turn}
    (later : Parted (p.recorded.turn s call).2 u rest replies turns) :
    Parted s u (call :: rest) ((p.turn s.forget call).1.reply :: replies)
      ((p.turn s.forget call).1 :: turns) := by
  obtain ⟨-, -, spanLog, logLog⟩ := p.turn_recorded s call
  have spansStay : (p.recorded.turn s call).2.spans.isSome = s.spans.isSome := by
    simp [turn]
  have logsStay : (p.recorded.turn s call).2.logs.isSome = s.logs.isSome := by
    simp [turn]
  constructor
  case calls_eq => simp [turn, later.calls_eq]
  case replies_eq => simp [later.replies_eq]
  case spanLog =>
    have whole := congrArg (Option.map (· ++ turns.filterMap (·.spans))) spanLog
    rw [Option.map_map, Option.map_map] at whole
    rw [later.spanLog, filterMap_cons_toList]
    simpa [Function.comp_def] using whole
  case logLog =>
    have whole := congrArg (Option.map (· ++ turns.filterMap (·.logs))) logLog
    rw [Option.map_map, Option.map_map] at whole
    rw [later.logLog, filterMap_cons_toList]
    simpa [Function.comp_def] using whole
  case spanDemands =>
    intro present
    have asked := p.turn_spans s.forget call (by simpa [State.forget] using present)
    have more := later.spanDemands (by rw [spansStay, present])
    rw [filterMap_cons_toList, filterMap_cons_toList, List.map_append, more, ← asked,
      Option.toList_map]
  case logDemands =>
    intro present
    have asked := p.turn_logs s.forget call (by simpa [State.forget] using present)
    have more := later.logDemands (by rw [logsStay, present])
    have untimed := congrArg (Option.map (·.untimed)) asked
    rw [Turn.untimed_leftForLogs, Option.map_map] at untimed
    rw [filterMap_cons_toList, filterMap_cons_toList, List.map_append, List.map_append, more,
      ← Option.toList_map, ← Option.toList_map]
    exact congrArg (·.toList ++ _) untimed
  case limits =>
    intro present turn inside limit request
    rcases List.mem_cons.1 inside with rfl | behind
    · exact p.turn_limit (by simpa [State.forget] using present) request
    · exact later.limits (by rw [logsStay, present]) turn behind limit request
  case answers =>
    intro turn inside request
    rcases List.mem_cons.1 inside with rfl | behind
    · exact Turn.reply_of_request request
    · exact later.answers turn behind request

end Parted

theorem parted (p : Pipeline σ τ) (s : State (Recorded Span σ) (Recorded LogEntry τ))
    (calls : List Call) :
    Parted s (p.recorded.performAll s calls).2 calls (p.recorded.performAll s calls).1
      (p.turns s.forget calls) := by
  induction calls generalizing s with
  | nil => exact .nil s
  | cons call rest ih =>
      obtain ⟨same, state, -⟩ := p.turn_recorded s call
      have later := (ih (p.recorded.turn s call).2).cons
      rw [state] at later
      simpa only [performAll_cons, turns, same] using later

/-! ## Two runs -/

section

variable {σ' τ' : Type} {calls calls' : List Call}

/-- What the span processor goes through does not depend on the log side. -/
theorem spans_alike {p : Pipeline σ τ} {q : Pipeline σ τ'} {s : State σ τ} {s' : State σ τ'}
    (processor : q.spanProcessor = p.spanProcessor) (start : s'.spans = s.spans)
    (asked : calls'.filterMap Call.forSpans = calls.filterMap Call.forSpans) :
    (q.performAll s' calls').2.spans = (p.performAll s calls).2.spans := by
  rw [performAll_spans, performAll_spans, processor, start, asked]

/-- What the log processor goes through depends on the span side only by what is left of the
limits. -/
theorem logs_alike {p : Pipeline σ τ} {q : Pipeline σ' τ} {s : State σ τ} {s' : State σ' τ}
    (processor : q.logProcessor = p.logProcessor) (start : s'.logs = s.logs)
    (left : (q.turns s' calls').filterMap Turn.leftForLogs
      = (p.turns s calls).filterMap Turn.leftForLogs) :
    (q.performAll s' calls').2.logs = (p.performAll s calls).2.logs := by
  rw [performAll_logs, performAll_logs, processor, start, left]

/-- Limits apart, it does not depend on the span side at all. -/
theorem logs_untimed {p : Pipeline σ τ} {q : Pipeline σ' τ}
    {s : State (Recorded Span σ) (Recorded LogEntry τ)}
    {s' : State (Recorded Span σ') (Recorded LogEntry τ)} (start : s'.logs = s.logs)
    (asked : calls'.filterMap Call.forLogs = calls.filterMap Call.forLogs) :
    (q.recorded.performAll s' calls').2.logs.map (·.log.map (·.demand.untimed))
      = (p.recorded.performAll s calls).2.logs.map (·.log.map (·.demand.untimed)) := by
  have untimed {υ : Type} (q : Pipeline υ τ) (s : State (Recorded Span υ) (Recorded LogEntry τ))
      (calls : List Call) :
      (q.recorded.performAll s calls).2.logs.map (·.log.map (·.demand.untimed))
        = s.logs.map fun r => r.log.map (·.demand.untimed) ++
            (calls.filterMap Call.forLogs).map (·.untimed) := by
    have parted := q.parted s calls
    have behind := congrArg (Option.map (List.map (·.demand.untimed))) parted.logLog
    rw [Option.map_map, Option.map_map] at behind
    refine behind.trans (Option.map_congr fun r here => ?_)
    rw [Function.comp_apply, List.map_append, parted.logDemands (by simp [here])]
  rw [untimed, untimed, start, asked]

end

/-- **The two sides of a pipeline are kept apart.** Let the processors be any machines, which may
fail or take any time for an answer, and either of them may be missing; a record of what they go
through changes nothing. Over any calls, the span processor is asked for exactly the spans and once
for each request to flush or to shut down, in order, and the log processor for exactly the entries
and once for each of these requests, also if the span side has failed or used up the limit. The
limit of the log side is the given one less the time that the span side took, and never less than
nothing; a span side that is missing takes no time. To a request, the failure of the span side is
the answer if there is one, and else the answer of the log side. Another processor or other records
on the log side make no difference to the span processor. Another processor or other records on the
span side make no difference to the log processor but for its limits, and none at all if these are
the same. -/
theorem signals_are_isolated (p : Pipeline σ τ)
    (s : State (Recorded Span σ) (Recorded LogEntry τ)) (calls : List Call) :
    p.performAll s.forget calls
        = ((p.recorded.performAll s calls).1, (p.recorded.performAll s calls).2.forget) ∧
    Parted s (p.recorded.performAll s calls).2 calls (p.recorded.performAll s calls).1
      (p.turns s.forget calls) ∧
    (∀ {τ' : Type} (q : Pipeline σ τ') (s' : State (Recorded Span σ) (Recorded LogEntry τ'))
      (calls' : List Call), q.spanProcessor = p.spanProcessor → s'.spans = s.spans →
      calls'.filterMap Call.forSpans = calls.filterMap Call.forSpans →
      (q.recorded.performAll s' calls').2.spans = (p.recorded.performAll s calls).2.spans) ∧
    ∀ {σ' : Type} (q : Pipeline σ' τ) (s' : State (Recorded Span σ') (Recorded LogEntry τ))
      (calls' : List Call), q.logProcessor = p.logProcessor → s'.logs = s.logs →
      calls'.filterMap Call.forLogs = calls.filterMap Call.forLogs →
      (q.recorded.performAll s' calls').2.logs.map (·.log.map (·.demand.untimed))
          = (p.recorded.performAll s calls).2.logs.map (·.log.map (·.demand.untimed)) ∧
        ((q.turns s'.forget calls').filterMap Turn.leftForLogs
            = (p.turns s.forget calls).filterMap Turn.leftForLogs →
          (q.recorded.performAll s' calls').2.logs = (p.recorded.performAll s calls).2.logs) := by
  refine ⟨p.performAll_recorded s calls, p.parted s calls, ?_, ?_⟩
  · intro τ' q s' calls' processor start asked
    exact spans_alike (congrArg Processor.recorded processor) start asked
  · intro σ' q s' calls' processor start asked
    refine ⟨logs_untimed start asked, fun left => ?_⟩
    rw [← turns_recorded, ← turns_recorded] at left
    exact logs_alike (congrArg Processor.recorded processor) start left

/-- A span processor that answers no request within its limit. -/
def unresponsive : Processor Span Unit where
  receive := fun _ s => (.ok (), s)
  flush := fun limit s => (⟨.error (.timeout limit), limit⟩, s)
  shutdown := fun limit s => (⟨.error (.timeout limit), limit⟩, s)

/-- A log processor that answers every request at once. -/
def prompt : Processor LogEntry Unit where
  receive := fun _ s => (.ok (), s)
  flush := fun _ s => (⟨.ok (), .zero⟩, s)
  shutdown := fun _ s => (⟨.ok (), .zero⟩, s)

/-- The span side uses up the limit and fails; without a span side the log side has all of it. -/
theorem signals_are_isolated_of_timeout :
    ∃ p : Pipeline Unit Unit, p = ⟨unresponsive, prompt⟩ ∧
    ∃ s : State (Recorded Span Unit) (Recorded LogEntry Unit),
      s = ⟨some ⟨(), []⟩, some ⟨(), []⟩⟩ ∧
    ∃ calls, calls = [.emitLog (.make .info "late" 7), .flush (.ofSecs 5), .shutdown (.ofSecs 1)] ∧
      (∃ t, Parted s t calls [.handed (.ok ()), .answered (.error (.timeout (.ofSecs 5))),
        .answered (.error (.timeout (.ofSecs 1)))] (p.turns s.forget calls)) ∧
      s.logs.isSome ∧ (p.turns s.forget calls).filterMap Turn.leftForLogs
        = [.receive (.make .info "late" 7), .flush .zero, .shutdown .zero] ∧
      (p.recorded.performAll ⟨none, s.logs⟩ calls).2.logs.map (·.log.map (·.demand.untimed))
        = (p.recorded.performAll s calls).2.logs.map (·.log.map (·.demand.untimed)) := by
  obtain ⟨-, parted, -, logs⟩ := signals_are_isolated ⟨unresponsive, prompt⟩
    ⟨some ⟨(), []⟩, some ⟨(), []⟩⟩
    [.emitLog (.make .info "late" 7), .flush (.ofSecs 5), .shutdown (.ofSecs 1)]
  refine ⟨_, rfl, _, rfl, _, rfl, ⟨_, parted⟩, rfl, rfl, ?_⟩
  exact (logs ⟨unresponsive, prompt⟩ ⟨none, some ⟨(), []⟩⟩ _ rfl rfl rfl).1

end Pipeline

end Telemetry
