import Foundry.Hermes.Stream
import Foundry.Lib.Log

/-!
# Well formed traces

What a consumer of a Hermes stream relies on, read off the events alone, and what one
accepted server-sent event does to the fields of the stream that carry it.
-/

set_option autoImplicit false

namespace Foundry

open Raise

/-! ## The law -/

structure TraceState where
  activities : List ActivityRef := []
  legacyActivities : Nat := 0
  approval : Option String := none
  completed : Bool := false
deriving DecidableEq, Repr

namespace TraceState

def next (state : TraceState) : HermesPayload → TraceState
  | .messageDelta _ => state
  | .activityStarted (some activity) _ =>
    { state with activities := activity :: state.activities }
  | .activityStarted none _ => { state with legacyActivities := state.legacyActivities + 1 }
  | .activityCompleted (some activity) _ _ _ =>
    { state with activities := state.activities.filter fun active => active.id ≠ activity.id }
  | .activityCompleted none _ _ _ =>
    { state with legacyActivities := state.legacyActivities - 1 }
  | .approvalRequest approvalId _ _ _ _ => { state with approval := some approvalId }
  | .approvalResponded _ _ => { state with approval := none }
  | .executionCompleted _ _ => { state with completed := true }

/-- An activity of a legacy image has no id, so only the number of open ones counts. -/
def Admits (state : TraceState) : HermesPayload → Prop
  | .messageDelta _ => state.completed = false
  | .activityStarted (some activity) _ =>
    state.completed = false ∧ ∀ active ∈ state.activities, active.id ≠ activity.id
  | .activityStarted none _ => state.completed = false
  | .activityCompleted (some activity) _ _ _ =>
    state.completed = false ∧
      state.activities.filter (fun active => active.id = activity.id) = [activity]
  | .activityCompleted none _ _ _ => state.completed = false ∧ 0 < state.legacyActivities
  | .approvalRequest _ _ _ _ _ => state.completed = false ∧ state.approval = none
  | .approvalResponded approvalId _ =>
    state.completed = false ∧ state.approval = some approvalId
  | .executionCompleted _ _ =>
    state = { activities := [], legacyActivities := 0, approval := none, completed := false }

end TraceState

def traceState (events : List HermesEvent) : TraceState :=
  events.foldl (fun state event => state.next event.payload) {}

/-- Every event is admitted by what the events before it have left open. -/
def WellFormedTrace (events : List HermesEvent) : Prop :=
  Log.Justified (fun before event => (traceState before).Admits event.payload) events

def startedActivities (events : List HermesEvent) : List String :=
  events.filterMap fun event =>
    match event.payload with
    | .activityStarted (some activity) _ => some activity.id
    | _ => none

theorem traceState_snoc (events : List HermesEvent) (event : HermesEvent) :
    traceState (events ++ [event]) = (traceState events).next event.payload := by
  simp [traceState]

theorem startedActivities_append (before after : List HermesEvent) :
    startedActivities (before ++ after) = startedActivities before ++ startedActivities after :=
  List.filterMap_append

/-! ## One step of a stream -/

/-- The fields of a stream its events depend on: neither the clocks nor the counters of
the framing. -/
structure StreamCore where
  profileId : String
  sessionId : String
  normalizedCount : Nat
  runId : Option String
  state : RunState
  activeActivityCalls : Table String ActivityRef
  legacyActivityCounts : Table String Nat
  seenActivityCalls : List String
  pendingApprovalId : Option String
  terminalEvent : Option HermesEvent
  done : Bool

def HermesStream.core (stream : HermesStream) : StreamCore where
  profileId := stream.profileId
  sessionId := stream.sessionId
  normalizedCount := stream.normalizedCount
  runId := stream.runId
  state := stream.state
  activeActivityCalls := stream.activeActivityCalls
  legacyActivityCounts := stream.legacyActivityCounts
  seenActivityCalls := stream.seenActivityCalls
  pendingApprovalId := stream.pendingApprovalId
  terminalEvent := stream.terminalEvent
  done := stream.done

namespace StreamCore

def emit (core : StreamCore) (session : String) (payload : HermesPayload) : HermesEvent where
  profileId := core.profileId
  sessionId := session
  runId := core.runId.getD ""
  sequence := core.normalizedCount + 1
  payload := payload

def counted (core : StreamCore) : StreamCore :=
  { core with normalizedCount := core.normalizedCount + 1 }

end StreamCore

def RawEvent.isDone (raw : RawEvent) : Bool :=
  raw.data = "[DONE]" || raw.name = "done"

/-- What one accepted event does: every case of `_normalize_event`. -/
inductive StreamStep (lib : PyLibrary) (raw : RawEvent) (core : StreamCore) :
    Option HermesEvent → StreamCore → Prop where
  | quiet : StreamStep lib raw core none core
  | runStarted (runId : String) (awaiting : core.state = .awaitingRun) (named : runId ≠ "") :
      StreamStep lib raw core none { core with runId := some runId, state := .running }
  | spoke (text : String) (running : core.state = .running) :
      StreamStep lib raw core (core.emit core.sessionId (.messageDelta text)) core.counted
  | activityStarted (call kind : String) (subject : Option String)
      (running : core.state = .running) (fresh : call ∉ core.seenActivityCalls)
      (apart : ∀ active ∈ core.activeActivityCalls.rows,
        active.2.id ≠ activityId lib (core.runId.getD "") call) :
      StreamStep lib raw core
        (core.emit core.sessionId
          (.activityStarted (some ⟨activityId lib (core.runId.getD "") call, kind⟩) subject))
        { core.counted with
          activeActivityCalls := core.activeActivityCalls.insert call
            ⟨activityId lib (core.runId.getD "") call, kind⟩
          seenActivityCalls := call :: core.seenActivityCalls }
  | activityCompleted (call : String) (activity : ActivityRef) (failed : Bool)
      (duration : Option Nat) (subject : Option String) (running : core.state = .running)
      (active : core.activeActivityCalls.lookup call = some activity) :
      StreamStep lib raw core
        (core.emit core.sessionId (.activityCompleted (some activity) failed duration subject))
        { core.counted with activeActivityCalls := core.activeActivityCalls.erase call }
  | legacyStarted (tool : String) (running : core.state = .running) :
      StreamStep lib raw core (core.emit core.sessionId (.activityStarted none none))
        { core.counted with
          legacyActivityCounts := core.legacyActivityCounts.insert tool
            ((core.legacyActivityCounts.lookup tool).getD 0 + 1) }
  | legacyCompleted (tool : String) (running : core.state = .running)
      (started : 0 < (core.legacyActivityCounts.lookup tool).getD 0) :
      StreamStep lib raw core
        (core.emit core.sessionId (.activityCompleted none false none none))
        { core.counted with
          legacyActivityCounts :=
            if (core.legacyActivityCounts.lookup tool).getD 0 = 1 then
              core.legacyActivityCounts.erase tool
            else core.legacyActivityCounts.insert tool
              ((core.legacyActivityCounts.lookup tool).getD 0 - 1) }
  | approvalRequested (approvalId actionKind actionLabel actionPreview expiresAt : String)
      (running : core.state = .running) (free : core.pendingApprovalId = none) :
      StreamStep lib raw core
        (core.emit core.sessionId
          (.approvalRequest approvalId actionKind actionLabel actionPreview expiresAt))
        { core.counted with pendingApprovalId := some approvalId }
  | approvalAnswered (approvalId outcome : String) (running : core.state = .running)
      (pending : core.pendingApprovalId = some approvalId) :
      StreamStep lib raw core
        (core.emit core.sessionId (.approvalResponded approvalId outcome))
        { core.counted with pendingApprovalId := none }
  | runCompleted (session : String) (report : Option RoutineReport)
      (named : raw.name = "run.completed") (running : core.state = .running)
      (noActivity : core.activeActivityCalls.rows = [])
      (noLegacy : core.legacyActivityCounts.rows = [])
      (noApproval : core.pendingApprovalId = none) :
      StreamStep lib raw core none
        { core.counted with
          state := .runCompleted
          terminalEvent := some
            (core.emit session (.executionCompleted (core.runId.getD "") report)) }
  | finished (terminal : HermesEvent) (marker : raw.isDone = true)
      (completed : core.state = .runCompleted) (kept : core.terminalEvent = some terminal) :
      StreamStep lib raw core (some terminal)
        { core with done := true, terminalEvent := none }

/-! ## Every accepted event is a step -/

section Handlers

variable {lib : PyLibrary} {raw : RawEvent} {clock : StreamClock} {payload : Json}
  {stream next : HermesStream} {event : Option HermesEvent}

theorem HermesStream.runStarted_steps (accepted : stream.runStarted payload = .ok (event, next)) :
    StreamStep lib raw stream.core event next.core := by
  simp only [HermesStream.runStarted, bind_eq_ok, require_eq_ok] at accepted
  obtain ⟨_, awaiting, accepted⟩ := accepted
  split at accepted
  · next runId _ =>
    simp only [bind_eq_ok, require_eq_ok, return_eq_ok] at accepted
    obtain ⟨_, named, _, _, rfl, rfl⟩ := accepted
    exact StreamStep.runStarted runId awaiting named
  · simp at accepted

theorem HermesStream.streamDone_steps (marker : raw.isDone = true)
    (accepted : stream.streamDone payload = .ok (event, next)) :
    StreamStep lib raw stream.core event next.core := by
  simp only [HermesStream.streamDone, bind_eq_ok, require_eq_ok, orRaise_eq_ok, return_eq_ok] at accepted
  obtain ⟨_, completed, terminal, kept, _, _, rfl, rfl⟩ := accepted
  exact StreamStep.finished terminal marker completed kept

section

variable (running : stream.state = .running)

include running

theorem HermesStream.approvalRequested_steps
    (accepted : stream.approvalRequested lib clock payload = .ok (event, next)) :
    StreamStep lib raw stream.core event next.core := by
  simp only [HermesStream.approvalRequested, HermesStream.yields, HermesStream.event,
    bind_eq_ok, require_eq_ok, return_eq_ok] at accepted
  obtain ⟨_, _, approvalId, _, _, ⟨_, free⟩, actionKind, _, actionLabel, _, actionPreview, _,
    ⟨expiresAt, _⟩, _, rfl, rfl⟩ := accepted
  exact StreamStep.approvalRequested approvalId actionKind actionLabel actionPreview expiresAt
    running free

theorem HermesStream.approvalAnswered_steps
    (accepted : stream.approvalAnswered clock payload = .ok (event, next)) :
    StreamStep lib raw stream.core event next.core := by
  simp only [HermesStream.approvalAnswered, HermesStream.yields, HermesStream.event,
    bind_eq_ok, require_eq_ok, return_eq_ok] at accepted
  obtain ⟨_, _, approvalId, _, _, pending, outcome, _, rfl, rfl⟩ := accepted
  exact StreamStep.approvalAnswered approvalId outcome running pending

theorem HermesStream.assistantCompleted_steps
    (accepted : stream.assistantCompleted payload = .ok (event, next)) :
    StreamStep lib raw stream.core event next.core := by
  simp only [HermesStream.assistantCompleted] at accepted
  split at accepted
  · simp only [HermesStream.yields, HermesStream.event, bind_eq_ok, require_eq_ok] at accepted
    obtain ⟨_, _, accepted⟩ := accepted
    split at accepted
    · cases accepted
      exact StreamStep.quiet
    · simp only [bind_eq_ok, return_eq_ok] at accepted
      obtain ⟨content, _, rfl, rfl⟩ := accepted
      exact StreamStep.spoke content running
  · simp at accepted

theorem HermesStream.assistantDelta_steps
    (accepted : stream.assistantDelta payload = .ok (event, next)) :
    StreamStep lib raw stream.core event next.core := by
  simp only [HermesStream.assistantDelta, HermesStream.yields, HermesStream.event, bind_eq_ok,
    return_eq_ok] at accepted
  obtain ⟨delta, _, rfl, rfl⟩ := accepted
  exact StreamStep.spoke delta running

theorem HermesStream.toolStarted_steps
    (accepted : stream.toolStarted lib payload = .ok (event, next)) :
    StreamStep lib raw stream.core event next.core := by
  simp only [HermesStream.toolStarted, HermesStream.yields, HermesStream.event,
    bind_eq_ok] at accepted
  obtain ⟨toolName, _, accepted⟩ := accepted
  split at accepted
  · simp only [bind_eq_ok, return_eq_ok] at accepted
    obtain ⟨_, _, rfl, rfl⟩ := accepted
    exact StreamStep.legacyStarted toolName running
  · simp only [bind_eq_ok, require_eq_ok, return_eq_ok] at accepted
    obtain ⟨call, _, _, fresh, _, apart, rfl, rfl⟩ := accepted
    exact StreamStep.activityStarted call (normalizeActivityKind toolName)
      (activitySubject lib (payload.get? "activity_subject")) running fresh apart

end

theorem HermesStream.legacyCompleted_steps (tool : String) (running : stream.state = .running)
    (accepted : stream.legacyCompleted payload tool = .ok (event, next)) :
    StreamStep lib raw stream.core event next.core := by
  simp only [HermesStream.legacyCompleted, HermesStream.yields, HermesStream.event, bind_eq_ok,
    require_eq_ok, return_eq_ok] at accepted
  obtain ⟨_, _, _, started, rfl, rfl⟩ := accepted
  exact StreamStep.legacyCompleted tool running started

theorem HermesStream.toolCompleted_steps (running : stream.state = .running)
    (accepted : stream.toolCompleted lib payload = .ok (event, next)) :
    StreamStep lib raw stream.core event next.core := by
  simp only [HermesStream.toolCompleted, bind_eq_ok] at accepted
  obtain ⟨toolName, _, accepted⟩ := accepted
  split at accepted
  · exact HermesStream.legacyCompleted_steps toolName running accepted
  · simp only [bind_eq_ok, orRaise_eq_ok] at accepted
    obtain ⟨call, _, activity, active, _, _, accepted⟩ := accepted
    split at accepted
    · next failed _ =>
      simp only [HermesStream.yields, HermesStream.event, bind_eq_ok, return_eq_ok] at accepted
      obtain ⟨duration, _, rfl, rfl⟩ := accepted
      exact StreamStep.activityCompleted call activity failed duration
        (activitySubject lib (payload.get? "activity_subject")) running active
    · simp at accepted

theorem HermesStream.runCompleted_steps (named : raw.name = "run.completed")
    (running : stream.state = .running)
    (accepted : stream.runCompleted lib payload = .ok (event, next)) :
    StreamStep lib raw stream.core event next.core := by
  simp only [HermesStream.runCompleted, bind_eq_ok, require_eq_ok] at accepted
  obtain ⟨_, ⟨noActivity, noLegacy, noApproval, _⟩, accepted⟩ := accepted
  split at accepted
  · next session _ _ =>
    simp only [HermesStream.event, bind_eq_ok] at accepted
    obtain ⟨_, _, _, _, accepted⟩ := accepted
    split at accepted
    · simp only [bind_eq_ok, return_eq_ok] at accepted
      obtain ⟨_, _, _, _, report, _, rfl, rfl⟩ := accepted
      exact StreamStep.runCompleted session report named running noActivity noLegacy noApproval
    · simp only [bind_eq_ok, return_eq_ok] at accepted
      obtain ⟨report, _, rfl, rfl⟩ := accepted
      exact StreamStep.runCompleted session report named running noActivity noLegacy noApproval
  · simp at accepted
  · simp at accepted

theorem HermesStream.runningEvent_steps
    (accepted : stream.runningEvent lib clock raw.name payload = .ok (event, next)) :
    StreamStep lib raw stream.core event next.core := by
  simp only [HermesStream.runningEvent, bind_eq_ok, require_eq_ok] at accepted
  obtain ⟨_, running, _, _, accepted⟩ := accepted
  split at accepted
  · exact HermesStream.approvalRequested_steps running accepted
  split at accepted
  · exact HermesStream.approvalAnswered_steps running accepted
  split at accepted
  · cases accepted
    exact StreamStep.quiet
  split at accepted
  · exact HermesStream.assistantCompleted_steps running accepted
  split at accepted
  · simp at accepted
  split at accepted
  · exact HermesStream.assistantDelta_steps running accepted
  split at accepted
  · exact HermesStream.toolStarted_steps running accepted
  split at accepted
  · simp only [bind_eq_ok, return_eq_ok] at accepted
    obtain ⟨_, _, rfl, rfl⟩ := accepted
    exact StreamStep.quiet
  split at accepted
  · exact HermesStream.toolCompleted_steps running accepted
  split at accepted
  · next named => exact HermesStream.runCompleted_steps named running accepted
  · simp at accepted

theorem HermesStream.normalizeEvent_steps
    (accepted : stream.normalizeEvent lib clock raw.name payload = .ok (event, next)) :
    StreamStep lib raw stream.core event next.core := by
  simp only [HermesStream.normalizeEvent, bind_eq_ok] at accepted
  obtain ⟨_, _, accepted⟩ := accepted
  split at accepted
  · exact HermesStream.runStarted_steps accepted
  · simp only [bind_eq_ok] at accepted
    obtain ⟨_, _, _, _, _, _, accepted⟩ := accepted
    split at accepted
    · next named =>
      exact HermesStream.streamDone_steps (by simp [RawEvent.isDone, named]) accepted
    · exact HermesStream.runningEvent_steps accepted

theorem HermesStream.doneMarker_steps (marker : raw.isDone = true)
    (accepted : stream.normalizeEvent lib clock "done" payload = .ok (event, next)) :
    StreamStep lib raw stream.core event next.core := by
  simp only [HermesStream.normalizeEvent, bind_eq_ok] at accepted
  obtain ⟨_, _, accepted⟩ := accepted
  rw [if_neg (by decide)] at accepted
  simp only [bind_eq_ok] at accepted
  obtain ⟨_, _, _, _, _, _, accepted⟩ := accepted
  rw [if_pos (by decide)] at accepted
  exact HermesStream.streamDone_steps marker accepted

theorem HermesStream.finishEvent_steps (accepted : stream.finishEvent lib raw = .ok (event, next)) :
    StreamStep lib raw stream.core event next.core := by
  simp only [HermesStream.finishEvent] at accepted
  split at accepted
  · cases accepted
    exact StreamStep.quiet
  split at accepted
  · next marked =>
    have marker : raw.isDone = true := by
      rw [RawEvent.isDone, marked]
      simp
    exact HermesStream.doneMarker_steps marker accepted
  split at accepted
  · simp only [bind_eq_ok, return_eq_ok] at accepted
    obtain ⟨⟨_, _⟩, normalized, rfl, rfl⟩ := accepted
    have step := HermesStream.normalizeEvent_steps normalized
    exact step
  · simp at accepted
  · simp at accepted

end Handlers

end Foundry
