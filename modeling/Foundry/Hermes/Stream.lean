import Foundry.Hermes.Routines
import Foundry.Lib.Table

/-!
# The Hermes event stream

`_IncrementalHTTPStream` of `hermes.py`: lines are framed into server-sent events, and
each event is checked against the state of the run before it is passed on.
-/

set_option autoImplicit false

namespace Foundry

open Raise

/-! ## Events -/

structure StreamClock where
  monotonic : Instant
  utc : Instant
deriving DecidableEq, Repr

structure ActivityRef where
  id : String
  kind : String
deriving DecidableEq, Repr

/-- The payload of a normalized event.  An activity of a legacy image has no identity. -/
inductive HermesPayload where
  | messageDelta (text : String)
  | activityStarted (activity : Option ActivityRef) (subject : Option String)
  | activityCompleted (activity : Option ActivityRef) (failed : Bool) (durationMs : Option Nat)
      (subject : Option String)
  | approvalRequest (approvalId actionKind actionLabel actionPreview expiresAt : String)
  | approvalResponded (approvalId outcome : String)
  | executionCompleted (runId : String) (report : Option RoutineReport)
deriving DecidableEq, Repr

structure HermesEvent where
  profileId : String
  sessionId : String
  runId : String
  sequence : Nat
  payload : HermesPayload
deriving DecidableEq, Repr

def HermesPayload.isCompletion : HermesPayload → Bool
  | .executionCompleted _ _ => true
  | _ => false

/-! ## State -/

inductive RunState where
  | awaitingRun
  | running
  | runCompleted
deriving DecidableEq, Repr

structure HermesStream where
  profileId : String
  sessionId : String
  routineResult : Bool
  streamTimeout : Option Instant
  idleTimeout : Option Instant
  deadline : Option Instant
  lastProgress : Instant
  eventCount : Nat
  normalizedCount : Nat
  runId : Option String
  state : RunState
  activeActivityCalls : Table String ActivityRef
  legacyActivityCounts : Table String Nat
  seenActivityCalls : List String
  pendingApprovalId : Option String
  approvalIdleUntil : Option Instant
  seenApprovalIds : List String
  sawAssistantDelta : Bool
  assistantCompletionSessionId : Option String
  terminalEvent : Option HermesEvent
  done : Bool

/-- `__init__`. -/
def HermesStream.opened (profileId sessionId : String) (routineResult : Bool)
    (streamTimeout idleTimeout : Option Instant) (clock : StreamClock) : HermesStream where
  profileId := profileId
  sessionId := sessionId
  routineResult := routineResult
  streamTimeout := streamTimeout
  idleTimeout := idleTimeout
  deadline := streamTimeout.map (clock.monotonic + ·)
  lastProgress := clock.monotonic
  eventCount := 0
  normalizedCount := 0
  runId := none
  state := .awaitingRun
  activeActivityCalls := ∅
  legacyActivityCounts := ∅
  seenActivityCalls := []
  pendingApprovalId := none
  approvalIdleUntil := none
  seenApprovalIds := []
  sawAssistantDelta := false
  assistantCompletionSessionId := none
  terminalEvent := none
  done := false

namespace HermesStream

/-- `_event`. -/
def event (stream : HermesStream) (sessionId : String) (payload : HermesPayload) :
    HermesEvent × HermesStream :=
  ({ profileId := stream.profileId
     sessionId := sessionId
     runId := stream.runId.getD ""
     sequence := stream.normalizedCount + 1
     payload := payload },
    { stream with normalizedCount := stream.normalizedCount + 1 })

def yields (stream : HermesStream) (payload : HermesPayload) :
    Option HermesEvent × HermesStream :=
  ((stream.event stream.sessionId payload).1, (stream.event stream.sessionId payload).2)

/-- The keys an approval message must have, and the two it may have besides. -/
def hasApprovalKeys (required : List String) (payload : Json) : Bool :=
  required.all (· ∈ payload.keys) &&
    payload.keys.all fun key => key ∈ required || key ∈ ["seq", "ts"]

/-! ## One event -/

section Handlers

variable (lib : PyLibrary) (clock : StreamClock) (payload : Json) (stream : HermesStream)

def runStarted : Except StreamFault (Option HermesEvent × HermesStream) := do
  require (stream.state = .awaitingRun) (malformed "Hermes run started out of order")
  match payload.get? "run_id" with
  | some (.str runId) =>
    require (runId ≠ "") (malformed "Hermes event omitted run identity")
    require (payload.get? "session_id" = some (.str stream.sessionId))
      (malformed "Hermes event session identity did not match request")
    return (none, { stream with runId := some runId, state := .running })
  | _ => throw (malformed "Hermes event omitted run identity")

def streamDone : Except StreamFault (Option HermesEvent × HermesStream) := do
  require (stream.state = .runCompleted)
    (malformed "Hermes stream ended before run completion")
  let terminal ← orRaise stream.terminalEvent
    (malformed "Hermes stream ended before run completion")
  let _ ← memberOf [stream.sessionId, terminal.sessionId] "Hermes done identity did not match"
    (payload.get? "session_id")
  return (some terminal, { stream with done := true, terminalEvent := none })

def approvalRequested : Except StreamFault (Option HermesEvent × HermesStream) := do
  require (hasApprovalKeys ["session_id", "run_id", "hermes_approval_id", "action_kind",
      "action_label", "action_preview", "expires_at"] payload = true)
    (malformed "Hermes approval request was invalid")
  let approvalId ← validatedApprovalId (payload.get? "hermes_approval_id")
  require (approvalId ∉ stream.seenApprovalIds ∧ stream.pendingApprovalId = none)
    (malformed "Hermes approval request was duplicated")
  let actionKind ← memberOf ["terminal", "execute_code", "plugin_tool"]
    "Hermes approval action kind was invalid" (payload.get? "action_kind")
  let actionLabel ← approvalLabel (payload.get? "action_label")
  let actionPreview ← approvalPreview (payload.get? "action_preview")
  let (expiresAt, expiry) ← approvalExpiry lib clock.utc (payload.get? "expires_at")
  let consent := clock.monotonic + (expiry - clock.utc)
  return { stream with
    pendingApprovalId := some approvalId
    deadline := (stream.streamTimeout.map (consent + ·)).or stream.deadline
    approvalIdleUntil := (stream.idleTimeout.map (consent + ·)).or stream.approvalIdleUntil
    }.yields (.approvalRequest approvalId actionKind actionLabel actionPreview expiresAt)

def approvalAnswered : Except StreamFault (Option HermesEvent × HermesStream) := do
  require (hasApprovalKeys ["session_id", "run_id", "hermes_approval_id", "outcome"]
      payload = true)
    (malformed "Hermes approval response was invalid")
  let approvalId ← validatedApprovalId (payload.get? "hermes_approval_id")
  require (stream.pendingApprovalId = some approvalId)
    (malformed "Hermes approval response identity changed")
  let outcome ← memberOf ["approved", "rejected", "expired", "cancelled"]
    "Hermes approval response outcome was invalid" (payload.get? "outcome")
  return { stream with
    pendingApprovalId := none
    approvalIdleUntil := none
    seenApprovalIds := approvalId :: stream.seenApprovalIds
    deadline := (stream.streamTimeout.map (clock.monotonic + ·)).or stream.deadline
    }.yields (.approvalResponded approvalId outcome)

def boundedText (message : String) : Option Json → Except StreamFault String
  | some (.str text) => do
      require (text ≠ "" ∧ text.utf8ByteSize ≤ Hermes.maxSafeTextBytes) (malformed message)
      return text
  | _ => throw (malformed message)

def assistantCompleted : Except StreamFault (Option HermesEvent × HermesStream) := do
  match payload.get? "session_id" with
  | some (.str session) =>
    require (isIdentity session = true)
      (malformed "Hermes assistant completion session was invalid")
    if stream.sawAssistantDelta then
      return (none, { stream with assistantCompletionSessionId := some session })
    let content ← boundedText "Hermes assistant completion omitted bounded text"
      (payload.get? "content")
    return { stream with assistantCompletionSessionId := some session }.yields
      (.messageDelta content)
  | _ => throw (malformed "Hermes assistant completion session was invalid")

def assistantDelta : Except StreamFault (Option HermesEvent × HermesStream) := do
  let delta ← boundedText "Hermes assistant delta was invalid" (payload.get? "delta")
  return { stream with sawAssistantDelta := true }.yields (.messageDelta delta)

def toolStarted : Except StreamFault (Option HermesEvent × HermesStream) := do
  let toolName ← validatedToolName (payload.get? "tool_name")
  if payload.has "tool_call_id" = false then
    require (["activity_id", "activity_kind", "duration_ms", "is_error"].all
        (fun field => !payload.has field) = true)
      (malformed "Hermes tool start identity was invalid")
    return { stream with
      legacyActivityCounts := stream.legacyActivityCounts.insert toolName
        ((stream.legacyActivityCounts.lookup toolName).getD 0 + 1)
      }.yields (.activityStarted none none)
  let toolCallId ← validatedToolCallId (payload.get? "tool_call_id")
  require (toolCallId ∉ stream.seenActivityCalls)
    (malformed "Hermes tool start was duplicated")
  let activity : ActivityRef :=
    ⟨activityId lib (stream.runId.getD "") toolCallId, normalizeActivityKind toolName⟩
  require (∀ active ∈ stream.activeActivityCalls.rows, active.2.id ≠ activity.id)
    (malformed "Hermes activity identity collided")
  return { stream with
    activeActivityCalls := stream.activeActivityCalls.insert toolCallId activity
    seenActivityCalls := toolCallId :: stream.seenActivityCalls
    }.yields (.activityStarted (some activity)
      (activitySubject lib (payload.get? "activity_subject")))

/-- One legacy completion: the last one of a tool forgets the tool. -/
def legacyCompleted (toolName : String) :
    Except StreamFault (Option HermesEvent × HermesStream) := do
  require (payload.has "duration_ms" = false ∧ payload.has "is_error" = false)
    (malformed "Hermes tool completion identity was invalid")
  let count := (stream.legacyActivityCounts.lookup toolName).getD 0
  require (0 < count) (malformed "Hermes tool completion was out of order")
  return { stream with
    legacyActivityCounts :=
      if count = 1 then stream.legacyActivityCounts.erase toolName
      else stream.legacyActivityCounts.insert toolName (count - 1)
    }.yields (.activityCompleted none false none none)

def toolCompleted : Except StreamFault (Option HermesEvent × HermesStream) := do
  let toolName ← validatedToolName (payload.get? "tool_name")
  if payload.has "tool_call_id" = false then
    stream.legacyCompleted payload toolName
  else
    let toolCallId ← validatedToolCallId (payload.get? "tool_call_id")
    let activity ← orRaise (stream.activeActivityCalls.lookup toolCallId)
      (malformed "Hermes tool completion was out of order")
    require (normalizeActivityKind toolName = activity.kind)
      (malformed "Hermes tool completion identity changed")
    match payload.get? "is_error" with
    | some (.bool isError) =>
      let duration ← durationMs payload
      return { stream with
        activeActivityCalls := stream.activeActivityCalls.erase toolCallId
        }.yields (.activityCompleted (some activity) isError duration
          (activitySubject lib (payload.get? "activity_subject")))
    | _ => throw (malformed "Hermes tool completion status was invalid")

def runCompleted : Except StreamFault (Option HermesEvent × HermesStream) := do
  require (stream.activeActivityCalls.rows = [] ∧ stream.legacyActivityCounts.rows = [] ∧
      stream.pendingApprovalId = none ∧ payload.get? "completed" = some (.bool true))
    (malformed "Hermes run completion was invalid")
  match payload.get? "messages", payload.get? "session_id" with
  | some (.arr messages), some (.str session) =>
    require (messages.length ≤ Hermes.maxEvents ∧
        (messages = [] → stream.assistantCompletionSessionId = some session))
      (malformed "Hermes run completion omitted its transcript")
    require (isIdentity session = true) (malformed "Hermes terminal session was invalid")
    let report ←
      if stream.routineResult then do
        let report ← routineResultFromTranscript lib messages
        require (payload.has "outcome" = false)
          (malformed "Hermes generic run outcome was not a typed routine result")
        pure report
      else pure none
    let (terminal, next) := stream.event session
      (.executionCompleted (stream.runId.getD "") report)
    return (none, { next with state := .runCompleted, terminalEvent := some terminal })
  | some (.arr _), _ => throw (malformed "Hermes terminal session was invalid")
  | _, _ => throw (malformed "Hermes run completion omitted its transcript")

end Handlers

def knownEvents : List String :=
  ["run.started", "message.started", "assistant.delta", "tool.started", "tool.progress",
    "tool.completed", "approval.request", "approval.responded", "assistant.completed",
    "run.completed", "error", "done"]

def runningEvent (lib : PyLibrary) (clock : StreamClock) (name : String) (payload : Json)
    (stream : HermesStream) : Except StreamFault (Option HermesEvent × HermesStream) := do
  require (stream.state = .running) (malformed "Hermes event arrived after run completion")
  require (name ∈ ["assistant.completed", "run.completed"] ∨
      payload.get? "session_id" = some (.str stream.sessionId))
    (malformed "Hermes event session identity did not match request")
  if name = "approval.request" then stream.approvalRequested lib clock payload
  else if name = "approval.responded" then stream.approvalAnswered clock payload
  else if name = "message.started" then return (none, stream)
  else if name = "assistant.completed" then stream.assistantCompleted payload
  else if name = "error" then throw (.hermes .hermes "Hermes reported a turn failure")
  else if name = "assistant.delta" then stream.assistantDelta payload
  else if name = "tool.started" then stream.toolStarted lib payload
  else if name = "tool.progress" then do
    let _ ← validatedToolName (payload.get? "tool_name")
    return (none, stream)
  else if name = "tool.completed" then stream.toolCompleted lib payload
  else if name = "run.completed" then stream.runCompleted lib payload
  else throw (malformed "Hermes stream event type was not allowed")

/-- `_normalize_event`. -/
def normalizeEvent (lib : PyLibrary) (clock : StreamClock) (name : String) (payload : Json)
    (stream : HermesStream) : Except StreamFault (Option HermesEvent × HermesStream) := do
  require (name ∈ knownEvents) (malformed "Hermes stream event type was not allowed")
  if name = "run.started" then stream.runStarted payload
  else do
    let runId ← orRaise stream.runId (malformed "Hermes event arrived before run start")
    require (stream.state ≠ .awaitingRun) (malformed "Hermes event arrived before run start")
    require (payload.get? "run_id" = some (.str runId)) (malformed "Hermes run identity changed")
    if name = "done" then stream.streamDone payload
    else stream.runningEvent lib clock name payload

end HermesStream

/-- A server-sent event: the name of its last event field, and its data lines. -/
structure RawEvent where
  clock : StreamClock
  name : String
  data : String
deriving DecidableEq, Repr

namespace HermesStream

def doneMarker (stream : HermesStream) : Json :=
  .obj [("run_id", (stream.runId.map Json.str).getD .null), ("session_id", .str stream.sessionId)]

/-- `_finish_event`. -/
def finishEvent (lib : PyLibrary) (raw : RawEvent) (stream : HermesStream) :
    Except StreamFault (Option HermesEvent × HermesStream) :=
  if raw.data = "" then return (none, stream)
  else if raw.data = "[DONE]" then
    stream.normalizeEvent lib raw.clock "done" stream.doneMarker
  else
    match lib.loads raw.data with
    | some (.obj members) => do
        let (event, next) ← { stream with eventCount := stream.eventCount + 1 }.normalizeEvent
          lib raw.clock raw.name (.obj members)
        return (event, { next with lastProgress := raw.clock.monotonic })
    | some _ => throw (malformed "Hermes stream event was not an object")
    | none => throw (malformed "Hermes stream contained malformed JSON")

end HermesStream

/-! ## A whole stream -/

inductive StreamEnd where
  | open
  | ended
  | raised (fault : StreamFault)
deriving DecidableEq, Repr

/-- What a stream yields for a sequence of events, and how it ends. -/
def HermesStream.normalized (lib : PyLibrary) :
    HermesStream → List RawEvent → List HermesEvent × StreamEnd
  | _, [] => ([], .open)
  | stream, raw :: rest =>
    match stream.finishEvent lib raw with
    | .error fault => ([], .raised fault)
    | .ok (event, next) =>
      if next.done then (event.toList, .ended)
      else
        (event.toList ++ (next.normalized lib rest).1, (next.normalized lib rest).2)

end Foundry
