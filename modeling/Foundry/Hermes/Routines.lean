import Foundry.Hermes.Values

/-!
# Routine results in a transcript

`_routine_result_references`, `_routine_result_value` and
`_routine_result_from_transcript` of `hermes.py`.  The reference check is written three
times in the repository with the same bounds; here it is `routineReferences?`, and each
caller says what it raises.
-/

set_option autoImplicit false

namespace Foundry

open Raise

structure RoutineReference where
  label : String
  url : String
deriving DecidableEq, Repr

def RoutineReference.toJson (reference : RoutineReference) : Json :=
  .obj [("label", .str reference.label), ("url", .str reference.url)]

structure RoutineReport where
  outcome : RoutineOutcome
  text : String
  references : List RoutineReference
deriving DecidableEq, Repr

def maxRoutineReferenceCount : Nat := 32

def maxRoutineLabelBytes : Nat := 255

def maxRoutineUrlBytes : Nat := 2048

def maxRoutineTextBytes : Nat := 16 * 1024

def maxRoutineArgumentBytes : Nat := 64 * 1024

def maxRoutineEventBytes : Nat := 64 * 1024

def maxRoutineFixedBytes : Nat := 4 * 1024

def routineResultTool : String := "allies_routine_result"

def hasNul (text : String) : Bool :=
  '\x00' ∈ text.toList

def isHttpUrl (url : String) : Bool :=
  "http://".toList.isPrefixOf url.toList || "https://".toList.isPrefixOf url.toList

def RoutineReference.isBounded (reference : RoutineReference) : Bool :=
  1 ≤ reference.label.utf8ByteSize ∧ reference.label.utf8ByteSize ≤ maxRoutineLabelBytes ∧
    hasNul reference.label = false ∧
    1 ≤ reference.url.utf8ByteSize ∧ reference.url.utf8ByteSize ≤ maxRoutineUrlBytes ∧
    hasNul reference.url = false ∧ isHttpUrl reference.url = true

def routineReference? (value : Json) : Option RoutineReference :=
  match value with
  | .obj _ =>
    if value.hasExactly ["label", "url"] then
      match value.get? "label", value.get? "url" with
      | some (.str label), some (.str url) =>
        if (RoutineReference.mk label url).isBounded then some ⟨label, url⟩ else none
      | _, _ => none
    else none
  | _ => none

/-- A list of at most 32 references, each within its bounds. -/
def routineReferences? : Option Json → Option (List RoutineReference)
  | some (.arr items) =>
    if items.length ≤ maxRoutineReferenceCount then items.mapM routineReference? else none
  | _ => none

def routineOutcome? : String → Option RoutineOutcome
  | "changed" => some .changed
  | "unchanged" => some .unchanged
  | "failed" => some .failed
  | _ => none

def isBoundedRoutineText (text : String) : Bool :=
  text ≠ "" ∧ text.utf8ByteSize ≤ maxRoutineTextBytes ∧ hasNul text = false

def routineVariablePayload (text : String) (references : List RoutineReference) : Json :=
  .obj [("references", .arr (references.map RoutineReference.toJson)), ("text", .str text)]

/-- The preflight of the envelope size: the fixed part is reserved. -/
def fitsRoutineEnvelope (text : String) (references : List RoutineReference) : Bool :=
  (routineVariablePayload text references).size + maxRoutineFixedBytes ≤ maxRoutineEventBytes

/-- `_routine_result_value`. -/
def routineResultValue (value : Json) : Except StreamFault RoutineReport := do
  require (value.hasExactly ["outcome", "text", "references"] = true)
    (malformed "Hermes routine result arguments were invalid")
  let name ← memberOf ["changed", "unchanged", "failed"]
    "Hermes routine result outcome was invalid" (value.get? "outcome")
  let outcome ← orRaise (routineOutcome? name)
    (malformed "Hermes routine result outcome was invalid")
  match value.get? "text" with
  | some (.str text) =>
    require (isBoundedRoutineText text = true)
      (malformed "Hermes routine result text was invalid")
    let references ← orRaise (routineReferences? (value.get? "references"))
      (malformed "Hermes routine result references were invalid")
    require (fitsRoutineEnvelope text references = true)
      (malformed "Hermes routine result envelope was too large")
    return ⟨outcome, text, references⟩
  | _ => throw (malformed "Hermes routine result text was invalid")

/-! ## The transcript -/

/-- A wrapper call that Hermes answered with an error never invoked the tool. -/
def isRejectedWrapper (lib : PyLibrary) (messages : List Json) (callId : String) : Bool :=
  match messages.filter fun item =>
      item.get? "role" = some (.str "tool") ∧ item.get? "tool_call_id" = some (.str callId) with
  | [response] =>
    if response.get? "tool_name" = some (.str "tool_call") then
      match (response.get? "content").getD (.str "") with
      | .str content =>
        match lib.loads content with
        | some (.obj members) =>
          (Json.obj members).has "error" && !(Json.obj members).has "status"
        | _ => false
      | _ => false
    else false
  | _ => false

def routineCallId : Option Json → Except StreamFault String
  | some (.str callId) => do
      require (isIdentity callId = true)
        (malformed "Hermes routine result tool call identity was invalid")
      return callId
  | _ => throw (malformed "Hermes routine result tool call identity was invalid")

/-- The identity of a result call, and its arguments as the text they were sent in. -/
def resultCallText (toolCall function : Json) : Except StreamFault (String × String) := do
  let callId ← routineCallId (toolCall.get? "id")
  match function.get? "arguments" with
  | some (.str arguments) => do
      require (arguments ≠ "") (malformed "Hermes routine result tool arguments were invalid")
      require (arguments.utf8ByteSize ≤ maxRoutineArgumentBytes)
        (malformed "Hermes routine result tool arguments were too large")
      return (callId, arguments)
  | _ => throw (malformed "Hermes routine result tool arguments were invalid")

/-- A tool call that carries the routine result: directly, or inside a `tool_call`
wrapper that was not rejected. -/
def routineResultCall (lib : PyLibrary) (messages : List Json) (toolCall : Json) :
    Except StreamFault (Option (String × Json)) :=
  match toolCall.get? "function" with
  | some function =>
    match function.get? "name" with
    | some (.str name) =>
      if name = routineResultTool then do
        let (callId, arguments) ← resultCallText toolCall function
        let decoded ← orRaise (lib.loads arguments)
          (malformed "Hermes routine result tool arguments were not JSON")
        return some (callId, decoded)
      else if name = "tool_call" then
        match function.get? "arguments" with
        | some (.str arguments) =>
          match lib.loads arguments with
          | some decoded =>
            if decoded.get? "name" = some (.str routineResultTool) then do
              let (callId, _) ← resultCallText toolCall function
              if isRejectedWrapper lib messages callId then return none
              return some (callId, (decoded.get? "arguments").getD .null)
            else return none
          | none => return none
        | _ => return none
      else return none
    | some (.arr _) | some (.obj _) => throw .typeError
    | _ => return none
  | none => return none

/-- The tool calls of one message with their positions, and which of them are results. -/
def messageCalls (lib : PyLibrary) (messages : List Json) (message : Json) (position : Nat) :
    Except StreamFault (List ((Nat × Nat) × Option (String × Json))) :=
  if message.get? "role" = some (.str "assistant") ∧ message.has "tool_calls" = true then
    match message.get? "tool_calls" with
    | some (.arr calls) =>
      calls.zipIdx.mapM fun call => do
        let found ← routineResultCall lib messages call.1
        return ((position, call.2), found)
    | _ => throw (malformed "Hermes routine result assistant tool calls were invalid")
  else return []

/-- What a tool message says of the call: nothing, or the decoded answer. -/
def toolAnswer (lib : PyLibrary) (callId : String) (message : Json) :
    Except StreamFault (Option Json) :=
  match message.get? "tool_call_id" with
  | some (.str answered) =>
    if isIdentity answered then
      if answered = callId then
        match message.get? "content" with
        | some (.str content) => do
            require (content ≠ "") (malformed "Hermes routine result tool response was invalid")
            require (content.utf8ByteSize ≤ maxRoutineArgumentBytes)
              (malformed "Hermes routine result tool response was too large")
            let answer ← orRaise (lib.loads content)
              (malformed "Hermes routine result tool response was not JSON")
            return some answer
        | _ => throw (malformed "Hermes routine result tool response was invalid")
      else return none
    else unnamed
  | _ => unnamed
where
  unnamed : Except StreamFault (Option Json) := do
    require (message.get? "tool_name" ≠ some (.str routineResultTool))
      (malformed "Hermes routine result tool response identity was invalid")
    return none

/-- `_routine_result_from_transcript`. -/
def routineResultFromTranscript (lib : PyLibrary) (messages : List Json) :
    Except StreamFault (Option RoutineReport) := do
  let perMessage ← messages.zipIdx.mapM fun message =>
    messageCalls lib messages message.1 message.2
  let toolCalls := perMessage.flatten
  match toolCalls.filterMap fun call => call.2.map fun found => (call.1, found) with
  | [] => return none
  | [(position, callId, arguments)] =>
    require (toolCalls.getLast?.map Prod.fst = some position)
      (malformed "Hermes routine result tool call was not the final assistant tool call")
    let toolMessages := messages.zipIdx.filter fun message =>
      message.1.get? "role" = some (.str "tool")
    let answers ← toolMessages.mapM fun message => do
      let answer ← toolAnswer lib callId message.1
      return (message.2, answer)
    match answers.filterMap fun answer => answer.2.map fun value => (answer.1, value) with
    | [(answered, result)] =>
      require (position.1 < answered)
        (malformed "Hermes routine result tool response preceded its assistant tool call")
      require (toolMessages.getLast?.map Prod.snd = some answered)
        (malformed "Hermes routine result tool response was not the final tool result")
      require (result.get? "status" = some (.str "accepted"))
        (malformed "Hermes routine result tool response was rejected")
      let report ← routineResultValue arguments
      return some report
    | _ => throw (malformed "Hermes routine result tool response was missing or duplicated")
  | _ => throw (malformed "Hermes routine result tool call was duplicated")

end Foundry
