import Foundry.Lib.Related
import Foundry.Properties.StreamTraces

/-!
# Routine results in transcripts

The scan of a transcript reports the arguments of its one result call that was not rejected, and
only with the answer that accepts them.
-/

set_option autoImplicit false

namespace Foundry

open Raise

/-! ## The calls of a transcript -/

def assistantCalls (message : Json) : List Json :=
  if message.get? "role" = some (.str "assistant") then
    match message.get? "tool_calls" with
    | some (.arr calls) => calls
    | _ => []
  else []

/-- The tool calls of the assistant, each with its message and its place there. -/
def transcriptCalls (messages : List Json) : List ((Nat × Nat) × Json) :=
  messages.zipIdx.flatMap fun message =>
    (assistantCalls message.1).zipIdx.map fun call => ((message.2, call.2), call.1)

def toolMessages (messages : List Json) : List (Json × Nat) :=
  messages.zipIdx.filter fun message => message.1.get? "role" = some (.str "tool")

namespace Json

def function (call : Json) : Json := (call.get? "function").getD .null

def functionName (call : Json) : Option Json := call.function.get? "name"

def functionArguments (call : Json) : Option Json := call.function.get? "arguments"

def isDirectResult (call : Json) : Bool :=
  call.functionName = some (.str routineResultTool)

variable (lib : PyLibrary)

/-- What a `tool_call` wrapper holds, if that names the result tool. -/
def wrapped? (call : Json) : Option Json :=
  if call.functionName = some (.str "tool_call") then
    match call.functionArguments with
    | some (.str arguments) =>
      (lib.loads arguments).filter fun decoded =>
        decoded.get? "name" = some (.str routineResultTool)
    | _ => none
  else none

/-- A call of the result tool, directly or inside a wrapper. -/
def isResultCall (call : Json) : Bool :=
  call.isDirectResult || (call.wrapped? lib).isSome

/-- The wrapper was answered with an error: it never invoked the tool. -/
def isRejected (messages : List Json) (call : Json) : Bool :=
  (call.wrapped? lib).isSome &&
    match call.get? "id" with
    | some (.str callId) => isRejectedWrapper lib messages callId
    | _ => false

def isReported (messages : List Json) (call : Json) : Bool :=
  call.isResultCall lib && !call.isRejected lib messages

def resultArguments (call : Json) : Option Json :=
  if call.isDirectResult then
    match call.functionArguments with
    | some (.str arguments) => lib.loads arguments
    | _ => none
  else (call.wrapped? lib).map fun decoded => (decoded.get? "arguments").getD .null

def isHashable (call : Json) : Bool :=
  match call.functionName with
  | some (.arr _) | some (.obj _) => false
  | _ => true

/-- A result call is written as one: its identity, and its arguments within their bounds. -/
def isWellFormedCall (call : Json) : Bool :=
  match call.get? "id", call.functionArguments with
  | some (.str callId), some (.str arguments) =>
    isIdentity callId && decide (arguments ≠ "") &&
      decide (arguments.utf8ByteSize ≤ maxRoutineArgumentBytes)
  | _, _ => false

end Json

/-! ## One call -/

variable {callId : String}

section Calls

variable {lib : PyLibrary} {messages : List Json} {call : Json}

theorem resultCallText_eq_ok {function : Json} {arguments : String}
    (found : call.get? "function" = some function) :
    resultCallText call function = .ok (callId, arguments) ↔
      call.get? "id" = some (.str callId) ∧
        call.functionArguments = some (.str arguments) ∧ call.isWellFormedCall = true := by
  have same : call.functionArguments = function.get? "arguments" := by
    rw [Json.functionArguments, Json.function, found]
    rfl
  unfold resultCallText Json.isWellFormedCall
  rw [same]
  cases identity : call.get? "id" with
  | none => simp [routineCallId]
  | some value =>
    cases value with
    | str =>
      cases given : function.get? "arguments" with
      | none => simp [routineCallId]
      | some value =>
        cases value with
        | str =>
          simp only [routineCallId, bind_eq_ok, require_eq_ok, pure_eq_ok, Prod.mk.injEq,
            Option.some.injEq, Json.str.injEq, Bool.and_eq_true, decide_eq_true_eq]
          constructor
          · rintro ⟨_, ⟨_, valid, rfl⟩, _, nonempty, _, small, rfl, rfl⟩
            exact ⟨rfl, rfl, ⟨valid, nonempty⟩, small⟩
          · rintro ⟨rfl, rfl, ⟨valid, nonempty⟩, small⟩
            exact ⟨_, ⟨(), valid, rfl⟩, (), nonempty, (), small, rfl, rfl⟩
        | _ => simp [routineCallId]
    | _ => simp [routineCallId]

theorem Json.function_of_name {name : String} (named : call.functionName = some (.str name)) :
    ∃ function, call.get? "function" = some function ∧
      function.get? "name" = some (.str name) := by
  unfold Json.functionName Json.function at named
  cases found : call.get? "function" with
  | none =>
    rw [found] at named
    cases named
  | some function =>
    rw [found] at named
    exact ⟨function, rfl, named⟩

variable {decoded : Json}

theorem Json.wrapped?_eq_some :
    call.wrapped? lib = some decoded ↔ call.functionName = some (.str "tool_call") ∧
      ∃ arguments, call.functionArguments = some (.str arguments) ∧
        lib.loads arguments = some decoded ∧
        decoded.get? "name" = some (.str routineResultTool) := by
  unfold Json.wrapped?
  split
  · next named =>
    rw [and_iff_right named]
    split
    · next given =>
      simp only [Option.filter_eq_some_iff, decide_eq_true_eq, given, Option.some.injEq,
        Json.str.injEq, exists_eq_left']
    · next other =>
      refine iff_of_false (by simp) ?_
      rintro ⟨arguments, given, _⟩
      exact other arguments given
  · next other =>
    refine iff_of_false (by simp) ?_
    rintro ⟨named, _⟩
    exact other named

theorem Json.identity_of_wellFormed (wellFormed : call.isWellFormedCall = true) :
    ∃ callId, call.get? "id" = some (.str callId) := by
  unfold Json.isWellFormedCall at wellFormed
  split at wellFormed
  · next callId _ identity _ => exact ⟨callId, identity⟩
  · cases wellFormed

theorem identity_isIdentity (wellFormed : call.isWellFormedCall = true)
    (identity : call.get? "id" = some (.str callId)) : isIdentity callId = true := by
  unfold Json.isWellFormedCall at wellFormed
  rw [identity] at wellFormed
  split at wellFormed
  · next same _ =>
    cases same
    simp only [Bool.and_eq_true] at wellFormed
    exact wellFormed.1.1
  · cases wellFormed

theorem routineResultCall_direct (direct : call.isDirectResult = true)
    (found : Option (String × Json)) :
    routineResultCall lib messages call = .ok found ↔
      ∃ callId arguments, found = some (callId, arguments) ∧
        call.get? "id" = some (.str callId) ∧ call.isWellFormedCall = true ∧
        call.resultArguments lib = some arguments := by
  obtain ⟨_, isFunction, named⟩ :=
    Json.function_of_name (of_decide_eq_true direct)
  unfold routineResultCall
  rw [isFunction]
  dsimp only
  rw [named]
  dsimp only
  rw [if_pos rfl]
  simp only [bind_eq_ok, orRaise_eq_ok, pure_eq_ok, Prod.exists, resultCallText_eq_ok isFunction,
    Json.resultArguments, direct, if_true]
  constructor
  · rintro ⟨callId, _, ⟨identity, given, wellFormed⟩, decoded, loaded, rfl⟩
    rw [given]
    exact ⟨callId, decoded, rfl, identity, wellFormed, loaded⟩
  · rintro ⟨callId, decoded, rfl, identity, wellFormed, loaded⟩
    cases given : call.functionArguments with
    | none =>
      rw [given] at loaded
      cases loaded
    | some value =>
      rw [given] at loaded
      cases value with
      | str text => exact ⟨callId, text, ⟨identity, rfl, wellFormed⟩, decoded, loaded, rfl⟩
      | _ => cases loaded

theorem routineResultCall_wrapped (wrapped : call.wrapped? lib = some decoded)
    (found : Option (String × Json)) :
    routineResultCall lib messages call = .ok found ↔
      call.isWellFormedCall = true ∧
        ((call.isRejected lib messages = true ∧ found = none) ∨
          ∃ callId arguments, call.isRejected lib messages = false ∧
            found = some (callId, arguments) ∧ call.get? "id" = some (.str callId) ∧
            call.resultArguments lib = some arguments) := by
  obtain ⟨isWrapper, text, given, loaded, inner⟩ := Json.wrapped?_eq_some.mp wrapped
  obtain ⟨function, isFunction, named⟩ := Json.function_of_name isWrapper
  have passed : function.get? "arguments" = some (.str text) := by
    rw [Json.functionArguments, Json.function, isFunction] at given
    exact given
  have indirect : call.isDirectResult = false := by
    rw [Json.isDirectResult, isWrapper]
    decide
  unfold routineResultCall
  rw [isFunction]
  dsimp only
  rw [named]
  dsimp only
  rw [if_neg (by decide), if_pos rfl, passed]
  dsimp only
  rw [loaded]
  dsimp only
  rw [if_pos inner]
  have carried : call.resultArguments lib = some ((decoded.get? "arguments").getD .null) := by
    rw [Json.resultArguments, indirect, if_neg Bool.false_ne_true, wrapped]
    rfl
  have rejects {callId : String} (identity : call.get? "id" = some (.str callId)) :
      call.isRejected lib messages = isRejectedWrapper lib messages callId := by
    rw [Json.isRejected, wrapped, identity]
    rfl
  simp only [bind_eq_ok, Prod.exists, resultCallText_eq_ok isFunction, carried, Option.some.injEq]
  constructor
  · rintro ⟨callId, _, ⟨identity, _, wellFormed⟩, answer⟩
    refine ⟨wellFormed, ?_⟩
    rw [rejects identity]
    split at answer
    · next rejected => exact .inl ⟨rejected, (Except.ok.inj answer).symm⟩
    · next kept =>
      exact .inr ⟨callId, _, (Bool.not_eq_true _).mp kept, (Except.ok.inj answer).symm,
        identity, rfl⟩
  · rintro ⟨wellFormed, holds⟩
    obtain ⟨callId, identity⟩ := Json.identity_of_wellFormed wellFormed
    refine ⟨callId, text, ⟨identity, given, wellFormed⟩, ?_⟩
    rw [rejects identity] at holds
    rcases holds with ⟨rejected, rfl⟩ | ⟨_, _, kept, rfl, same, rfl⟩
    · rw [if_pos rejected]
      rfl
    · rw [if_neg (by rw [kept]; exact Bool.false_ne_true)]
      rw [identity, Option.some.injEq, Json.str.injEq] at same
      rw [same]
      rfl

theorem routineResultCall_other (other : call.isResultCall lib = false) :
    routineResultCall lib messages call =
      if call.isHashable then .ok none else .error .typeError := by
  rw [Json.isResultCall, Bool.or_eq_false_iff] at other
  obtain ⟨indirect, unwrapped⟩ := other
  cases isFunction : call.get? "function" with
  | none =>
    have unnamed : call.functionName = none := by
      rw [Json.functionName, Json.function, isFunction]
      rfl
    rw [routineResultCall, isFunction, Json.isHashable, unnamed]
    rfl
  | some function =>
    have sameName : call.functionName = function.get? "name" := by
      rw [Json.functionName, Json.function, isFunction]
      rfl
    have passed : call.functionArguments = function.get? "arguments" := by
      rw [Json.functionArguments, Json.function, isFunction]
      rfl
    rw [routineResultCall, isFunction, Json.isHashable, sameName]
    dsimp only
    rw [Json.isDirectResult, sameName] at indirect
    cases named : function.get? "name" with
    | none => rfl
    | some name =>
      cases name with
      | str =>
        dsimp only
        rw [if_neg (by rintro rfl; simp [named] at indirect), if_pos rfl]
        split
        · next isWrapper =>
          subst isWrapper
          split
          · next arguments given =>
            split
            · next loaded =>
              refine if_neg fun inner => ?_
              rw [Json.wrapped?_eq_some.mpr ⟨sameName.trans named, arguments,
                passed.trans given, loaded, inner⟩] at unwrapped
              cases unwrapped
            · rfl
          · rfl
        · rfl
      | _ => rfl

theorem Json.wrapped?_of_direct (direct : call.isDirectResult = true) :
    call.wrapped? lib = none := by
  have named : call.functionName = some (.str routineResultTool) := of_decide_eq_true direct
  rw [Json.wrapped?, named, if_neg (by decide)]

theorem Json.isReported_of_direct (direct : call.isDirectResult = true) :
    call.isReported lib messages = true := by
  rw [Json.isReported, Json.isResultCall, Json.isRejected, Json.wrapped?_of_direct direct, direct]
  rfl

theorem Json.isReported_of_wrapped (wrapped : call.wrapped? lib = some decoded) :
    call.isReported lib messages = !call.isRejected lib messages := by
  rw [Json.isReported, Json.isResultCall, wrapped, Option.isSome_some, Bool.or_true,
    Bool.true_and]

theorem routineResultCall_some {arguments : Json}
    (success : routineResultCall lib messages call = .ok (some (callId, arguments))) :
    call.isReported lib messages = true ∧ call.isWellFormedCall = true ∧
      call.get? "id" = some (.str callId) ∧ call.resultArguments lib = some arguments := by
  by_cases direct : call.isDirectResult = true
  · obtain ⟨_, _, same, identity, wellFormed, given⟩ :=
      (routineResultCall_direct direct _).mp success
    cases same
    exact ⟨Json.isReported_of_direct direct, wellFormed, identity, given⟩
  · cases wrapped : call.wrapped? lib with
    | some =>
      obtain ⟨wellFormed, ⟨_, none⟩ | ⟨_, _, kept, same, identity, given⟩⟩ :=
        (routineResultCall_wrapped wrapped _).mp success
      · cases none
      · cases same
        rw [Json.isReported_of_wrapped wrapped, kept]
        exact ⟨rfl, wellFormed, identity, given⟩
    | none =>
      have other : call.isResultCall lib = false := by
        rw [Json.isResultCall, wrapped, (Bool.not_eq_true _).mp direct]
        rfl
      rw [routineResultCall_other other] at success
      split at success
      · cases success
      · cases success

theorem routineResultCall_none :
    routineResultCall lib messages call = .ok none ↔ call.isHashable = true ∧
      call.isReported lib messages = false ∧
      (call.isResultCall lib = true → call.isWellFormedCall = true) := by
  by_cases direct : call.isDirectResult = true
  · refine iff_of_false ?_ ?_
    · intro success
      obtain ⟨_, _, none, _⟩ := (routineResultCall_direct direct _).mp success
      cases none
    · rintro ⟨_, unreported, _⟩
      rw [Json.isReported_of_direct direct] at unreported
      cases unreported
  · cases wrapped : call.wrapped? lib with
    | some =>
      have isResult : call.isResultCall lib = true := by
        rw [Json.isResultCall, wrapped, Option.isSome_some, Bool.or_true]
      have hashable : call.isHashable = true := by
        rw [Json.isHashable, (Json.wrapped?_eq_some.mp wrapped).1]
      rw [routineResultCall_wrapped wrapped, Json.isReported_of_wrapped wrapped, isResult,
        hashable]
      simp [and_comm]
    | none =>
      have other : call.isResultCall lib = false := by
        rw [Json.isResultCall, wrapped, (Bool.not_eq_true _).mp direct]
        rfl
      rw [routineResultCall_other other, Json.isReported, other]
      simp

end Calls

/-! ## The scan -/

def Json.listsCalls (message : Json) : Bool :=
  if message.get? "role" = some (.str "assistant") then
    match message.get? "tool_calls" with
    | none | some (.arr _) => true
    | _ => false
  else true

def Scanned (lib : PyLibrary) (messages : List Json) (entry : (Nat × Nat) × Json)
    (call : (Nat × Nat) × Option (String × Json)) : Prop :=
  call.1 = entry.1 ∧ routineResultCall lib messages entry.2 = .ok call.2

theorem Json.has_eq_isSome (name : String) (value : Json) :
    value.has name = (value.get? name).isSome := by
  cases value with
  | obj =>
    rw [Json.has, Json.keys, Json.get?, Option.isSome_map, Bool.eq_iff_iff,
      List.contains_iff_mem, List.find?_isSome, List.mem_map]
    simp only [beq_iff_eq]
  | _ => rfl

section Scan

variable {lib : PyLibrary} {messages : List Json}

theorem messageCalls_eq_ok (message : Json) (position : Nat)
    (calls : List ((Nat × Nat) × Option (String × Json))) :
    messageCalls lib messages message position = .ok calls ↔ message.listsCalls = true ∧
      List.Forall₂ (Scanned lib messages)
        ((assistantCalls message).zipIdx.map fun call => ((position, call.2), call.1)) calls := by
  unfold messageCalls Json.listsCalls assistantCalls
  rw [Json.has_eq_isSome]
  by_cases assistant : message.get? "role" = some (.str "assistant")
  · rw [if_pos assistant, if_pos assistant]
    cases listed : message.get? "tool_calls" with
    | none =>
      rw [if_neg (by rintro ⟨_, ⟨⟩⟩)]
      simp only [pure_eq_ok, List.zipIdx_nil, List.map_nil, List.forall₂_nil_left_iff, true_and]
      exact eq_comm
    | some value =>
      rw [if_pos ⟨assistant, rfl⟩]
      cases value with
      | arr =>
        rw [Related.mapM_eq_ok, List.forall₂_map_left_iff, eq_self, true_and]
        simp only [bind_eq_ok, pure_eq_ok, Scanned]
        constructor
        · refine List.Forall₂.imp ?_
          rintro _ _ ⟨_, success, rfl⟩
          exact ⟨rfl, success⟩
        · refine List.Forall₂.imp ?_
          rintro _ ⟨_, found⟩ ⟨rfl, success⟩
          exact ⟨found, success, rfl⟩
      | _ => exact iff_of_false (by rintro ⟨⟩) (by rintro ⟨⟨⟩, _⟩)
  · rw [if_neg (fun both => assistant both.1), if_neg assistant, if_neg assistant]
    simp only [pure_eq_ok, List.zipIdx_nil, List.map_nil, List.forall₂_nil_left_iff, true_and]
    exact eq_comm

theorem scannedCalls_eq_ok (perMessage : List (List ((Nat × Nat) × Option (String × Json)))) :
    (messages.zipIdx.mapM fun message => messageCalls lib messages message.1 message.2) =
        .ok perMessage ↔
      (∀ message ∈ messages, message.listsCalls = true) ∧
        List.Forall₂ (fun message calls => List.Forall₂ (Scanned lib messages)
          ((assistantCalls message.1).zipIdx.map fun call => ((message.2, call.2), call.1)) calls)
          messages.zipIdx perMessage := by
  simp only [Related.mapM_eq_ok, messageCalls_eq_ok]
  rw [List.forall₂_and_left]
  refine and_congr_left fun _ => ?_
  have all := @List.forall_mem_map _ _ Prod.fst messages.zipIdx
    fun message => message.listsCalls = true
  rw [List.zipIdx_map_fst] at all
  exact all.symm

variable {place : Nat × Nat}

theorem mem_transcriptCalls {call : Json} :
    (place, call) ∈ transcriptCalls messages ↔ ∃ message, messages[place.1]? = some message ∧
      (assistantCalls message)[place.2]? = some call := by
  rw [transcriptCalls, List.mem_flatMap]
  constructor
  · rintro ⟨⟨message, _⟩, listed, member⟩
    obtain ⟨⟨_, _⟩, among, same⟩ := List.mem_map.mp member
    cases same
    exact ⟨message, List.mk_mem_zipIdx_iff_getElem?.mp listed,
      List.mk_mem_zipIdx_iff_getElem?.mp among⟩
  · rintro ⟨message, listed, among⟩
    exact ⟨(message, place.1), List.mk_mem_zipIdx_iff_getElem?.mpr listed,
      List.mem_map.mpr ⟨(call, place.2), List.mk_mem_zipIdx_iff_getElem?.mpr among, rfl⟩⟩

theorem transcriptCalls_unique {call other : Json}
    (member : (place, call) ∈ transcriptCalls messages)
    (among : (place, other) ∈ transcriptCalls messages) : call = other := by
  obtain ⟨_, listed, found⟩ := mem_transcriptCalls.mp member
  obtain ⟨_, again, shown⟩ := mem_transcriptCalls.mp among
  rw [listed, Option.some.injEq] at again
  rw [again] at found
  exact Option.some.inj (found.symm.trans shown)

theorem toolMessages_unique {place : Nat} {message other : Json}
    (member : (message, place) ∈ toolMessages messages)
    (among : (other, place) ∈ toolMessages messages) : message = other := by
  have first := List.mk_mem_zipIdx_iff_getElem?.mp (List.mem_filter.mp member).1
  have second := List.mk_mem_zipIdx_iff_getElem?.mp (List.mem_filter.mp among).1
  exact Option.some.inj (first.symm.trans second)

theorem toolAnswer_reads {message : Json} {answer : Option Json}
    (identity : isIdentity callId = true) (success : toolAnswer lib callId message = .ok answer) :
    decide (message.get? "tool_call_id" = some (.str callId)) = answer.isSome ∧
      ∀ value, answer = some value → ∃ content, message.get? "content" = some (.str content) ∧
        lib.loads content = some value := by
  have unnamed {other : Option Json} (answered : other ≠ some (.str callId))
      (found : toolAnswer.unnamed message = .ok answer) :
      decide (other = some (.str callId)) = answer.isSome ∧
        ∀ value, answer = some value → ∃ content, message.get? "content" = some (.str content) ∧
          lib.loads content = some value := by
    simp only [toolAnswer.unnamed, bind_eq_ok, require_eq_ok, pure_eq_ok] at found
    obtain ⟨_, _, rfl⟩ := found
    refine ⟨decide_eq_false answered, ?_⟩
    rintro _ ⟨⟩
  unfold toolAnswer at success
  split at success
  · next named =>
    rw [named]
    split at success
    · split at success
      · next same =>
        subst same
        split at success
        · next content given =>
          simp only [bind_eq_ok, require_eq_ok, orRaise_eq_ok, pure_eq_ok] at success
          obtain ⟨_, _, _, _, _, loaded, rfl⟩ := success
          refine ⟨decide_eq_true rfl, ?_⟩
          rintro _ ⟨⟩
          exact ⟨content, given, loaded⟩
        · cases success
      · next other =>
        cases success
        refine ⟨decide_eq_false ?_, ?_⟩
        · intro same
          exact other (Json.str.inj (Option.some.inj same))
        · rintro _ ⟨⟩
    · next invalid =>
      refine unnamed ?_ success
      rintro ⟨⟩
      exact invalid identity
  · next other => exact unnamed (other callId) success

/-- The transcript reports a result: one call was not rejected, and its one answer, the last of all
tool messages, accepts it. -/
structure TranscriptReport (lib : PyLibrary) (messages : List Json) (report : RoutineReport)
    (place : Nat × Nat) (call : Json) (callId : String) (response : Json) (answered : Nat) :
    Prop where
  single : (transcriptCalls messages).filter (fun entry => entry.2.isReported lib messages) =
    [(place, call)]
  last : (transcriptCalls messages).getLast? = some (place, call)
  identity : call.get? "id" = some (.str callId)
  answer : (toolMessages messages).filter
    (fun message => message.1.get? "tool_call_id" = some (.str callId)) = [(response, answered)]
  after : place.1 < answered
  final : (toolMessages messages).getLast? = some (response, answered)
  accepted : ∃ content result, response.get? "content" = some (.str content) ∧
    lib.loads content = some result ∧ result.get? "status" = some (.str "accepted")
  valued : ∃ arguments, call.resultArguments lib = some arguments ∧
    routineResultValue arguments = .ok report

theorem filter_eq_single {α β : Type} {related : α → β → Prop} {left : List α} {right : List β}
    {test : α → Bool} {check : β → Bool} {found : β} (pairs : List.Forall₂ related left right)
    (agree : ∀ item partner, related item partner → test item = check partner)
    (one : right.filter check = [found]) :
    ∃ item, left.filter test = [item] ∧ related item found := by
  have kept := Related.filter pairs agree
  rw [one] at kept
  cases single : left.filter test with
  | nil =>
    rw [single] at kept
    cases kept
  | cons item =>
    rw [single] at kept
    cases kept with
    | cons first others =>
      cases others
      exact ⟨item, rfl, first⟩

theorem filter_isSome_eq {α β : Type} (items : List (α × Option β)) :
    items.filter (fun item => item.2.isSome) =
      (items.filterMap fun item => item.2.map fun found => (item.1, found)).map
        fun pair => (pair.1, some pair.2) := by
  induction items with
  | nil => rfl
  | cons item _ ih =>
    obtain ⟨_, value⟩ := item
    cases value with
    | none => exact ih
    | some =>
      rw [List.filter_cons_of_pos rfl, ih, List.filterMap_cons]
      rfl

theorem scanned_isReported {entry : (Nat × Nat) × Json}
    {call : (Nat × Nat) × Option (String × Json)} (scanned : Scanned lib messages entry call) :
    entry.2.isReported lib messages = call.2.isSome := by
  obtain ⟨_, success⟩ := scanned
  cases found : call.2 with
  | none =>
    rw [found] at success
    exact (routineResultCall_none.mp success).2.1
  | some =>
    rw [found] at success
    exact (routineResultCall_some success).1

theorem routineResultFromTranscript_some {report : RoutineReport}
    (success : routineResultFromTranscript lib messages = .ok (some report)) :
    ∃ place call callId response answered,
      TranscriptReport lib messages report place call callId response answered := by
  unfold routineResultFromTranscript at success
  simp only [bind_eq_ok] at success
  obtain ⟨perMessage, scanned, success⟩ := success
  have entries : List.Forall₂ (Scanned lib messages) (transcriptCalls messages)
      perMessage.flatten := Related.flatMap (scannedCalls_eq_ok perMessage |>.mp scanned).2
  split at success
  · cases success
  · next place callId arguments one =>
    simp only [bind_eq_ok, require_eq_ok] at success
    obtain ⟨_, isLast, answers, answered, success⟩ := success
    have found := filter_isSome_eq perMessage.flatten
    rw [one] at found
    obtain ⟨⟨spot, call⟩, single, same, called⟩ :=
      filter_eq_single entries (fun _ _ => scanned_isReported) found
    dsimp only at same called
    subst same
    obtain ⟨_, wellFormed, identity, given⟩ := routineResultCall_some called
    have member : (place, call) ∈ transcriptCalls messages :=
      List.mem_of_mem_filter (by rw [single]; exact List.mem_singleton_self _)
    have lastCall : (transcriptCalls messages).getLast? = some (place, call) := by
      obtain ⟨final, isFinal, atPlace⟩ := Option.map_eq_some_iff.mp isLast
      obtain ⟨⟨spot, _⟩, isOther, placed, _⟩ := Related.getLast? entries final isFinal
      have here : spot = place := placed.symm.trans atPlace
      rw [here] at isOther
      rw [isOther, transcriptCalls_unique (List.mem_of_getLast? isOther) member]
    have valid := identity_isIdentity wellFormed identity
    have responses : List.Forall₂ (fun message answer => message.2 = answer.1 ∧
        toolAnswer lib callId message.1 = .ok answer.2) (toolMessages messages) answers := by
      refine List.Forall₂.imp ?_ ((Related.mapM_eq_ok _ _ _).mp answered)
      intro message answer made
      simp only [bind_eq_ok, pure_eq_ok] at made
      obtain ⟨_, read, rfl⟩ := made
      exact ⟨rfl, read⟩
    split at success
    · next result onlyAnswer =>
      simp only [bind_eq_ok, require_eq_ok, pure_eq_ok, Option.some.injEq] at success
      obtain ⟨_, after, _, isFinal, _, status, _, valued, rfl⟩ := success
      have shown := filter_isSome_eq answers
      rw [onlyAnswer] at shown
      obtain ⟨⟨response, there⟩, one, same, read⟩ := filter_eq_single responses
        (fun message answer both => (toolAnswer_reads valid both.2).1) shown
      dsimp only at same read
      subst same
      obtain ⟨content, kept, loaded⟩ := (toolAnswer_reads valid read).2 result rfl
      have lastAnswer : (toolMessages messages).getLast? = some (response, there) := by
        obtain ⟨⟨other, place⟩, isOther, here⟩ := Option.map_eq_some_iff.mp isFinal
        have here : place = there := here
        rw [here] at isOther
        have among : (response, there) ∈ toolMessages messages :=
          List.mem_of_mem_filter (by rw [one]; exact List.mem_singleton_self _)
        have final : (toolMessages messages).getLast? = some (other, there) := isOther
        rw [final, toolMessages_unique (List.mem_of_getLast? final) among]
      exact ⟨place, call, callId, response, there, single, lastCall, identity, one, after,
        lastAnswer, ⟨content, result, kept, loaded, status⟩, ⟨arguments, given, valued⟩⟩
    · cases success
  · cases success

/-- No call of the result tool stands: there is none, or all were rejected. -/
def NoReportedCall (lib : PyLibrary) (messages : List Json) : Prop :=
  ∀ entry ∈ transcriptCalls messages, entry.2.isReported lib messages = false

/-- The transcript can be read to its end: every assistant message lists its calls, every name can
be looked up, and every call of the result tool has its identity and its arguments. -/
structure IsReadable (lib : PyLibrary) (messages : List Json) : Prop where
  listed : ∀ message ∈ messages, message.listsCalls = true
  named : ∀ entry ∈ transcriptCalls messages, entry.2.isHashable = true
  written : ∀ entry ∈ transcriptCalls messages, entry.2.isResultCall lib = true →
    entry.2.isWellFormedCall = true

theorem routineResultFromTranscript_none :
    routineResultFromTranscript lib messages = .ok none ↔
      NoReportedCall lib messages ∧ IsReadable lib messages := by
  constructor
  · intro success
    unfold routineResultFromTranscript at success
    simp only [bind_eq_ok] at success
    obtain ⟨perMessage, scanned, success⟩ := success
    obtain ⟨listed, calls⟩ := (scannedCalls_eq_ok perMessage).mp scanned
    have entries : List.Forall₂ (Scanned lib messages) (transcriptCalls messages)
        perMessage.flatten := Related.flatMap calls
    split at success
    · next nothing =>
      have skipped : ∀ entry ∈ transcriptCalls messages,
          routineResultCall lib messages entry.2 = .ok none := by
        intro entry member
        obtain ⟨call, among, _, read⟩ := Related.exists_right entries entry member
        have unfound := List.filterMap_eq_nil_iff.mp nothing call among
        rw [Option.map_eq_none_iff] at unfound
        rw [read, unfound]
      exact ⟨fun entry member => (routineResultCall_none.mp (skipped entry member)).2.1, listed,
        fun entry member => (routineResultCall_none.mp (skipped entry member)).1,
        fun entry member => (routineResultCall_none.mp (skipped entry member)).2.2⟩
    · simp only [bind_eq_ok] at success
      obtain ⟨_, _, _, _, success⟩ := success
      split at success
      · simp only [bind_eq_ok, pure_eq_ok] at success
        obtain ⟨_, _, _, _, _, _, _, _, none⟩ := success
        cases none
      · cases success
    · cases success
  · rintro ⟨unreported, readable⟩
    have skipped : ∀ entry ∈ transcriptCalls messages,
        routineResultCall lib messages entry.2 = .ok none := fun entry member =>
      routineResultCall_none.mpr ⟨readable.named entry member, unreported entry member,
        readable.written entry member⟩
    have each : ∀ message ∈ messages.zipIdx, ∃ calls, List.Forall₂ (Scanned lib messages)
        ((assistantCalls message.1).zipIdx.map fun call => ((message.2, call.2), call.1))
        calls := by
      intro message listed
      refine Related.exists_related fun entry member => ?_
      exact ⟨(entry.1, none), rfl, skipped entry (List.mem_flatMap.mpr ⟨message, listed, member⟩)⟩
    obtain ⟨perMessage, calls⟩ := Related.exists_related each
    have scanned := (scannedCalls_eq_ok perMessage).mpr ⟨readable.listed, calls⟩
    have entries : List.Forall₂ (Scanned lib messages) (transcriptCalls messages)
        perMessage.flatten := Related.flatMap calls
    have nothing : (perMessage.flatten.filterMap fun call =>
        call.2.map fun found => (call.1, found)) = [] := by
      refine List.filterMap_eq_nil_iff.mpr fun call among => ?_
      obtain ⟨entry, member, _, read⟩ := Related.exists_left entries call among
      rw [skipped entry member] at read
      rw [← Except.ok.inj read]
      rfl
    rw [routineResultFromTranscript, scanned, ok_bind]
    dsimp only
    rw [nothing]
    rfl

end Scan

/-- A scan reports the one call that stands, finds nothing, or raises. -/
theorem routine_transcripts_are_sound (lib : PyLibrary) (messages : List Json) :
    (∀ report, routineResultFromTranscript lib messages = .ok (some report) →
      ∃ place call callId response answered,
        TranscriptReport lib messages report place call callId response answered) ∧
    (routineResultFromTranscript lib messages = .ok none ↔
      NoReportedCall lib messages ∧ IsReadable lib messages) ∧
    ((∀ report, routineResultFromTranscript lib messages ≠ .ok (some report)) →
      ¬ (NoReportedCall lib messages ∧ IsReadable lib messages) →
      ∃ fault, routineResultFromTranscript lib messages = .error fault) := by
  refine ⟨fun report => routineResultFromTranscript_some, routineResultFromTranscript_none, ?_⟩
  intro unreported unread
  cases scanned : routineResultFromTranscript lib messages with
  | error fault => exact ⟨fault, rfl⟩
  | ok found =>
    cases found with
    | none => exact absurd (routineResultFromTranscript_none.mp scanned) unread
    | some report => exact absurd scanned (unreported report)

/-! ## Transcripts -/

def assistantMessage (calls : List Json) : Json :=
  .obj [("role", .str "assistant"), ("tool_calls", .arr calls)]

def wrapperCall (callId arguments : String) : Json :=
  .obj [("id", .str callId),
    ("function", .obj [("name", .str "tool_call"), ("arguments", .str arguments)])]

def toolMessage (callId tool content : String) : Json :=
  .obj [("role", .str "tool"), ("tool_call_id", .str callId), ("tool_name", .str tool),
    ("content", .str content)]

/-- What the wrappers of the transcript hold, and their answers. -/
def transcriptTexts : List (String × Json) :=
  [("\x7b\"name\":\"allies_routine_result\"\x7d",
      .obj [("name", .str "allies_routine_result")]),
    ("\x7b\"error\":\"missing required arguments\"\x7d",
      .obj [("error", .str "missing required arguments")]),
    ("\x7b\"name\":\"allies_routine_result\",\"arguments\":" ++
        "\x7b\"outcome\":\"changed\",\"text\":\"done\",\"references\":[]\x7d\x7d",
      .obj [("name", .str "allies_routine_result"),
        ("arguments", .obj [("outcome", .str "changed"), ("text", .str "done"),
          ("references", .arr [])])]),
    ("\x7b\"status\":\"accepted\"\x7d", .obj [("status", .str "accepted")])]

/-- A wrapper is rejected, the next one is accepted, and the assistant goes on talking. -/
def retriedTranscript : List Json :=
  let text (place : Nat) := ((transcriptTexts.map Prod.fst)[place]?).getD ""
  [assistantMessage [wrapperCall "first" (text 0)], toolMessage "first" "tool_call" (text 1),
    assistantMessage [wrapperCall "second" (text 2)],
    toolMessage "second" "allies_routine_result" (text 3), assistantMessage []]

theorem retried_transcript_is_reported :
    ∃ report place call callId response answered,
      routineResultFromTranscript (PyLibrary.reading transcriptTexts) retriedTranscript =
        .ok (some report) ∧ report.text = "done" ∧
      TranscriptReport (PyLibrary.reading transcriptTexts) retriedTranscript report place call
        callId response answered := by
  have scanned : ((routineResultFromTranscript (PyLibrary.reading transcriptTexts)
      retriedTranscript).toOption.join.map RoutineReport.text) = some "done" := by
    decide +kernel
  obtain ⟨report, found, text⟩ := Option.map_eq_some_iff.mp scanned
  rw [Option.join_eq_some_iff, toOption_eq_some] at found
  obtain ⟨place, call, callId, response, answered, sound⟩ :=
    (routine_transcripts_are_sound (PyLibrary.reading transcriptTexts) retriedTranscript).1 report
      found
  exact ⟨report, place, call, callId, response, answered, found, text, sound⟩

/-- A transcript without any tool call raises, where an assistant message has no list of calls. -/
theorem unlisted_calls_raise :
    NoReportedCall (PyLibrary.reading [])
        [.obj [("role", .str "assistant"), ("tool_calls", .obj [])]] ∧
      routineResultFromTranscript (PyLibrary.reading [])
        [.obj [("role", .str "assistant"), ("tool_calls", .obj [])]] =
        .error (malformed "Hermes routine result assistant tool calls were invalid") := by
  refine ⟨?_, rfl⟩
  rintro _ ⟨⟩

end Foundry
