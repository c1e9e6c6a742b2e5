import Foundry.Lib.Table
import Foundry.Model.Payloads

/-!
# Coalesced deltas

`_CoalescedStream` of `foundry.py` over an inner stream that is known in advance.  A read is a task
that survives the waits which the window cuts off.
-/

set_option autoImplicit false

namespace Foundry.Coalescing

/-- `HermesEvent`, with its payload as it comes. -/
structure HermesEvent where
  name : String
  profileId : String
  sessionId : String
  runId : String
  sequence : Int
  payload : Table String Json

/-- What the inner stream yields: an event, or any other object. -/
inductive Item (Foreign : Type) where
  | event (event : HermesEvent)
  | foreign (value : Foreign)

def textPayload (text : String) : Table String Json :=
  AList.singleton "text" (.str text)

/-- `_delta_text` of an event. -/
def HermesEvent.deltaText (event : HermesEvent) : Option String :=
  if event.name = "message.delta" then
    match event.payload.entries with
    | [⟨"text", .str text⟩] => some text
    | _ => none
  else none

/-- `_delta_text`. -/
def Item.deltaText {Foreign : Type} : Item Foreign → Option String
  | .event source => source.deltaText
  | .foreign _ => none

inductive ReadResult (Foreign Error : Type) where
  | item (item : Item Foreign)
  | raised (error : Error)
  /-- `StopAsyncIteration`, or the read was cancelled. -/
  | ended
  | timedOut

/-- What `__anext__` gives. -/
inductive Outcome (Foreign Error : Type) where
  | yields (item : Item Foreign)
  | raises (error : Error)
  | stops
  /-- `_flush` without a buffer. -/
  | crashes

structure CoalescedStream (Foreign Error : Type) where
  /-- What the inner stream has not been asked for, and how it ends. -/
  inner : List (Item Foreign)
  ending : Option Error
  maxBytes : Int
  /-- The task of a read, with what it will give. -/
  pending : Option (ReadResult Foreign Error)
  buffer : List HermesEvent
  bufferBytes : Nat
  held : Option (Item Foreign)
  error : Option Error
  done : Bool
  firstDeltaSent : Bool
  /-- Whether the window cuts off the next waits that have a deadline. -/
  timeouts : List Bool

inductive Ending (Error : Type) where
  | stopped
  | raised (error : Error)
  | crashed

/-- One turn of the loop of `__anext__`. -/
inductive Turn (Foreign Error : Type) where
  | continues (next : CoalescedStream Foreign Error)
  | returns (outcome : Outcome Foreign Error) (next : CoalescedStream Foreign Error)

namespace CoalescedStream

variable {Foreign Error : Type}

def start (inner : List (Item Foreign)) (ending : Option Error) (maxBytes : Int)
    (timeouts : List Bool) : CoalescedStream Foreign Error :=
  ⟨inner, ending, maxBytes, none, [], 0, none, none, false, false, timeouts⟩

/-- `self._iterator.__anext__()`. -/
def innerNext (stream : CoalescedStream Foreign Error) :
    ReadResult Foreign Error × CoalescedStream Foreign Error :=
  match stream.inner with
  | item :: rest => (.item item, { stream with inner := rest })
  | [] =>
    match stream.ending with
    | some error => (.raised error, stream)
    | none => (.ended, stream)

def ensureFuture (stream : CoalescedStream Foreign Error) :
    ReadResult Foreign Error × CoalescedStream Foreign Error :=
  match stream.pending with
  | some result => (result, stream)
  | none => stream.innerNext

/-- `_next`, which waits for the read with the timeout of the buffer. -/
def next (stream : CoalescedStream Foreign Error) :
    ReadResult Foreign Error × CoalescedStream Foreign Error :=
  let (result, started) := stream.ensureFuture
  if started.buffer.isEmpty then (result, { started with pending := none })
  else if started.timeouts.headD false then
    (.timedOut, { started with pending := some result, timeouts := started.timeouts.tail })
  else (result, { started with pending := none, timeouts := started.timeouts.tail })

/-- The event that `_flush` makes of a buffer. -/
def merged (first : HermesEvent) (others : List HermesEvent) : HermesEvent :=
  let text := String.join ((first :: others).map fun event => event.deltaText.getD "")
  if text = first.deltaText.getD "" then first else { first with payload := textPayload text }

/-- `_flush`; the buffer that the caller puts in its place is empty, or a delta. -/
def flush (stream : CoalescedStream Foreign Error) (buffer : List HermesEvent)
    (bufferBytes : Nat) (held : Option (Item Foreign)) : Turn Foreign Error :=
  match stream.buffer with
  | first :: others =>
    .returns (.yields (.event (merged first others)))
      { stream with buffer := buffer, bufferBytes := bufferBytes, held := held }
  | [] => .returns .crashes stream

def joins (stream : CoalescedStream Foreign Error) (event : HermesEvent) (size : Nat) : Bool :=
  match stream.buffer with
  | [] => true
  | first :: _ =>
    first.sessionId == event.sessionId && first.runId == event.runId &&
      first.profileId == event.profileId &&
      decide (((stream.bufferBytes + size : Nat) : Int) ≤ stream.maxBytes)

def takeDelta (stream : CoalescedStream Foreign Error) (event : HermesEvent) (text : String) :
    Turn Foreign Error :=
  if stream.firstDeltaSent = false then
    .returns (.yields (.event event)) { stream with firstDeltaSent := true }
  else if stream.joins event text.utf8ByteSize then
    .continues
      { stream with
        buffer := stream.buffer ++ [event]
        bufferBytes := stream.bufferBytes + text.utf8ByteSize }
  else stream.flush [event] text.utf8ByteSize none

def take (stream : CoalescedStream Foreign Error) (item : Item Foreign) : Turn Foreign Error :=
  match item, item.deltaText with
  | .event event, some text => stream.takeDelta event text
  | _, _ =>
    if stream.buffer.isEmpty then .returns (.yields item) stream
    else stream.flush [] 0 (some item)

/-- One turn of `while True`. -/
def turn (stream : CoalescedStream Foreign Error) : Turn Foreign Error :=
  if stream.done then
    if stream.buffer.isEmpty then
      match stream.error with
      | some error => .returns (.raises error) { stream with error := none }
      | none => .returns .stops stream
    else stream.flush [] 0 none
  else
    match stream.next with
    | (.raised error, read) => .continues { read with done := true, error := some error }
    | (.timedOut, read) => read.flush [] 0 none
    | (.ended, read) => .continues { read with done := true }
    | (.item item, read) => read.take item

end CoalescedStream

/-! ## Turns come to an end -/

def ReadResult.weight {Foreign Error : Type} : ReadResult Foreign Error → Nat
  | .item _ => 2
  | _ => 0

namespace CoalescedStream

variable {Foreign Error : Type}

/-- The events to come, those that are not in the buffer yet counted twice, and the end. -/
def weight (stream : CoalescedStream Foreign Error) : Nat :=
  2 * stream.inner.length + stream.buffer.length + stream.held.toList.length +
    (stream.pending.map ReadResult.weight).getD 0 + (if stream.done then 0 else 1)

variable {stream read after : CoalescedStream Foreign Error} {result : ReadResult Foreign Error}

theorem innerNext_eq (reads : stream.innerNext = (result, read)) :
    read.weight + result.weight = stream.weight ∧ read.buffer = stream.buffer ∧
      read.done = stream.done ∧ read.pending = stream.pending := by
  unfold innerNext at reads
  split at reads
  · next inner =>
    cases reads
    refine ⟨?_, rfl, rfl, rfl⟩
    simp only [weight, inner, List.length_cons, ReadResult.weight]
    omega
  · split at reads
    all_goals
      cases reads
      exact ⟨rfl, rfl, rfl, rfl⟩

theorem ensureFuture_eq (starts : stream.ensureFuture = (result, read)) :
    weight { read with pending := none } + result.weight = stream.weight ∧
      read.buffer = stream.buffer ∧ read.done = stream.done := by
  unfold ensureFuture at starts
  split at starts
  · next pending =>
    cases starts
    refine ⟨?_, rfl, rfl⟩
    simp only [weight, pending, Option.map_some, Option.getD_some, Option.map_none,
      Option.getD_none]
    omega
  · next pending =>
    obtain ⟨weights, buffer, done, same⟩ := innerNext_eq starts
    refine ⟨?_, buffer, done⟩
    rw [pending] at same
    rw [← weights]
    simp only [weight, same]

theorem next_eq (reads : stream.next = (result, read)) :
    read.weight + result.weight = stream.weight ∧ read.buffer = stream.buffer ∧
      read.done = stream.done := by
  cases starts : stream.ensureFuture with
  | mk =>
    obtain ⟨weights, buffer, done⟩ := ensureFuture_eq starts
    simp only [next, starts] at reads
    split at reads
    · cases reads
      exact ⟨weights, buffer, done⟩
    split at reads
    · cases reads
      refine ⟨?_, buffer, done⟩
      simp only [weight, ReadResult.weight, Option.map_some, Option.getD_some, Option.map_none,
        Option.getD_none] at weights ⊢
      omega
    · cases reads
      exact ⟨weights, buffer, done⟩

section

variable {buffer : List HermesEvent} {bytes : Nat} {held : Option (Item Foreign)}

theorem flush_weight {item : Item Foreign}
    (flushes : stream.flush buffer bytes held = .returns (.yields item) after) :
    after.weight + stream.buffer.length + stream.held.toList.length =
      stream.weight + buffer.length + held.toList.length := by
  unfold flush at flushes
  split at flushes
  · cases flushes
    simp only [weight]
    omega
  · cases flushes

theorem flush_returns :
    stream.flush buffer bytes held ≠ .continues after := by
  unfold flush
  split
  all_goals
    intro continues
    cases continues

end

theorem take_weight (item : Item Foreign) :
    (stream.take item = .continues after → after.weight < stream.weight + 2) ∧
      ∀ yielded, stream.take item = .returns (.yields yielded) after →
        after.weight < stream.weight + 2 := by
  unfold take
  split
  · unfold takeDelta
    split
    · refine ⟨(by rintro ⟨⟩), ?_⟩
      intro yielded returns
      cases returns
      simp only [weight]
      omega
    split
    · refine ⟨?_, (by rintro yielded ⟨⟩)⟩
      intro continues
      cases continues
      simp only [weight, List.length_append, List.length_cons, List.length_nil]
      omega
    · refine ⟨fun continues => absurd continues flush_returns, ?_⟩
      intro yielded flushes
      have weights := flush_weight flushes
      simp only [List.length_cons, List.length_nil, Option.toList_none] at weights
      omega
  · split
    · refine ⟨(by rintro ⟨⟩), ?_⟩
      intro yielded returns
      cases returns
      omega
    · refine ⟨fun continues => absurd continues flush_returns, ?_⟩
      intro yielded flushes
      have weights := flush_weight flushes
      simp only [List.length_nil, Option.toList_some, List.length_cons] at weights
      omega

theorem turn_weight :
    (stream.turn = .continues after → after.weight < stream.weight) ∧
      ∀ yielded, stream.turn = .returns (.yields yielded) after → after.weight < stream.weight := by
  have flushed : ∀ {read : CoalescedStream Foreign Error} {yielded},
      read.flush [] 0 none = .returns (.yields yielded) after → after.weight < read.weight := by
    intro read yielded flushes
    have weights := flush_weight flushes
    have filled : read.buffer.length ≠ 0 := by
      intro empty
      rw [flush, List.length_eq_zero_iff.mp empty] at flushes
      cases flushes
    simp only [List.length_nil, Option.toList_none] at weights
    omega
  unfold turn
  split
  · split
    · split
      all_goals
        exact ⟨(by rintro ⟨⟩), (by rintro yielded ⟨⟩)⟩
    · exact ⟨fun continues => absurd continues flush_returns, fun yielded => flushed⟩
  · next running =>
    split
    · next reads =>
      obtain ⟨weights, _, done⟩ := next_eq reads
      refine ⟨?_, (by rintro yielded ⟨⟩)⟩
      intro continues
      cases continues
      simp only [weight, ReadResult.weight, done, if_neg running, if_true] at weights ⊢
      omega
    · next reads =>
      obtain ⟨weights, _⟩ := next_eq reads
      refine ⟨fun continues => absurd continues flush_returns, ?_⟩
      intro yielded flushes
      have less := flushed flushes
      simp only [ReadResult.weight] at weights
      omega
    · next reads =>
      obtain ⟨weights, _, done⟩ := next_eq reads
      refine ⟨?_, (by rintro yielded ⟨⟩)⟩
      intro continues
      cases continues
      simp only [weight, ReadResult.weight, done, if_neg running, if_true] at weights ⊢
      omega
    · next item read reads =>
      obtain ⟨weights, _⟩ := next_eq reads
      simp only [ReadResult.weight] at weights
      have less := @take_weight Foreign Error read after item
      rw [weights] at less
      exact less

/-! ## The whole stream -/

/-- `while True` in `__anext__`. -/
def loop (stream : CoalescedStream Foreign Error) :
    Outcome Foreign Error × CoalescedStream Foreign Error :=
  match _turned : stream.turn with
  | .returns outcome after => (outcome, after)
  | .continues after => after.loop
termination_by stream.weight
decreasing_by exact turn_weight.1 _turned

/-- `__anext__`. -/
def anext (stream : CoalescedStream Foreign Error) :
    Outcome Foreign Error × CoalescedStream Foreign Error :=
  match stream.held with
  | some item => (.yields item, { stream with held := none })
  | none => stream.loop

variable {yielded : Item Foreign}

theorem loop_weight (yields : stream.loop = (.yields yielded, after)) :
    after.weight < stream.weight := by
  induction stream using loop.induct with
  | case1 _ _ next turned =>
    rw [loop] at yields
    split at yields
    · next turns =>
      cases yields
      exact turn_weight.2 yielded turns
    · next turns =>
      rw [turned] at turns
      cases turns
  | case2 _ next turned ih =>
    rw [loop] at yields
    split at yields
    · next turns =>
      rw [turned] at turns
      cases turns
    · next turns =>
      rw [turned] at turns
      cases turns
      exact Nat.lt_trans (ih yields) (turn_weight.1 turned)

theorem anext_weight (yields : stream.anext = (.yields yielded, after)) :
    after.weight < stream.weight := by
  unfold anext at yields
  split at yields
  · next held =>
    cases yields
    simp only [weight, held, Option.toList_some, Option.toList_none, List.length_cons]
    omega
  · exact loop_weight yields

/-- `async for` over the stream: what it yields, and how it ends. -/
def drain (stream : CoalescedStream Foreign Error) : List (Item Foreign) × Ending Error :=
  match _step : stream.anext with
  | (.yields item, after) => (item :: after.drain.1, after.drain.2)
  | (.raises error, _) => ([], .raised error)
  | (.stops, _) => ([], .stopped)
  | (.crashes, _) => ([], .crashed)
termination_by stream.weight
decreasing_by exact anext_weight _step

end CoalescedStream

end Foundry.Coalescing
