import Foundry.System
import Foundry.Worker.Errors

/-!
# `_run_claim` and the events it numbers

`FoundryWorker._run_claim` of an ordinary claim: how it numbers the events of its attempt,
which requests it sends for them, and what it does about each answer.  The steps between two
requests, Hermes and the renewal task are inputs.  `ClaimWorld` is that run against the
services, where a request may be answered, be refused before a service saw it, lose its
response, or arrive late.
-/

set_option autoImplicit false

namespace Foundry

/-! ## Requests -/

/-- What `complete` sends besides its number. -/
structure Completion where
  runId : String
  historyVerified : Bool
  binding : SessionRequest
deriving DecidableEq, Repr

inductive Post where
  | event (sequence : Nat) (payload : EventPayload)
  | complete (sequence : Nat) (completion : Completion)
  /-- The report of the fallback. -/
  | fail (sequence : Nat) (code : String)
  /-- The report of an exhausted event budget, under the reserved sequence. -/
  | exhausted
deriving DecidableEq, Repr

namespace Post

def sequence : Post → Nat
  | .event sequence _ | .complete sequence _ | .fail sequence _ => sequence
  | .exhausted => maxTerminalSequence

def payload : Post → EventPayload
  | .event _ payload => payload
  | .complete _ completion => .completed completion.runId
  | .fail _ code => .failed code false
  | .exhausted => .failed "event_budget_exhausted" false

def isReport : Post → Bool
  | .fail _ _ => true
  | _ => false

end Post

def Completion.receipt (completion : Completion) : Json :=
  .obj (("code", .str "ok") ::
    if completion.historyVerified then [("history_verified", .bool true)] else [])

def EventPayload.isStreamed : EventPayload → Bool
  | .messageDelta _ | .activityStarted _ | .activityCompleted _ | .awaitingApproval _
  | .approvalResolved _ _ => true
  | _ => false

/-! ## The run -/

/-- What still surrounds a `stopped` request. -/
inductive StopSite where
  /-- The `try`, whose clauses catch its errors. -/
  | body
  /-- An `except FoundryError` of its own inside the `try`. -/
  | guarded
  /-- An `except FoundryError` of its own in a clause. -/
  | handler
deriving DecidableEq, Repr

inductive ClaimPoint where
  | preparing
  | streaming
  | awaiting (post : Post) (resent : Bool)
  | stopping (reason : String) (site : StopSite)
  | returned
deriving DecidableEq, Repr

structure ClaimRun where
  point : ClaimPoint
  sequence : Nat
  lost : Bool
deriving DecidableEq, Repr

inductive ClaimInput where
  /-- The preparation is done. -/
  | dispatch
  /-- The next event of the stream. -/
  | streamed (payload : EventPayload)
  /-- The stream ended with a terminal event. -/
  | finished (completion : Completion)
  /-- A local step raised. -/
  | raised (error : ClaimError)
  | bootstrapLost
  | bindingRepair
  /-- The loop over the stream was left because the lease was lost. -/
  | leftStream
  /-- The renewal task sets `lost`. -/
  | leaseLost
  | cancelled
  /-- The awaited answer. -/
  | answered (answer : Except FoundryError Unit)

namespace ClaimRun

def begun : ClaimRun := ⟨.preparing, 0, false⟩

/-- `_retry_response_loss` sends the request. -/
def send (post : Post) (run : ClaimRun) : ClaimRun := { run with point := .awaiting post false }

def sendNext (post : Nat → Post) (run : ClaimRun) : ClaimRun :=
  { run with sequence := run.sequence + 1 }.send (post (run.sequence + 1))

def stop (reason : String) (site : StopSite) (run : ClaimRun) : ClaimRun :=
  { run with point := .stopping reason site }

def leave (run : ClaimRun) : ClaimRun := { run with point := .returned }

def lose (run : ClaimRun) : ClaimRun := { run with lost := true }

/-- `except (FoundryError, HermesError)`: a lost or fenced lease is only stopped, any other
error is reported under the next number, inside the reserved terminal slot. -/
def fallback (error : ClaimError) (run : ClaimRun) : ClaimRun :=
  if run.lost = true ∨ error.isFencing = true then run.stop "lease_lost" .handler
  else
    let sequence := min (max (run.sequence + 1) 1) maxTerminalSequence
    { run with sequence := sequence }.send (.fail sequence error.code)

def accepted (run : ClaimRun) : Post → ClaimRun
  | .event _ _ => { run with point := .streaming }
  | .complete _ _ | .fail _ _ | .exhausted => run.leave

/-- The request raised, with a lost response for the second time. -/
def refused (error : FoundryError) (run : ClaimRun) : Post → ClaimRun
  | .event _ payload =>
    if error.errorClass = .responseLoss then
      if payload = .dispatched then run.stop "dispatch_response_lost" .body
      else run.lose.stop "event_response_lost" .guarded
    else run.fallback (.foundry error)
  | .complete _ _ =>
    if error.errorClass = .responseLoss then run.lose.stop "complete_response_lost" .guarded
    else run.fallback (.foundry error)
  | .fail _ _ =>
    if error.errorClass = .responseLoss then run.lose.stop "fail_response_lost" .handler
    else run.leave
  | .exhausted => run.leave

/-- The answer to the awaited request; a lost response is replayed once. -/
def answered (run : ClaimRun) (post : Post) (resent : Bool) :
    Except FoundryError Unit → ClaimRun
  | .ok () => run.accepted post
  | .error error =>
    if error.errorClass = .responseLoss ∧ resent = false then
      { run with point := .awaiting post true }
    else run.refused error post

/-- The answer to `stopped`. -/
def stopAnswered (run : ClaimRun) (site : StopSite) : Except FoundryError Unit → ClaimRun
  | .ok () => run.leave
  | .error error => if site = .body then run.fallback (.foundry error) else run.leave

/-- `except asyncio.CancelledError`, which the clauses themselves are not under. -/
def cancel (run : ClaimRun) : ClaimRun :=
  match run.point with
  | .awaiting (.fail _ _) _ | .stopping _ .handler => run.leave
  | _ => run.stop "cancelled" .handler

/-- Where the run goes from an input; `none` where the input cannot come. -/
def resume (run : ClaimRun) (input : ClaimInput) : Option ClaimRun :=
  match run.point, input with
  | .returned, _ => none
  | _, .leaseLost => some run.lose
  | _, .cancelled => some run.cancel
  | .preparing, .dispatch => some (run.sendNext (.event · .dispatched))
  | .preparing, .bootstrapLost => some (run.stop "bootstrap_response_lost" .handler)
  | .preparing, .raised error => some (run.fallback error)
  | .streaming, .raised error => some (run.fallback error)
  | .streaming, .bindingRepair => some (run.stop "binding_repair_required" .body)
  | .streaming, .leftStream => if run.lost then some (run.stop "lease_lost" .body) else none
  | .streaming, .streamed payload =>
    if run.lost = true ∨ payload.isStreamed = false then none
    else if maxRuntimeEventSequence ≤ run.sequence then some (run.send .exhausted)
    else some (run.sendNext (.event · payload))
  | .streaming, .finished completion =>
    if run.lost then none else some (run.sendNext (.complete · completion))
  | .awaiting post resent, .answered answer => some (run.answered post resent answer)
  | .stopping _ site, .answered answer => some (run.stopAnswered site answer)
  | _, _ => none

def newPost (before after : ClaimRun) : List Post :=
  match after.point with
  | .awaiting post resent => if before.point = .awaiting post resent then [] else [post]
  | _ => []

end ClaimRun

/-! ## The services -/

structure ClaimGrant where
  context : RuntimeContext
  attempt : AttemptId
  leaseToken : String
  streamId : String
  /-- `deterministic_event_id` of the attempt and its stream. -/
  eventId : Nat → Uuid

/-- The calls that store an event of an ordinary attempt for its runtime. -/
def Operation.posts {D : Type} : Operation D → Option AttemptId
  | .appendRuntimeEvent _ attempt _ _ | .completeAttempt _ attempt _ _ _
  | .failAttempt _ attempt _ _ _ => some attempt
  | _ => none

section Handling

variable {D : Type} [DecidableEq D] (env : Env D) (now : Instant) (grant : ClaimGrant)

def ClaimGrant.fail (sequence : Nat) (code : String) (db : Db D) :
    Except RuntimeError (TerminalReceipt × Db D) :=
  failAttempt env now grant.context grant.attempt grant.leaseToken
    ⟨code, false, some (.obj [("code", .str code)])⟩
    (some ⟨grant.eventId sequence, grant.streamId, sequence, .failed code false⟩) db

/-- What the endpoint of a request does.  A completion binds its session in the same
transaction. -/
def Post.handle (post : Post) (db : Db D) : Except RuntimeError (Db D) :=
  match post with
  | .event sequence payload => do
      let (_, next) ← appendRuntimeEvent env now grant.context grant.attempt grant.leaseToken
        ⟨grant.eventId sequence, grant.streamId, sequence, payload⟩ db
      return next
  | .complete sequence completion => do
      let (_, bound) ← updateSessionBinding env now grant.context grant.attempt grant.leaseToken
        completion.binding db
      let (_, next) ← completeAttempt env now grant.context grant.attempt grant.leaseToken
        completion.receipt
        (some ⟨grant.eventId sequence, grant.streamId, sequence, .completed completion.runId⟩)
        bound
      return next
  | .fail sequence code => do
      let (_, next) ← grant.fail env now sequence code db
      return next
  | .exhausted => do
      let (_, next) ← grant.fail env now maxTerminalSequence "event_budget_exhausted" db
      return next

end Handling

/-! ## The run against the services -/

/-- The database, the run, and every numbered request it has sent. -/
structure ClaimWorld (D : Type) where
  db : Db D
  run : ClaimRun
  sent : List Post

inductive ClaimHappening (D : Type) where
  /-- A call of anybody else; only the worker has the lease token of its attempt. -/
  | elsewhere (call : Call D)
  /-- The run goes on by itself, or with an answer to `stopped`. -/
  | proceeds (input : ClaimInput)
  /-- A copy of a request is handled; its answer is not read. -/
  | arrives (now : Instant) (post : Post)
  /-- The awaited request is handled, and its answer is read. -/
  | answers (now : Instant)
  /-- The awaited request raises without an answer of the services. -/
  | refuses (error : FoundryError)

namespace ClaimWorld

variable {D : Type}

def goes (world : ClaimWorld D) (next : ClaimRun) : ClaimWorld D :=
  { world with run := next, sent := world.sent ++ world.run.newPost next }

variable [DecidableEq D] (env : Env D) (grant : ClaimGrant)

def step (world : ClaimWorld D) : ClaimHappening D → Option (ClaimWorld D)
  | .elsewhere call =>
    if call.operation.posts = some grant.attempt then none
    else some { world with db := Foundry.step env world.db call }
  | .proceeds input =>
    match world.run.point, input with
    | .awaiting _ _, .answered _ => none
    | _, _ => (world.run.resume input).map world.goes
  | .arrives now post =>
    if post ∈ world.sent then
      match post.handle env now grant world.db with
      | .ok next => some { world with db := next }
      | .error _ => some world
    else none
  | .answers now =>
    match world.run.point with
    | .awaiting post resent =>
      match post.handle env now grant world.db with
      | .ok next =>
        some ({ world with db := next }.goes (world.run.answered post resent (.ok ())))
      | .error error =>
        some (world.goes (world.run.answered post resent (.error error.received)))
    | _ => none
  | .refuses error =>
    match world.run.point with
    | .awaiting post resent => some (world.goes (world.run.answered post resent (.error error)))
    | _ => none

def apply (happening : ClaimHappening D) (world : ClaimWorld D) :
    Except Unit (Unit × ClaimWorld D) :=
  match world.step env grant happening with
  | some next => .ok ((), next)
  | none => .error ()

def after (world : ClaimWorld D) (happenings : List (ClaimHappening D)) : ClaimWorld D :=
  Run.run (apply env grant) world happenings

omit [DecidableEq D] in
def begun (db : Db D) : ClaimWorld D := ⟨db, .begun, []⟩

end ClaimWorld

end Foundry
