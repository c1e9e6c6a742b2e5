import Foundry.System

/-!
# The publish loop

`publish_pending_event_deliveries`: a batch is claimed, each envelope is posted to Cloud, and the
answer is recorded.  Between the transactions of the loop other callers come in.
-/

set_option autoImplicit false

namespace Foundry

open Raise

variable {D : Type}

/-! ## Error codes -/

/-- `str.islower` and `str.isalnum` of one character. -/
structure CharClasses where
  isLower : Char → Bool
  isAlnum : Char → Bool
  lower_ascii : ∀ letter : Char, letter.toNat < 128 → isLower letter = letter.isLower
  alnum_ascii : ∀ letter : Char, letter.toNat < 128 → isAlnum letter = letter.isAlphanum

/-- `_safe_error_code`. -/
def isFilteredCode (classes : CharClasses) (value : String) : Bool :=
  match value.toList with
  | [] => false
  | first :: rest =>
    rest.length ≤ 63 && classes.isLower first &&
      (first :: rest).all fun letter =>
        classes.isAlnum letter || letter = '_' || letter = '-'

def Env.filteringCodes (env : Env D) (classes : CharClasses) : Env D :=
  { env with isSafeErrorCode := isFilteredCode classes }

/-! ## Answers of Cloud -/

def Json.isTruthy : Json → Bool
  | .null => false
  | .bool value => value
  | .int value => value ≠ 0
  | .float literal => literal ≠ "0.0" && literal ≠ "-0.0"
  | .str value => value ≠ ""
  | .arr items => !items.isEmpty
  | .obj members => !members.isEmpty

inductive CloudBody where
  | tooLarge
  /-- Not JSON in UTF-8. -/
  | undecodable
  | json (value : Json)
deriving DecidableEq

/-- What `_post_to_cloud` meets. -/
inductive PostOutcome where
  | disabled
  | envelopeInvalid
  | notConfigured
  /-- A time-out or an error of the connection. -/
  | unavailable
  /-- A response that `urllib` opens; the receipt is the event id of a valid one. -/
  | response (status : Nat) (body : CloudBody) (receipt : Option Uuid)
  /-- An `HTTPError`. -/
  | failure (status : Nat) (body : CloudBody)
deriving DecidableEq

/-- `_safe_response_code`. -/
def safeResponseCode (env : Env D) (body : CloudBody) : String :=
  match body with
  | .json (.obj members) =>
    let value := (Json.obj members).get? "code"
    match if value.any Json.isTruthy then value else (Json.obj members).get? "status" with
    | some (.str code) => if env.isSafeErrorCode code then code else ""
    | _ => ""
  | _ => ""

/-- `_post_to_cloud` of an event. -/
def PostOutcome.answer (env : Env D) (eventId : Uuid) : PostOutcome → Nat × String
  | .disabled => (503, "delivery_disabled")
  | .envelopeInvalid => (503, "delivery_envelope_invalid")
  | .notConfigured => (503, "delivery_not_configured")
  | .unavailable => (503, "delivery_unavailable")
  | .response status body receipt =>
    if body = .tooLarge then (503, "delivery_response_too_large")
    else if status = 202 then
      match receipt with
      | none => (503, "delivery_receipt_invalid")
      | some receipt =>
        if receipt ≠ eventId then (503, "delivery_receipt_mismatch") else (202, "")
    else (status, safeResponseCode env body)
  | .failure status body =>
    if body = .tooLarge then (status, "delivery_response_too_large")
    else (status, safeResponseCode env body)

/-! ## The report -/

structure DeliveryReport where
  claimed : Nat
  delivered : Nat
  deferred : Nat
  exhausted : Nat
  repairPending : Nat
  recovered : Nat
deriving DecidableEq, Repr

namespace DeliveryReport

variable (report : DeliveryReport)

def empty (claimed : Nat) : DeliveryReport := ⟨claimed, 0, 0, 0, 0, 0⟩

def defer : DeliveryReport := { report with deferred := report.deferred + 1 }

def countDelivered (claim : EventDeliveryClaim) : DeliveryReport :=
  { report with
    delivered := report.delivered + 1
    recovered := report.recovered + if 0 < claim.repairCycle then 1 else 0 }

def countMarked (row : ExecutionEventDelivery) : DeliveryReport :=
  { report with
    exhausted := report.exhausted + if row.state = .exhausted then 1 else 0
    deferred := report.deferred + if row.state = .pending then 1 else 0
    repairPending :=
      report.repairPending + if row.state = .pending ∧ 0 < row.repairCycle then 1 else 0 }

end DeliveryReport

/-! ## The loop -/

/-- What a claim meets: the answer of Cloud, the clock readings, the random part of the backoff,
and what others call before each of its transactions. -/
structure PublishTurn (D : Type) where
  outcome : PostOutcome
  meanwhile : List (Call D)
  deferredAt : Instant
  afterDeferral : List (Call D)
  markedAt : Instant
  jitter : Nat
  afterMark : List (Call D)
  wokenAt : Instant

inductive DeliveryCallback where
  | delivered
  | deferral
  | failure
deriving DecidableEq, Repr

/-- Ghost: the row of a claim before and after the call that recorded its answer. -/
structure DeliveryRecord where
  claim : EventDeliveryClaim
  callback : DeliveryCallback
  before : Option ExecutionEventDelivery
  after : Option ExecutionEventDelivery
deriving DecidableEq

structure PublishState (D : Type) where
  db : Db D
  report : DeliveryReport
  records : List DeliveryRecord

namespace PublishState

variable (state : PublishState D)

def interleave [DecidableEq D] (env : Env D) (calls : List (Call D)) : PublishState D :=
  { state with db := run env state.db calls }

/-- A callback took the database to `next`. -/
def note (claim : EventDeliveryClaim) (callback : DeliveryCallback) (next : Db D)
    (report : DeliveryReport) : PublishState D where
  db := next
  report := report
  records := state.records ++
    [⟨claim, callback, state.db.deliveries.lookup claim.delivery,
      next.deliveries.lookup claim.delivery⟩]

end PublishState

def isRejection (status : Nat) (code : String) : Bool :=
  status ∈ [401, 403, 404, 422] || (status = 409 && code = "conflict")

def failureResult (status : Nat) (code : String) (jitter : Nat) : DeliveryResult where
  success := false
  safeErrorCode :=
    if code ≠ "" then code
    else if isRejection status code then "delivery_rejected" else "delivery_unavailable"
  terminal := isRejection status code
  jitter := jitter

section Loop

variable [DecidableEq D] (env : Env D)

/-- The mark of a delivered event, and the wake of its successors. -/
def recordDelivered (claim : EventDeliveryClaim) (turn : PublishTurn D)
    (state : PublishState D) : Except RuntimeError (PublishState D) := do
  let (marked, db) ← markEventDelivery env turn.markedAt claim.delivery claim.attempt
    claim.repairCycle ⟨true, "", false, turn.jitter⟩ state.db
  match marked with
  | none => return state.note claim .delivered db state.report.defer
  | some _ => do
      let noted := (state.note claim .delivered db (state.report.countDelivered claim)).interleave
        env turn.afterMark
      let (_, woken) ← wakeAttemptSuccessors turn.wokenAt claim.delivery noted.db
      return { noted with db := woken }

def recordFailure (claim : EventDeliveryClaim) (turn : PublishTurn D) (status : Nat)
    (code : String) (state : PublishState D) : Except RuntimeError (PublishState D) := do
  let (marked, db) ← markEventDelivery env turn.markedAt claim.delivery claim.attempt
    claim.repairCycle (failureResult status code turn.jitter) state.db
  match marked with
  | none => return state.note claim .failure db state.report.defer
  | some row => return state.note claim .failure db (state.report.countMarked row)

def recordAnswer (claim : EventDeliveryClaim) (turn : PublishTurn D) (status : Nat)
    (code : String) (state : PublishState D) : Except RuntimeError (PublishState D) := do
  if status = 202 then recordDelivered env claim turn state
  else if status = 409 ∧ code = "sequence_gap" then do
    let (deferred, db) ← deferForSequenceGap turn.deferredAt claim state.db
    if deferred then return state.note claim .deferral db state.report.defer
    else recordFailure env claim turn status code (state.interleave env turn.afterDeferral)
  else recordFailure env claim turn status code state

def publishClaim (turns : EventDeliveryClaim → PublishTurn D) (state : PublishState D)
    (claim : EventDeliveryClaim) : Except RuntimeError (PublishState D) :=
  let turn := turns claim
  let (status, code) := turn.outcome.answer env claim.delivery.2
  recordAnswer env claim turn status code (state.interleave env turn.meanwhile)

def publishClaims (turns : EventDeliveryClaim → PublishTurn D)
    (claims : List EventDeliveryClaim) (db : Db D) : Except RuntimeError (PublishState D) :=
  claims.foldlM (publishClaim env turns) ⟨db, .empty claims.length, []⟩

/-- `publish_pending_event_deliveries`. -/
def publishPendingEventDeliveries (enabled : Bool) (now : Instant) (limit : Nat)
    (turns : EventDeliveryClaim → PublishTurn D) (db : Db D) :
    Except RuntimeError (PublishState D) :=
  if enabled then do
    let (claims, claimed) ← claimEventDeliveries env now limit db
    publishClaims env turns claims claimed
  else return ⟨db, .empty 0, []⟩

end Loop

end Foundry
