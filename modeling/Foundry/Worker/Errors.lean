import Foundry.Model.Types

/-!
# Errors of the Foundry client

The exception classes of `foundry.py` and `errors.py`, the response `_error` of the API
makes of a service error, and how `_error_for` reads a response as an exception.
-/

set_option autoImplicit false

namespace Foundry

/-- `FoundryError` and its subclasses. -/
inductive FoundryErrorClass where
  | foundry
  | invalidCredential
  | fenced
  | notReady
  | leaseConflict
  | idempotencyConflict
  | repairRequired
  | invalidRequest
  | rateLimited
  | serviceUnavailable
  | responseLoss
deriving DecidableEq, Repr

/-- The class attribute `code`. -/
def FoundryErrorClass.code : FoundryErrorClass → String
  | .foundry => "FOUNDRY_ERROR"
  | .invalidCredential => "INVALID_CREDENTIAL"
  | .fenced => "FENCED"
  | .notReady => "NOT_READY"
  | .leaseConflict => "LEASE_CONFLICT"
  | .idempotencyConflict => "IDEMPOTENCY_CONFLICT"
  | .repairRequired => "REPAIR_REQUIRED"
  | .invalidRequest => "INVALID_REQUEST"
  | .rateLimited => "RATE_LIMITED"
  | .serviceUnavailable => "SERVICE_UNAVAILABLE"
  | .responseLoss => "RESPONSE_LOST"

structure FoundryError where
  errorClass : FoundryErrorClass
  status : Nat
  code : String
deriving DecidableEq, Repr

/-- `__init__`: an empty code leaves the one of the class. -/
def FoundryErrorClass.raised (errorClass : FoundryErrorClass) (status : Nat) (code : String) :
    FoundryError :=
  ⟨errorClass, status, if code = "" then errorClass.code else code⟩

def conflictClass (code : String) : FoundryErrorClass :=
  if code = "FENCED" then .fenced
  else if code = "NOT_READY" then .notReady
  else if code = "LEASE_CONFLICT" then .leaseConflict
  else if code = "IDEMPOTENCY_CONFLICT" then .idempotencyConflict
  else if code = "REPAIR_REQUIRED" then .repairRequired
  else .foundry

/-- `_error_for`; `code` is the text of the payload's `code`, empty without one. -/
def errorFor (status : Nat) (code : String) : FoundryError :=
  if status = 401 then ⟨.invalidCredential, status, "INVALID_CREDENTIAL"⟩
  else if status = 422 then ⟨.invalidRequest, status, "INVALID_REQUEST"⟩
  else if status = 429 then FoundryErrorClass.raised .rateLimited status code
  else if 500 ≤ status then FoundryErrorClass.raised .serviceUnavailable status code
  else if status = 409 then FoundryErrorClass.raised (conflictClass code) status code
  else FoundryErrorClass.raised .foundry status code

/-- The status and the code `_error` answers with.  What is no `RuntimeDomainError` is
not caught and answers 500. -/
def ErrorKind.response : ErrorKind → Nat × String
  | .validation => (422, "INVALID_REQUEST")
  | .authorization => (401, "INVALID_CREDENTIAL")
  | .notFound => (404, "NOT_FOUND")
  | .conflict => (409, "CONFLICT")
  | .fenced => (409, "FENCED")
  | .notReady => (409, "NOT_READY")
  | .repairRequired => (409, "REPAIR_REQUIRED")
  | .leaseConflict => (409, "LEASE_CONFLICT")
  | .idempotencyConflict => (409, "IDEMPOTENCY_CONFLICT")
  | .providerTerminal | .doesNotExist | .integrity => (500, "")

def RuntimeError.received (error : RuntimeError) : FoundryError :=
  errorFor error.kind.response.1 error.kind.response.2

/-- The client raises the error as one that is waited out, of a Workspace that is not ready
or of a service that failed. -/
def ErrorKind.isWaitedOut : ErrorKind → Bool
  | .notReady | .providerTerminal | .doesNotExist | .integrity => true
  | _ => false

/-- `PublicationInputError.messages`. -/
inductive PublicationInputCode where
  | invalidPaths
  | fileNotFound
  | fileUnreadable
  | fileTooLarge
deriving DecidableEq, Repr

def PublicationInputCode.text : PublicationInputCode → String
  | .invalidPaths => "invalid_paths"
  | .fileNotFound => "file_not_found"
  | .fileUnreadable => "file_unreadable"
  | .fileTooLarge => "file_too_large"

/-- `HermesError` and its subclasses. -/
inductive HermesErrorClass where
  | hermes
  | authentication
  | malformedResponse
  | disconnected
  | timeout
  | unavailable
  | sessionExists
  | identityIsolation
  | historyMismatch
  | transcriptConflict
  | incomingFile
  | publicationInput (code : PublicationInputCode)
deriving DecidableEq, Repr

def HermesErrorClass.code : HermesErrorClass → String
  | .hermes => "hermes_error"
  | .authentication => "authentication_failed"
  | .malformedResponse => "malformed_response"
  | .disconnected => "disconnected"
  | .timeout => "timeout"
  | .unavailable => "unavailable"
  | .sessionExists => "session_exists"
  | .identityIsolation => "identity_isolation_failed"
  | .historyMismatch => "history_continuity_failed"
  | .transcriptConflict => "transcript_conflict"
  | .incomingFile => "incoming_file_invalid"
  | .publicationInput code => code.text

/-- What reaches the fallback of `_run_claim`. -/
inductive ClaimError where
  | foundry (error : FoundryError)
  | hermes (errorClass : HermesErrorClass)
deriving DecidableEq, Repr

/-- `getattr(exc, "code", …)`. -/
def ClaimError.code : ClaimError → String
  | .foundry error => error.code
  | .hermes errorClass => errorClass.code

/-- `isinstance(exc, (FencedError, LeaseConflictError))`. -/
def ClaimError.isFencing : ClaimError → Bool
  | .foundry error => error.errorClass = .fenced ∨ error.errorClass = .leaseConflict
  | .hermes _ => false

end Foundry
