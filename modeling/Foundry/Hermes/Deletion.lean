import Foundry.Lib.Run
import Foundry.Lib.Table
import Foundry.Volume.Tombstones

/-!
# The profile deletion fence of Hermes

`allies_profile_deletion.py` for one profile key: the admission of requests, runs and agents, the
workers of `allies_profile_sandbox.py`, and the quiesce endpoint with the closing tasks it starts.
An event is what happens between two points at which the event loop, an executor thread, a worker
process or the volume may come in.  Agents are built by the requests and the runs of the profile,
which is where the patched server calls `_create_agent`.  A tombstone stays on the volume, within
the size that `marker` reads.
-/

set_option autoImplicit false

namespace Foundry

namespace Quiescence

/-! ## The tombstone as Hermes reads it -/

/-- `KEY`. -/
def isAllyKey (key : String) : Bool :=
  "ally-v1-".toList.isPrefixOf key.toList && (key.toList.drop 8).length = 32 &&
    (key.toList.drop 8).all isHexDigit

/-- `ProfileDeletionManager.marker`; what it raises is refused everywhere. -/
def readMarker (key : String) (file : Option TombstoneFile) :
    Except Unit (Option TombstonePayload) :=
  if !isAllyKey key then .error ()
  else
    match file with
    | none => .ok none
    | some file =>
      match file.payload? with
      | none => .error ()
      | some payload =>
        if payload.get "profile_key" = some (.str key) then .ok (some payload) else .error ()

/-- `admit`. -/
def isAdmitted (key : String) (file : Option TombstoneFile) : Bool :=
  if isAllyKey key then
    match readMarker key file with
    | .ok none => true
    | _ => false
  else true

/-! ## Quiesce requests -/

/-- `IDENTITY`. -/
def identityNames : List String :=
  ["version", "operation_id", "attempt_id", "lifecycle_epoch", "request_digest",
    "machine_generation", "runtime_start_epoch", "hermes_instance_id"]

/-- The identity of the attempt, which the tombstone names too. -/
def attemptNames : List String :=
  ["operation_id", "attempt_id", "lifecycle_epoch", "request_digest"]

def terminalNames : List String :=
  ["schema", "schema_version", "profile_key", "status", "deleted"]

abbrev QuiesceBody := List (String × Json)

def QuiesceBody.get (body : QuiesceBody) (name : String) : Option Json := (Json.obj body).get? name

def sameNames (members : List (String × Json)) (names : List String) : Bool :=
  (members.all fun member => names.contains member.1) &&
    names.all fun name => members.any fun member => member.1 == name

inductive QuiesceRefusal where
  /-- `ClosurePending`. -/
  | stale
  /-- `ValueError`, `KeyError`, `TypeError` and `OSError`. -/
  | invalid
deriving DecidableEq, Repr

structure Clock where
  now : Int
  /-- The literal is finite and lies after the clock. -/
  isLater : String → Bool
  equals : String → Int → Bool

/-- `==` of two values, where the second is not a float or a truth value. -/
def sameValue (clock : Clock) : Option Json → Option Json → Bool
  | some (.bool value), some (.int other) => other = if value then 1 else 0
  | some (.float literal), some (.int other) => clock.equals literal other
  | first, second => first = second

def isUuidText : Option Json → Bool
  | some (.str value) => isCanonicalUuid value
  | _ => false

def isCount (least : Int) : Option Json → Bool
  | some (.int value) => least ≤ value
  | _ => false

def isDigestText : Option Json → Bool
  | some (.str value) => isRequestDigest value
  | _ => false

def QuiesceBody.isShaped (body : QuiesceBody) : Bool :=
  sameNames body identityNames && body.get "version" = some (.int 1) &&
    isUuidText (body.get "operation_id") && isUuidText (body.get "attempt_id") &&
    isUuidText (body.get "hermes_instance_id") && isCount 0 (body.get "lifecycle_epoch") &&
    isCount 1 (body.get "machine_generation") && isCount 0 (body.get "runtime_start_epoch") &&
    isDigestText (body.get "request_digest")

/-- `expires_at` is a finite number after the clock. -/
def isOpen (clock : Clock) : Json → Bool
  | .int value => clock.now < value
  | .float literal => clock.isLater literal
  | _ => false

/-- `_validate_request`. -/
def validateRequest (key instanceId : String) (file : Option TombstoneFile) (homeExists : Bool)
    (clock : Clock) (body : QuiesceBody) : Except QuiesceRefusal Unit :=
  if !body.isShaped then .error .invalid
  else if body.get "hermes_instance_id" ≠ some (.str instanceId) then .error .stale
  else
    match readMarker key file with
    | .error () => .error .invalid
    | .ok none => .error .stale
    | .ok (some marker) =>
      if marker.get "schema" ≠ some (.str manifestSchema) ∨
          !sameValue clock (marker.get "schema_version") (some (.int manifestVersion)) then
        .error .stale
      else if marker.get "deleted" = some (.bool true) then
        if !sameNames marker terminalNames ∨
            marker.get "status" ≠ some (.str "DEPROVISIONED") then .error .stale
        else if homeExists then .error .stale
        else .ok ()
      else if marker.get "status" ≠ some (.str "CLEANUP_PENDING") then .error .stale
      else if attemptNames.any fun name =>
          !sameValue clock (marker.get name) (body.get name) then .error .stale
      else
        match (Json.obj marker).get? "expires_at" with
        | none => .error .invalid
        | some expires => if isOpen clock expires then .ok () else .error .stale

structure QuiesceRequest where
  /-- The control credential was given, without a profile prefix. -/
  isControl : Bool
  contentLength : Option Nat
  /-- The body, where it is a JSON dictionary. -/
  body : Option QuiesceBody
  /-- The directory of the profile is there. -/
  homeExists : Bool
  clock : Clock

/-! ## The state -/

inductive RequestPhase where
  | running
  /-- An agent is being built: the home was checked, the agent is not tracked yet. -/
  | building
  /-- `ensure` holds the launch lock. -/
  | launching
  /-- The worker has been spawned and registered, and has not reported ready. -/
  | starting
  /-- The task is done, its callback has not run. -/
  | finished
deriving DecidableEq, Repr

inductive RunPhase where
  | running
  | building
deriving DecidableEq, Repr

inductive Builder where
  | request (task : Nat)
  | run (thread : Nat)
deriving DecidableEq, Repr

/-- `ProfileSandboxProcess`. -/
structure SandboxProcess where
  alive : Bool
  ready : Bool
deriving DecidableEq, Repr

inductive LockHolder where
  | request (task : Nat)
  | close (job : Nat)
deriving DecidableEq, Repr

/-- What `_close` returns. -/
inductive CloseResult where
  | quiesced
  | quiescing (code : String)
  | repairRequired (code : String)
deriving DecidableEq, Repr

inductive ClosePhase where
  /-- Before the first stop of the worker, or the second. -/
  | stopping (again : Bool)
  /-- `_stop_sandbox` waits for the launch lock. -/
  | locking (again : Bool)
  /-- `stop_profile` holds the launch lock. -/
  | terminating (again : Bool)
  | interrupting
  | draining
  | retiring
  | releasing
  | done (result : CloseResult)
deriving DecidableEq, Repr

/-- `(attempt_id, lifecycle_epoch, request_digest)`. -/
abbrev CloseIdentity := Option Json × Option Json × Option Json

def QuiesceBody.identity (body : QuiesceBody) : CloseIdentity :=
  (body.get "attempt_id", body.get "lifecycle_epoch", body.get "request_digest")

/-- The manager and the sandbox manager of a Hermes process, and the tombstone on the volume. -/
structure HermesState where
  key : String
  instanceId : String
  marker : Option TombstoneFile
  /-- The tasks of `requests`. -/
  requests : Table Nat RequestPhase
  /-- The counter of `runs`, and the callbacks on executor threads. -/
  runs : Nat
  threads : Table Nat RunPhase
  agents : List Nat
  process : Option SandboxProcess
  lock : Option LockHolder
  pendingStop : Bool
  jobs : Option (CloseIdentity × Nat)
  closes : Table Nat ClosePhase
  /-- The calls of the endpoint that wait for a closing task. -/
  waits : Table Nat (Nat × QuiesceBody)
  started : Nat

def HermesState.initial (key instanceId : String) (marker : Option TombstoneFile) : HermesState :=
  ⟨key, instanceId, marker, ∅, 0, ∅, [], none, none, false, none, ∅, ∅, 0⟩

/-! ## Replies -/

structure QuiescenceProof where
  body : QuiesceBody
  profileKey : String
  state : String
  safeErrorCode : String
  activeRuns : Nat
  activeProfileIo : Nat
  openProfileStores : Nat
  ownedChildren : Nat
deriving DecidableEq, Repr

inductive HermesReply where
  | done
  | started (name : Nat)
  /-- An error response with its code. -/
  | refused (status : Nat) (code : String)
  | waiting (call : Nat)
  | proof (status : Nat) (proof : QuiescenceProof)
deriving DecidableEq, Repr

def CloseResult.state : CloseResult → String
  | .quiesced => "quiesced"
  | .quiescing _ => "quiescing"
  | .repairRequired _ => "repair_required"

def CloseResult.code : CloseResult → String
  | .quiesced => ""
  | .quiescing code | .repairRequired code => code

/-- `_proof`. -/
def HermesState.proof (state : HermesState) (body : QuiesceBody) (result : CloseResult) :
    HermesReply :=
  let children := if state.process.isSome then 1 else 0
  let owned := if state.pendingStop then max children 1 else children
  .proof (if result = .quiesced then 200 else 202)
    { body := body
      profileKey := state.key
      state := result.state
      safeErrorCode := result.code
      activeRuns := state.runs
      activeProfileIo := state.requests.entries.length
      openProfileStores := if result = .quiesced then 0 else state.agents.length
      ownedChildren := if result = .quiesced then 0 else state.agents.length + owned }

/-! ## Events -/

inductive HermesEvent where
  | writeMarker (file : TombstoneFile)
  /-- `start`, for a request or for the task of a run. -/
  | startRequest
  | finishRequest (task : Nat)
  | forgetRequest (task : Nat)
  /-- `run_sync`. -/
  | startRun
  | finishRun (thread : Nat)
  /-- `check_current_home` in `_create_agent`. -/
  | checkHome (builder : Builder)
  | trackAgent (builder : Builder) (agent : Nat)
  | abandonAgent (builder : Builder)
  /-- `retire_agent`, which may keep the agent. -/
  | retireAgent (agent : Nat) (closed : Bool)
  | lockLaunch (task : Nat)
  | reuseProcess (task : Nat)
  | spawnProcess (task : Nat)
  | processReady (task : Nat)
  | failLaunch (task : Nat)
  | exitProcess
  /-- A worker that stopped is dropped, to be launched again. -/
  | dropProcess (task : Nat)
  /-- A worker that stopped is dropped by the launch of another profile. -/
  | reapProcess
  | quiesce (request : QuiesceRequest)
  /-- The endpoint goes on, because its closing task is done or took too long. -/
  | answer (call : Nat)
  | beginStop (job : Nat)
  | lockStop (job : Nat)
  | stopProcess (job : Nat)
  | failStop (job : Nat)
  | interruptAgents (job : Nat) (interrupted : Bool)
  | drained (job : Nat)
  | retired (job : Nat)
  | timeOut (job : Nat)
  | closeResources (job : Nat) (closed : Bool)

def eventWhere (condition : Bool) (next : HermesState) : Except Unit (HermesReply × HermesState) :=
  if condition then .ok (.done, next) else .error ()

def ClosePhase.afterStop (again : Bool) : ClosePhase := if again then .retiring else .interrupting

def ClosePhase.workerPending : ClosePhase := .done (.quiescing "profile_worker_pending")

namespace HermesState

variable (state : HermesState)

def setRequest (task : Nat) (phase : RequestPhase) : HermesState :=
  { state with requests := state.requests.insert task phase }

def setRun (thread : Nat) (phase : RunPhase) : HermesState :=
  { state with threads := state.threads.insert thread phase }

def setClose (job : Nat) (phase : ClosePhase) : HermesState :=
  { state with closes := state.closes.insert job phase }

def isAt (builder : Builder) (building : Bool) : Bool :=
  match builder with
  | .request task =>
    state.requests.lookup task = some (if building then .building else .running)
  | .run thread => state.threads.lookup thread = some (if building then .building else .running)

def setBuilding (builder : Builder) (building : Bool) : HermesState :=
  match builder with
  | .request task => state.setRequest task (if building then .building else .running)
  | .run thread => state.setRun thread (if building then .building else .running)

def isAlive : Bool := state.process.any SandboxProcess.alive

/-- The endpoint, up to the point where it waits for its closing task. -/
def endpoint (request : QuiesceRequest) : HermesReply × HermesState :=
  if !request.isControl then (.refused 401 "invalid_control_credential", state)
  else if request.contentLength.any (2048 < ·) then
    (.refused 422 "invalid_quiescence_request", state)
  else
    match request.body with
    | none => (.refused 422 "invalid_quiescence_request", state)
    | some body =>
      match validateRequest state.key state.instanceId state.marker request.homeExists
          request.clock body with
      | .error .stale => (.refused 409 "stale_cleanup_attempt", state)
      | .error .invalid => (.refused 422 "invalid_quiescence_request", state)
      | .ok () =>
        let wait (job : Nat) (state : HermesState) : HermesReply × HermesState :=
          (.waiting state.started, { state with
            waits := state.waits.insert state.started (job, body)
            started := state.started + 1 })
        let create : HermesReply × HermesState :=
          wait state.started { state with
            jobs := some (body.identity, state.started)
            closes := state.closes.insert state.started (.stopping false)
            started := state.started + 1 }
        match state.jobs with
        | none => create
        | some (identity, job) =>
          if identity = body.identity then wait job state
          else
            match state.closes.lookup job with
            | some (.done _) => create
            | _ => (state.proof body (.quiescing "previous_cleanup_pending"), state)

def answerCall (call : Nat) : Except Unit (HermesReply × HermesState) :=
  match state.waits.lookup call with
  | none => .error ()
  | some (job, body) =>
    let answered := { state with waits := state.waits.erase call }
    match state.closes.lookup job with
    | some (.done (.quiescing code)) =>
      .ok (state.proof body (.quiescing code), { answered with jobs := none })
    | some (.done result) => .ok (state.proof body result, answered)
    | _ => .ok (state.proof body (.quiescing "profile_cleanup_pending"), answered)

def closeFrom (job : Nat) (phase : ClosePhase) (next : HermesState) :
    Except Unit (HermesReply × HermesState) :=
  eventWhere (state.closes.lookup job = some phase) next

def apply (event : HermesEvent) (state : HermesState) :
    Except Unit (HermesReply × HermesState) :=
  match event with
  | .writeMarker file => .ok (.done, { state with marker := some file })
  | .startRequest =>
    if isAdmitted state.key state.marker then
      .ok (.started state.started, { state with
        requests := state.requests.insert state.started .running
        started := state.started + 1 })
    else .ok (.refused 409 "profile_deletion_pending", state)
  | .finishRequest task =>
    eventWhere (state.requests.lookup task = some .running) (state.setRequest task .finished)
  | .forgetRequest task =>
    eventWhere (state.requests.lookup task = some .finished)
      { state with requests := state.requests.erase task }
  | .startRun =>
    if isAdmitted state.key state.marker then
      .ok (.started state.started, { state with
        runs := state.runs + 1
        threads := state.threads.insert state.started .running
        started := state.started + 1 })
    else .ok (.refused 409 "profile_deletion_pending", state)
  | .finishRun thread =>
    eventWhere (state.threads.lookup thread = some .running)
      { state with runs := state.runs - 1, threads := state.threads.erase thread }
  | .checkHome builder =>
    if state.isAt builder false && isAdmitted state.key state.marker then
      .ok (.done, state.setBuilding builder true)
    else .ok (.refused 409 "profile_deletion_pending", state)
  | .trackAgent builder agent =>
    eventWhere (state.isAt builder true)
      { state.setBuilding builder false with agents := agent :: state.agents }
  | .abandonAgent builder =>
    eventWhere (state.isAt builder true) (state.setBuilding builder false)
  | .retireAgent agent closed =>
    .ok (.done,
      if closed then { state with agents := state.agents.filter (· ≠ agent) } else state)
  | .lockLaunch task =>
    eventWhere (state.requests.lookup task = some .running && state.lock.isNone)
      { state.setRequest task .launching with lock := some (.request task) }
  | .reuseProcess task =>
    eventWhere (state.requests.lookup task = some .launching && state.isAlive &&
        state.process.any SandboxProcess.ready)
      { state.setRequest task .running with lock := none }
  | .spawnProcess task =>
    eventWhere (state.requests.lookup task = some .launching && !state.isAlive)
      { state.setRequest task .starting with process := some ⟨true, false⟩ }
  | .processReady task =>
    eventWhere (state.requests.lookup task = some .starting && state.isAlive)
      { state.setRequest task .running with process := some ⟨true, true⟩, lock := none }
  | .failLaunch task =>
    match state.requests.lookup task with
    | some .launching => .ok (.done, { state.setRequest task .running with lock := none })
    | some .starting =>
      -- a worker that did not start is stopped; one that does not stop stays registered
      .ok (.done, { state.setRequest task .running with
        process := if state.isAlive then state.process else none
        lock := none })
    | _ => .error ()
  | .exitProcess =>
    .ok (.done, { state with
      process := state.process.map fun process => { process with alive := false } })
  | .dropProcess task =>
    eventWhere (state.requests.lookup task = some .launching && !state.isAlive)
      { state with process := none }
  | .reapProcess =>
    eventWhere (state.lock.isNone && !state.isAlive) { state with process := none }
  | .quiesce request => .ok (state.endpoint request)
  | .answer call => state.answerCall call
  | .beginStop job =>
    match state.closes.lookup job with
    | some (.stopping again) =>
      .ok (.done, { state.setClose job (.locking again) with pendingStop := true })
    | _ => .error ()
  | .lockStop job =>
    match state.closes.lookup job with
    | some (.locking again) =>
      eventWhere state.lock.isNone
        { state.setClose job (.terminating again) with lock := some (.close job) }
    | _ => .error ()
  | .stopProcess job =>
    match state.closes.lookup job with
    | some (.terminating again) =>
      eventWhere (!state.isAlive) { state.setClose job (ClosePhase.afterStop again) with
        process := none, lock := none, pendingStop := false }
    | _ => .error ()
  | .failStop job =>
    match state.closes.lookup job with
    | some (.locking _) => .ok (.done, state.setClose job ClosePhase.workerPending)
    | some (.terminating _) =>
      .ok (.done, { state.setClose job ClosePhase.workerPending with lock := none })
    | _ => .error ()
  | .interruptAgents job interrupted =>
    state.closeFrom job .interrupting (state.setClose job
      (if interrupted then .draining else .done (.repairRequired "agent_interrupt_failed")))
  | .drained job =>
    eventWhere (state.closes.lookup job = some .draining && state.runs = 0 &&
        state.requests.entries.isEmpty)
      (state.setClose job (.stopping true))
  | .retired job =>
    eventWhere (state.closes.lookup job = some .retiring && state.agents.isEmpty)
      (state.setClose job .releasing)
  | .timeOut job =>
    match state.closes.lookup job with
    | some .draining =>
      .ok (.done, state.setClose job (.done (.quiescing "profile_work_pending")))
    | some .retiring =>
      .ok (.done, state.setClose job (.done (.quiescing "agent_resources_unclosed")))
    | _ => .error ()
  | .closeResources job closed =>
    state.closeFrom job .releasing (state.setClose job
      (.done (if closed then .quiesced else .repairRequired "profile_resources_unclosed")))

abbrev run (events : List HermesEvent) : HermesState := Run.run apply state events

end HermesState

end Quiescence

end Foundry
