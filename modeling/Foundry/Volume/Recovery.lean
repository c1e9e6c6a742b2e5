import Foundry.Volume.SpoolCalls

/-!
# The recovery of frozen publications

`PublicationBridge.recover`: it lists the publications of a profile whose snapshots stand, releases
those that Cloud has made ready, and answers the retry claims that Foundry returns.  The answers of
Foundry and the faults of the disk come with the call.
-/

set_option autoImplicit false

namespace Foundry

namespace Spool

def maxPartialPublicationCleanup : Nat := 100

/-! ## Responses -/

/-- A row of a publication as Cloud lists it, with `none` for a value of another type. -/
structure CloudRow where
  sourceVersionId : Option Uuid
  sha256 : Option String
  size : Option Nat
  /-- Its state is `ready` or `validating`. -/
  isSettled : Bool
  id : Option Uuid
  generation : Option Nat

/-- The loop of `_cloud_file_rows`, with the rows it has resolved. -/
def resolveRows (files : List PublicationFile) :
    List CloudRow → List (Uuid × CloudRow) → Option (List (Uuid × CloudRow))
  | [], resolved => some resolved
  | row :: rest, resolved =>
    match row.sourceVersionId with
    | none => none
    | some sourceVersionId =>
      match files.find? fun file => file.sourceVersionId = sourceVersionId with
      | none => none
      | some file =>
        if row.sha256 ≠ some file.sha256 ∨ row.size ≠ some file.size ∨
            sourceVersionId ∈ resolved.map Prod.fst then none
        else resolveRows files rest (resolved ++ [(sourceVersionId, row)])

/-- `_cloud_file_rows`. -/
def cloudFileRows (rows : Option (List CloudRow)) (files : List PublicationFile) :
    Option (List (Uuid × CloudRow)) :=
  match rows with
  | none => none
  | some rows => if rows.length ≠ files.length then none else resolveRows files rows []

/-- A release that a call makes, with the time and the faults of its actions. -/
structure Releasing where
  now : Nat
  faults : List DiskFault

/-- An item of `claim_publication_retries`, with what is met while it is answered. -/
structure RetryClaim where
  publicationId : Option Uuid
  revision : Option Int
  leaseToken : Option Uuid
  rows : Option (List CloudRow)
  /-- The disk serves the reading of a file. -/
  reads : Uuid → Bool
  /-- Foundry takes an upload. -/
  accepts : Uuid → Bool
  /-- The publication is ready once it was submitted, and is released. -/
  ready : Option Releasing
  /-- A release that fails does so with an error that ends the call. -/
  raises : Bool

/-- A call of `recover`. -/
structure RecoveryCall where
  profile : String
  limit : Nat
  available : Bool
  /-- `cleanup_stale_publication_copies` is due. -/
  cleanup : Option Releasing
  hasWorkspace : Bool
  /-- The disk serves the listing. -/
  lists : Bool
  /-- Cloud has made a listed publication ready, and it is released.  What else is done for a
  listed publication changes nothing on the spool. -/
  ready : Uuid → Option Releasing
  /-- What `claim_publication_retries` returns, unless it fails. -/
  claims : Option (List RetryClaim)

/-! ## Reports -/

inductive RetryOutcome where
  | submitted
  | sourceUnavailable
deriving DecidableEq, Repr

/-- A call of `publication_retry_result`. -/
structure RetryReport where
  publicationId : Uuid
  revision : Int
  leaseToken : Uuid
  outcome : RetryOutcome
deriving DecidableEq, Repr

/-! ## The listing -/

section Recover

variable (lib : SpoolLibrary) (digest : SpoolKey → SpoolFile → String)

/-- The publications of a profile whose journals can be read and whose snapshots stand, in the
order of their journals. -/
def SpoolVolume.recoverable (profile : String) (volume : SpoolVolume) : List (Uuid × Journal) :=
  (volume.journals.rows.filterMap fun row =>
    if row.1.1 = profile then (volume.committed lib row.1).map fun journal => (row.1.2, journal)
    else none).insertionSort fun left right => left.1 ≤ right.1

/-- `recover_publication_manifests` of a limit that it takes, or nothing where it fails. -/
def RecoveryCall.manifests (call : RecoveryCall) (volume : SpoolVolume) : List (Uuid × Journal) :=
  if call.lists then (volume.recoverable lib call.profile).take call.limit else []

def Releasing.release (releasing : Releasing) (key : SpoolKey) (volume : SpoolVolume) :
    Bool × SpoolVolume :=
  let ended := Program.after (perform lib) releasing.faults
    (releasePublicationSpool key releasing.now) volume
  (ended.1.value?.isSome, ended.2)

def RecoveryCall.releaseReady (call : RecoveryCall) :
    List (Uuid × Journal) → SpoolVolume → List Uuid × SpoolVolume
  | [], volume => ([], volume)
  | (publicationId, _) :: rest, volume =>
    match call.ready publicationId with
    | none => call.releaseReady rest volume
    | some releasing =>
      let ended := releasing.release lib (call.profile, publicationId) volume
      let later := call.releaseReady rest ended.2
      (if ended.1 then publicationId :: later.1 else later.1, later.2)

/-! ## Uploads -/

/-- `publication_spool_path`, with the file that stands there. -/
def SpoolVolume.spoolFile (key : SpoolKey) (sourceVersionId : Uuid) (volume : SpoolVolume) :
    Except SpoolError SpoolFile :=
  match volume.journals.lookup key with
  | none => .error (.incoming "publication snapshot was unavailable")
  | some journal =>
    if !journal.isReadable lib key.2 then .error journalError
    else
      match journal.files.find? fun file => file.sourceVersionId = sourceVersionId with
      | none => .error (.incoming "publication file was unavailable")
      | some file =>
        match ((volume.finals.lookup key).getD []).find? fun stored =>
            stored.name = file.spoolPath with
        | none => .error (.incoming "publication snapshot was unavailable")
        | some stored =>
          if stored.size ≠ file.size then
            .error (.incoming "publication snapshot was unavailable")
          else .ok stored

/-- How an upload fails: at its source, or at Foundry and its rows. -/
inductive UploadFailure where
  | source
  | cloud
deriving DecidableEq, Repr

/-- The row names a file and a generation, and Foundry takes the upload. -/
def RetryClaim.takes (claim : RetryClaim) (row : CloudRow) (sourceVersionId : Uuid) : Bool :=
  row.id.isSome && row.generation.any (1 ≤ ·) && claim.accepts sourceVersionId

/-- One file of `_upload_frozen_files`. -/
def RetryClaim.uploadFile (claim : RetryClaim) (key : SpoolKey) (volume : SpoolVolume)
    (row : CloudRow) (file : PublicationFile) : Except UploadFailure Unit :=
  if row.isSettled then .ok ()
  else if !claim.reads file.sourceVersionId then .error .source
  else
    match volume.spoolFile lib key file.sourceVersionId with
    | .error _ => .error .source
    | .ok stored =>
      if digest key stored ≠ file.sha256 then .error .source
      else if claim.takes row file.sourceVersionId then .ok ()
      else .error .cloud

/-- The loop of `_upload_frozen_files`. -/
def RetryClaim.uploadFiles (claim : RetryClaim) (key : SpoolKey) (volume : SpoolVolume)
    (rows : List (Uuid × CloudRow)) : List PublicationFile → Except UploadFailure Unit
  | [] => .ok ()
  | file :: rest =>
    match rows.find? fun row => row.1 = file.sourceVersionId with
    | none => .error .cloud
    | some row =>
      match claim.uploadFile lib digest key volume row.2 file with
      | .error failure => .error failure
      | .ok () => claim.uploadFiles key volume rows rest

/-- `_upload_frozen_files`. -/
def RetryClaim.upload (claim : RetryClaim) (key : SpoolKey) (volume : SpoolVolume)
    (journal : Journal) : Except UploadFailure Unit :=
  match cloudFileRows claim.rows journal.files with
  | none => .error .cloud
  | some rows => claim.uploadFiles lib digest key volume rows journal.files

/-! ## The claims -/

def RetryClaim.due (released : List Uuid) (claim : RetryClaim) : Option (Uuid × Int × Uuid) :=
  match claim.publicationId, claim.revision, claim.leaseToken with
  | some publicationId, some revision, some leaseToken =>
    if publicationId ∈ released ∨ revision < 1 then none
    else some (publicationId, revision, leaseToken)
  | _, _, _ => none

def RetryClaim.report (claim : RetryClaim) (profile : String) (manifests : List (Uuid × Journal))
    (released : List Uuid) (volume : SpoolVolume) : Option RetryReport :=
  match claim.due released with
  | none => none
  | some (publicationId, revision, leaseToken) =>
    match manifests.find? fun manifest => manifest.1 = publicationId with
    | none => some ⟨publicationId, revision, leaseToken, .sourceUnavailable⟩
    | some manifest =>
      match claim.upload lib digest (profile, publicationId) volume manifest.2 with
      | .ok () => some ⟨publicationId, revision, leaseToken, .submitted⟩
      | .error .source => some ⟨publicationId, revision, leaseToken, .sourceUnavailable⟩
      | .error .cloud => none

/-- A claim as it was come to: the spool at that time, and what was reported. -/
structure RetryStep where
  claim : RetryClaim
  volume : SpoolVolume
  report : Option RetryReport

def answerClaims (profile : String) (manifests : List (Uuid × Journal)) (released : List Uuid) :
    List RetryClaim → SpoolVolume → List RetryStep
  | [], _ => []
  | claim :: rest, volume =>
    let report := claim.report lib digest profile manifests released volume
    ⟨claim, volume, report⟩ ::
      match report, claim.ready with
      | some ⟨publicationId, _, _, .submitted⟩, some releasing =>
        let ended := releasing.release lib (profile, publicationId) volume
        if !ended.1 && claim.raises then []
        else answerClaims profile manifests released rest ended.2
      | _, _ => answerClaims profile manifests released rest volume

def RecoveryCall.cleanUp (call : RecoveryCall) (volume : SpoolVolume) : Option SpoolVolume :=
  match call.cleanup with
  | none => some volume
  | some cleaning =>
    let ended := Program.after (perform lib) cleaning.faults
      (cleanupStaleCopies cleaning.now maxPartialPublicationCleanup) volume
    if ended.1.value?.isSome then some ended.2 else none

/-- `recover`: the claims that it comes to, in order.  Neither side takes a limit beyond 20. -/
def RecoveryCall.recover (call : RecoveryCall) (volume : SpoolVolume) : List RetryStep :=
  if !call.available || !call.hasWorkspace || call.limit < 1 || 20 < call.limit then []
  else
    match call.cleanUp lib volume, call.claims with
    | some volume, some claims =>
      let manifests := call.manifests lib volume
      let released := call.releaseReady lib manifests volume
      answerClaims lib digest call.profile manifests released.1 claims released.2
    | _, _ => []

end Recover

end Spool

end Foundry
