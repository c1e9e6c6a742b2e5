import Foundry.Volume.Spools

/-!
# Calls on the publication spool

The operations of `files.py` on the spool as programs of atomic actions: the freezing of a
publication with its failure handler, the release, the reconciliation with the releases that it
completes, the clean-up of stale copies and the removal of a profile's spool.
-/

set_option autoImplicit false

namespace Foundry

namespace Spool

/-! ## Source files -/

/-- A source file when the call prepares: what `lstat` of its path gives. -/
structure SourceStat where
  opens : Except SpoolError Unit
  /-- A regular file with a single link. -/
  isSafe : Bool
  size : Nat

structure SourceCopy where
  stat : SourceStat
  /-- The bytes that the loop reads. -/
  copied : Nat
  /-- The volume has room after every chunk. -/
  hasSpace : Bool
  /-- The file has the same identity, size and time before and after. -/
  unchanged : Bool
  sha256 : String
  sourceVersionId : Uuid
  /-- The random part of the output name. -/
  hex : String

/-- A path that `_publication_paths` accepted, with the file it names at the two readings. -/
structure PublicationSource where
  path : String
  name : String
  prepared : SourceStat
  copy : SourceCopy

def SourceStat.check (source : SourceStat) : Except SpoolError Nat := do
  source.opens
  if !source.isSafe || source.size < 1 then
    .error (unreadableSource "publication source was unsafe")
  else if maxPublicationFileBytes < source.size then
    .error (oversizedSource "publication source exceeds 25 MB")
  else .ok source.size

/-- The loop of `prepare_publication_files`, with the bytes of the files before. -/
def prepareFrom (total : Nat) : List PublicationSource → Except SpoolError Nat
  | [] => .ok total
  | source :: rest =>
    match source.prepared.check with
    | .error reason => .error reason
    | .ok size =>
      if maxPublicationBytes < total + size then
        .error (oversizedSource "publication file set exceeds 50 MB")
      else prepareFrom (total + size) rest

/-- `_publication_paths`, of paths that are safe one by one. -/
def checkPaths (sources : List PublicationSource) : Except SpoolError Unit :=
  if sources.isEmpty || maxFiles < sources.length then
    .error (.input "invalid_paths" "publication must contain from 1 to 10 files")
  else if (sources.map PublicationSource.path).Nodup then .ok ()
  else .error (.input "invalid_paths" "publication paths were duplicated")

def outputName (ordinal : Nat) (hex : String) : String :=
  (if ordinal < 10 then s!"0{ordinal}" else s!"{ordinal}") ++ "-" ++ hex ++ ".bin"

/-- `_copy_publication_file`, up to the output. -/
def PublicationSource.result (source : PublicationSource) (ordinal : Nat) :
    Except SpoolError PublicationFile :=
  match source.copy.stat.check with
  | .error reason => .error reason
  | .ok _ =>
    if maxPublicationFileBytes < source.copy.copied then
      .error (oversizedSource "publication source exceeds 25 MB")
    else if !source.copy.hasSpace then .error capacityError
    else if !source.copy.unchanged then
      .error (unreadableSource "publication source changed during copy")
    else
      .ok ⟨source.copy.sourceVersionId, source.name, source.copy.copied, source.copy.sha256,
        outputName ordinal source.copy.hex⟩

/-! ## Actions -/

inductive SpoolAction where
  | openSpool (profile : String)
  | readJournal (key : SpoolKey) (sourcePaths : List String)
  | listReleasing (limit : Nat)
  | removeFinal (key : SpoolKey)
  | removeJournal (key : SpoolKey)
  | dropReleasing (completed : List SpoolKey)
  | discover (limit : Nat)
  | recheck (key : SpoolKey)
  | charge (found : List (SpoolKey × Nat)) (now : Nat)
  | reserve (key : SpoolKey) (size now free : Nat)
  | checkAbsent (key : SpoolKey) (suffix : Nat)
  | makeCopy (key : SpoolKey) (suffix : Nat)
  | copyFile (key : SpoolKey) (suffix : Nat) (source : Except SpoolError PublicationFile)
  | moveCopy (key : SpoolKey) (suffix : Nat)
  | writeJournal (key : SpoolKey) (journal : Journal)
  | markFrozen (publicationId : Uuid) (now : Nat)
  | discardCopy (key : SpoolKey) (suffix : Nat)
  | discardFinal (key : SpoolKey)
  | drop (publicationId : Uuid)
  | markReleasing (key : SpoolKey) (now : Nat)
  | listOld (now : Nat)
  | seekJournal (key : SpoolKey)
  | removeCopies (key : SpoolKey)
  | seekFinal (key : SpoolKey)
  | dropStale (removed : List SpoolKey)
  | removeSpool (profile : String)
  | dropProfile (profile : String)

def SpoolAction.Value : SpoolAction → Type
  | .readJournal .. => Option Journal
  | .listReleasing _ => List SpoolKey
  | .discover _ => List SpoolKey
  | .markReleasing .. => Bool
  | .recheck _ => Option Nat
  | .listOld _ => List SpoolKey
  | .seekJournal _ | .seekFinal _ => Bool
  | .copyFile .. => PublicationFile
  | _ => Unit

abbrev SpoolReply (action : SpoolAction) : Type := Except SpoolError action.Value

section Perform

variable (lib : SpoolLibrary) (fault : DiskFault)

def SpoolVolume.read {α : Type} (reason : SpoolError) (result : Except SpoolError α)
    (volume : SpoolVolume) : Except SpoolError α × SpoolVolume :=
  (if fault.fails then .error reason else result, volume)

def SpoolVolume.change {α : Type} (reason : SpoolError) (value : α)
    (change : SpoolVolume → SpoolVolume) (volume : SpoolVolume) :
    Except SpoolError α × SpoolVolume :=
  match fault with
  | .fine => (.ok value, change volume)
  | .after => (.error reason, change volume)
  | _ => (.error reason, volume)

def SpoolVolume.remove (remove : SpoolVolume → SpoolVolume) (volume : SpoolVolume) :
    Except SpoolError Unit × SpoolVolume :=
  (if fault.fails then .error snapshotError else .ok (), remove volume)

/-- `_read_publication_manifest`. -/
def SpoolVolume.readJournal (key : SpoolKey) (sourcePaths : List String) (volume : SpoolVolume) :
    Except SpoolError (Option Journal) :=
  match volume.journals.lookup key with
  | none => .ok none
  | some journal =>
    if !journal.isReadable lib key.2 then .error journalError
    else if journal.sourcePaths ≠ sourcePaths then
      .error (.incoming "publication paths changed after freeze")
    else .ok (some journal)

/-- `_read_publication_manifest` without the source paths. -/
def SpoolVolume.readManifest (key : SpoolKey) (volume : SpoolVolume) :
    Except SpoolError (Option Journal) :=
  match volume.journals.lookup key with
  | none => .ok none
  | some journal =>
    if !journal.isReadable lib key.2 then .error journalError else .ok (some journal)

/-- A journal that can be read, with its snapshot beside it. -/
def SpoolVolume.committed (key : SpoolKey) (volume : SpoolVolume) : Option Journal :=
  (volume.journals.lookup key).filter fun journal =>
    journal.isReadable lib key.2 && volume.snapshotExists key journal.files

/-- The committed publications, in the order of their directories and journals. -/
def SpoolVolume.discover (limit : Nat) (volume : SpoolVolume) : List SpoolKey :=
  (((volume.journals.rows.map Prod.fst).filter fun key =>
      (volume.committed lib key).isSome).insertionSort fun left right =>
    left.1 < right.1 ∨ left.1 = right.1 ∧ left.2 ≤ right.2).take limit

/-- The bytes of a discovered publication that is still committed. -/
def SpoolVolume.recheck (key : SpoolKey) (volume : SpoolVolume) :
    Except SpoolError (Option Nat) :=
  match volume.journals.lookup key with
  | none => .ok none
  | some journal =>
    if !journal.isReadable lib key.2 then .error journalError
    else if !volume.snapshotExists key journal.files then .ok none
    else .ok (some (bytes journal.files))

def Ledger.chargeAll (found : List (SpoolKey × Nat)) (now : Nat) (ledger : Ledger) : Ledger :=
  found.foldl (fun ledger entry => ledger.chargeOne now entry) ledger

def perform : (action : SpoolAction) → SpoolVolume → SpoolReply action × SpoolVolume
  | .openSpool profile, volume =>
    volume.change fault (.incoming "publication spool was unavailable") () fun volume =>
      { volume with roots := profile :: volume.roots }
  | .readJournal key sourcePaths, volume =>
    volume.read fault journalError (volume.readJournal lib key sourcePaths)
  | .listReleasing limit, volume =>
    volume.transact fault fun ledger => .ok (none, ledger.releasing limit)
  | .removeFinal key, volume => volume.remove fault (SpoolVolume.removeFinal fault key)
  | .removeJournal key, volume =>
    volume.change fault snapshotError () fun volume =>
      { volume with journals := volume.journals.erase key }
  | .dropReleasing completed, volume =>
    volume.transact fault fun ledger =>
      .ok (ledger.changed (ledger.dropReleasing completed), ())
  | .discover limit, volume =>
    volume.read fault (.incoming "publication spool was unavailable")
      (.ok (volume.discover lib limit))
  | .recheck key, volume => volume.read fault journalError (volume.recheck lib key)
  | .charge found now, volume =>
    volume.transact fault fun ledger => .ok (ledger.changed (ledger.chargeAll found now), ())
  | .reserve key size now free, volume =>
    volume.transact fault (Ledger.reserve key.1 key.2 size now free)
  | .checkAbsent key suffix, volume =>
    volume.read fault snapshotError
      (if (volume.finals.lookup key).isSome || (volume.copies.lookup (key, suffix)).isSome then
        .error (.incoming "publication spool state was invalid")
      else .ok ())
  | .makeCopy key suffix, volume =>
    if volume.roots.contains key.1 && (volume.copies.lookup (key, suffix)).isNone then
      volume.change fault snapshotError () fun volume =>
        { volume with copies := volume.copies.insert (key, suffix) [] }
    else (.error snapshotError, volume)
  | .copyFile key suffix source, volume =>
    match source, volume.copies.lookup (key, suffix) with
    | .error reason, _ => (.error reason, volume)
    | .ok _, none => (.error (.incoming "publication snapshot copy failed"), volume)
    | .ok file, some content =>
      if content.any fun stored => stored.name = file.spoolPath then
        (.error (.incoming "publication snapshot copy failed"), volume)
      else
        volume.change fault (.incoming "publication snapshot copy failed") file fun volume =>
          let grown := content ++ [⟨file.spoolPath, file.size⟩]
          { volume with copies := volume.copies.insert (key, suffix) grown }
  | .moveCopy key suffix, volume =>
    match volume.copies.lookup (key, suffix) with
    | none => (.error snapshotError, volume)
    | some content =>
      if ((volume.finals.lookup key).getD []).isEmpty then
        volume.change fault snapshotError () fun volume =>
          { volume with
            finals := volume.finals.insert key content
            copies := volume.copies.erase (key, suffix) }
      else (.error snapshotError, volume)
  | .writeJournal key journal, volume =>
    volume.change fault receiptError () fun volume =>
      { volume with
        roots := key.1 :: volume.roots
        journals := volume.journals.insert key journal }
  | .markFrozen publicationId now, volume =>
    volume.transact fault (Ledger.markFrozen publicationId now)
  | .discardCopy key suffix, volume => (.ok (), volume.removeCopy fault (key, suffix))
  | .discardFinal key, volume => (.ok (), volume.removeFinal fault key)
  | .drop publicationId, volume => volume.transact fault (Ledger.drop publicationId)
  | .markReleasing key now, volume =>
    volume.transact fault (Ledger.markReleasing key.1 key.2 now)
  | .listOld now, volume => volume.transact fault fun ledger => .ok (none, ledger.old now)
  | .seekJournal key, volume =>
    volume.read fault snapshotError (.ok (volume.journals.lookup key).isSome)
  | .removeCopies key, volume => volume.remove fault (SpoolVolume.removeCopies fault key)
  | .seekFinal key, volume =>
    volume.read fault snapshotError (.ok (volume.finals.lookup key).isSome)
  | .dropStale removed, volume =>
    volume.transact fault fun ledger => .ok (ledger.changed (ledger.dropStale removed), ())
  | .removeSpool profile, volume => volume.remove fault (SpoolVolume.removeSpool fault profile)
  | .dropProfile profile, volume => volume.transact fault (Ledger.dropProfile profile)

end Perform

/-! ## Programs -/

inductive SpoolAnswer where
  | manifest (key : SpoolKey) (journal : Journal)
  | done
  | count (number : Nat)
deriving DecidableEq, Repr

abbrev SpoolProgram (α : Type) := Program SpoolAction SpoolReply SpoolError α

def run (action : SpoolAction) : SpoolProgram action.Value :=
  .act action fun
    | .ok value => .answer value
    | .error reason => .refuse reason

/-- `_complete_publication_release`. -/
def completeRelease (key : SpoolKey) : SpoolProgram Unit := do
  let _ ← run (.removeFinal key)
  let _ ← run (.removeJournal key)
  return ()

def completeReleases : List SpoolKey → SpoolProgram Unit
  | [] => return ()
  | key :: rest => do
      completeRelease key
      completeReleases rest

/-- `_complete_releasing_publications`. -/
def completeReleasing (limit : Nat) : SpoolProgram Unit := do
  let releasing : List SpoolKey ← run (.listReleasing limit)
  completeReleases releasing
  if releasing.isEmpty then return ()
  else do
    let _ ← run (.dropReleasing releasing)
    return ()

/-- The discovered publications that are still committed, each with its bytes. -/
def recheckAll : List SpoolKey → SpoolProgram (List (SpoolKey × Nat))
  | [] => return []
  | key :: rest => do
      let size : Option Nat ← run (.recheck key)
      let found ← recheckAll rest
      return (size.map fun size => (key, size)).toList ++ found

/-- The second half of `reconcile_publication_spools`. -/
def chargeCommitted (limit now : Nat) : SpoolProgram Nat := do
  let discovered : List SpoolKey ← run (.discover limit)
  let found ← recheckAll discovered
  let _ ← run (.charge found now)
  return discovered.length

/-- `reconcile_publication_spools`. -/
def reconcile (limit now : Nat) : SpoolProgram Nat := do
  if limit < 1 ∨ 100 < limit then
    .refuse (.incoming "publication reconciliation limit was invalid")
  else do
    completeReleasing limit
    chargeCommitted limit now

def copySources (key : SpoolKey) (suffix : Nat) :
    Nat → List PublicationSource → SpoolProgram (List PublicationFile)
  | _, [] => return []
  | ordinal, source :: rest => do
      let file : PublicationFile ← run (.copyFile key suffix (source.result ordinal))
      let files ← copySources key suffix (ordinal + 1) rest
      return file :: files

/-- A call of `freeze_publication`. -/
structure FreezeCall where
  key : SpoolKey
  sources : List PublicationSource
  now : Nat
  /-- The free bytes of the volume when space is reserved. -/
  free : Nat

def FreezeCall.sourcePaths (call : FreezeCall) : List String :=
  call.sources.map PublicationSource.path

def journalOf (lib : SpoolLibrary) (sourcePaths : List String) (files : List PublicationFile) :
    Journal :=
  ⟨sourcePaths, publicationDigest lib files, files⟩

section Freeze

variable (lib : SpoolLibrary) (call : FreezeCall) (suffix : Nat)

def commitSnapshot : SpoolProgram SpoolAnswer := do
  let _ ← run (.checkAbsent call.key suffix)
  let _ ← run (.makeCopy call.key suffix)
  let files ← copySources call.key suffix 1 call.sources
  let _ ← run (.moveCopy call.key suffix)
  let _ ← run (.writeJournal call.key (journalOf lib call.sourcePaths files))
  let _ ← run (.markFrozen call.key.2 call.now)
  return .manifest call.key (journalOf lib call.sourcePaths files)

def cleanUpFreeze (reason : SpoolError) : SpoolProgram SpoolAnswer := do
  let _ ← run (.discardCopy call.key suffix)
  let _ ← run (.discardFinal call.key)
  let _ ← run (.drop call.key.2)
  .refuse reason

/-- `freeze_publication`. -/
def freezePublication : SpoolProgram SpoolAnswer :=
  match checkPaths call.sources, prepareFrom 0 call.sources with
  | .error reason, _ | .ok (), .error reason => .refuse reason
  | .ok (), .ok total => do
      let _ ← run (.openSpool call.key.1)
      let existing : Option Journal ← run (.readJournal call.key call.sourcePaths)
      match existing with
      | some journal => return .manifest call.key journal
      | none => do
          let _ ← reconcile 100 call.now
          let _ ← run (.reserve call.key total call.now call.free)
          (commitSnapshot lib call suffix).rescue (cleanUpFreeze call suffix)

end Freeze

/-- `release_publication_spool`. -/
def releasePublicationSpool (key : SpoolKey) (now : Nat) : SpoolProgram SpoolAnswer := do
  let marked : Bool ← run (.markReleasing key now)
  if marked then do
    completeRelease key
    let _ ← run (.drop key.2)
    return .done
  else return .done

/-- The loop over the old records, with the publications removed so far.  Its steps are under the
ledger lock, and the model lets the sections of others in between as well. -/
def removeOld (limit : Nat) (removed : List SpoolKey) :
    List SpoolKey → SpoolProgram (List SpoolKey)
  | [] => return removed
  | key :: rest =>
    if limit ≤ removed.length then return removed
    else do
      let journal : Bool ← run (.seekJournal key)
      if journal then removeOld limit removed rest
      else do
        let _ ← run (.removeFinal key)
        let _ ← run (.removeCopies key)
        let again : Bool ← run (.seekFinal key)
        removeOld limit (if again then removed else removed ++ [key]) rest

/-- `cleanup_stale_publication_copies`. -/
def cleanupStaleCopies (now limit : Nat) : SpoolProgram SpoolAnswer := do
  if limit < 1 ∨ 100 < limit then
    .refuse (.incoming "publication cleanup limit was invalid")
  else do
    let old : List SpoolKey ← run (.listOld now)
    let removed ← removeOld limit [] old
    if removed.isEmpty then return .count 0
    else do
      let _ ← run (.dropStale removed)
      return .count removed.length

/-- `cleanup_profile_publication_spools`. -/
def cleanupProfileSpools (profile : String) : SpoolProgram SpoolAnswer := do
  let _ ← run (.removeSpool profile)
  let _ ← run (.dropProfile profile)
  return .done

/-! ## Pools of calls -/

inductive SpoolCall where
  | freeze (call : FreezeCall)
  | release (key : SpoolKey) (now : Nat)
  | reconcile (limit now : Nat)
  | cleanupStale (now limit : Nat)
  | cleanupProfile (profile : String)

/-- The program of a call.  The number of its start stands for the random suffix of its copy. -/
def SpoolCall.program (lib : SpoolLibrary) (call : SpoolCall) (suffix : Nat) :
    SpoolProgram SpoolAnswer :=
  match call with
  | .freeze call => freezePublication lib call suffix
  | .release key now => releasePublicationSpool key now
  | .reconcile limit now => do
      let found ← Spool.reconcile limit now
      return .count found
  | .cleanupStale now limit => cleanupStaleCopies now limit
  | .cleanupProfile profile => cleanupProfileSpools profile

abbrev SpoolPool := ProgramPool SpoolVolume SpoolAction SpoolReply SpoolError SpoolAnswer

/-- What happens next on the volume: a call comes in, goes on by one action, or crashes. -/
inductive SpoolEvent where
  | start (call : SpoolCall)
  | step (name : Nat) (fault : DiskFault)
  | crash (name : Nat)

def SpoolEvent.poolEvent (lib : SpoolLibrary) :
    SpoolEvent → ProgramEvent SpoolAction SpoolReply SpoolError SpoolAnswer DiskFault
  | .start call => .start (call.program lib)
  | .step name fault => .step name fault
  | .crash name => .crash name

def SpoolPool.apply (lib : SpoolLibrary) (event : SpoolEvent) (pool : SpoolPool) :
    Except Unit (Unit × SpoolPool) :=
  ProgramPool.apply (fun fault => perform lib fault) (event.poolEvent lib) pool

end Spool

end Foundry
