import Mathlib.Data.List.Sort
import Foundry.Lib.Program
import Foundry.Model.JsonText

/-!
# Publication spools

The publication spool of a volume, as `files.py` keeps it: the snapshots and the copies that
become snapshots, the journals, and the ledger that the quotas are read from.  An action is what
happens between two points at which another call, a failure or a crash may come in; a section
under the ledger lock is one action.
-/

set_option autoImplicit false

namespace Foundry

namespace Spool

/-! ## Limits -/

def maxFiles : Nat := 10

def maxPublicationManifests : Nat := 20

def maxPublicationIncomplete : Nat := 2

def maxPublicationFileBytes : Nat := 25000000

def maxPublicationBytes : Nat := 50000000

def maxProfilePublicationBytes : Nat := 100000000

def maxVolumePublicationBytes : Nat := 250000000

def minVolumeFreeBytes : Nat := 250000000

def partialPublicationStaleSeconds : Nat := 24 * 60 * 60

/-- The size from which a journal or the ledger is not read back. -/
def maxJournalBytes : Nat := 64 * 1024

def publicationSchema : String := "allies.publication.v1"

/-! ## Errors -/

/-- `IncomingFileError`, and `PublicationInputError` with its code. -/
inductive SpoolError where
  | incoming (message : String)
  | input (code message : String)
deriving DecidableEq, Repr

def unreadableSource (message : String) : SpoolError := .input "file_unreadable" message

def oversizedSource (message : String) : SpoolError := .input "file_too_large" message

def capacityError : SpoolError := .incoming "local storage capacity is unavailable"

def journalError : SpoolError := .incoming "publication journal was invalid"

def ledgerError : SpoolError := .incoming "publication reservation journal was invalid"

def receiptError : SpoolError := .incoming "incoming file receipt could not be committed"

def snapshotError : SpoolError := .incoming "publication snapshot could not be committed"

def reservationError : SpoolError := .incoming "publication reservation was unavailable"

/-! ## Journals -/

/-- The parts of `hashlib`, `unicodedata`, `str` and `uuid` that the journals go by. -/
structure SpoolLibrary where
  nfc : String → String
  upper : String → String
  uuidText : Uuid → String
  sha256 : Json → String

structure PublicationFile where
  sourceVersionId : Uuid
  name : String
  size : Nat
  sha256 : String
  spoolPath : String
deriving DecidableEq, Repr

/-- What a journal holds besides the schema and the publication it is named after. -/
structure Journal where
  sourcePaths : List String
  manifestSha256 : String
  files : List PublicationFile
deriving DecidableEq, Repr

def bytes (files : List PublicationFile) : Nat := (files.map PublicationFile.size).sum

section Journals

variable (lib : SpoolLibrary)

/-- `frozen_value`, in the order of its keys. -/
def PublicationFile.frozenValue (file : PublicationFile) : List (String × Json) :=
  [("name", .str file.name), ("sha256", .str file.sha256), ("size", .int file.size),
    ("source_version_id", .str (lib.uuidText file.sourceVersionId))]

/-- `_publication_digest`. -/
def publicationDigest (files : List PublicationFile) : String :=
  lib.sha256 (.arr (files.map fun file => .obj (file.frozenValue lib)))

/-- What `_write_publication_manifest` writes. -/
def Journal.json (publicationId : Uuid) (journal : Journal) : Json :=
  .obj [("files", .arr (journal.files.map fun file =>
      .obj (file.frozenValue lib ++ [("spool_path", .str file.spoolPath)]))),
    ("manifest_sha256", .str journal.manifestSha256),
    ("publication_id", .str (lib.uuidText publicationId)),
    ("schema", .str publicationSchema),
    ("source_paths", .arr (journal.sourcePaths.map Json.str))]

/-- `_WINDOWS_RESERVED_NAMES`. -/
def windowsReservedNames : List String :=
  ["CON", "PRN", "AUX", "NUL", "COM1", "COM2", "COM3", "COM4", "COM5", "COM6", "COM7", "COM8",
    "COM9", "LPT1", "LPT2", "LPT3", "LPT4", "LPT5", "LPT6", "LPT7", "LPT8", "LPT9"]

/-- `value.split(".", 1)[0]`. -/
def baseName (value : String) : String :=
  String.ofList (value.toList.takeWhile fun letter => letter != '.')

/-- `_safe_name`. -/
def isSafeName (value : String) : Bool :=
  value ≠ "" && value.length ≤ 255 && lib.nfc value = value && value ≠ "." && value ≠ ".." &&
    value.toList.all (fun letter => letter != '/' && letter != '\\' &&
      !"<>:\"|?*".toList.contains letter && 32 ≤ letter.toNat && letter.toNat ≠ 127) &&
    value.toList.getLast? ≠ some '.' && value.toList.getLast? ≠ some ' ' &&
    !windowsReservedNames.contains (lib.upper (baseName value))

def isLowerHex (letter : Char) : Bool := letter.isDigit || ('a' ≤ letter && letter ≤ 'f')

def PublicationFile.isReadable (file : PublicationFile) : Bool :=
  isSafeName lib file.name && 1 ≤ file.size && file.size ≤ maxPublicationFileBytes &&
    file.sha256.length = 64 && file.sha256.toList.all isLowerHex &&
    file.spoolPath.toList.all (· != '/')

/-- The checks of `_read_publication_manifest` that do not depend on the caller. -/
def Journal.isReadable (publicationId : Uuid) (journal : Journal) : Bool :=
  (journal.json lib publicationId).size ≤ maxJournalBytes && journal.files.length ≤ maxFiles &&
    journal.files.all (PublicationFile.isReadable lib) &&
    publicationDigest lib journal.files = journal.manifestSha256

end Journals

/-! ## The ledger -/

inductive LedgerState where
  | copying
  | frozen
  | releasing
deriving DecidableEq, Repr

def LedgerState.text : LedgerState → String
  | .copying => "copying"
  | .frozen => "frozen"
  | .releasing => "releasing"

structure LedgerRecord where
  profile : String
  size : Nat
  state : LedgerState
  updatedAt : Nat
deriving DecidableEq, Repr

def LedgerRecord.json (record : LedgerRecord) : Json :=
  .obj [("profile", .str record.profile), ("size", .int record.size),
    ("state", .str record.state.text), ("updated_at", .int record.updatedAt)]

abbrev Ledger := Table Uuid LedgerRecord

/-- The records as the file lists them, in the order of their identities. -/
def Ledger.listed (ledger : Ledger) : List (Uuid × LedgerRecord) :=
  ledger.rows.insertionSort fun left right => left.1 ≤ right.1

def emptyLedgerBytes : Nat :=
  (Json.obj [("records", .obj []), ("schema", .str publicationSchema)]).size

/-- The size of the ledger file: a record stands after an identity of 36 characters in quotes
and a colon, and all but one are followed by a comma. -/
def Ledger.bytes (ledger : Ledger) : Nat :=
  emptyLedgerBytes + (ledger.rows.map fun row => 36 + 3 + row.2.json.size).sum +
    (ledger.rows.length - 1)

def Ledger.ofProfile (ledger : Ledger) (profile : String) : List (Uuid × LedgerRecord) :=
  ledger.rows.filter fun row => row.2.profile = profile

def sizes (rows : List (Uuid × LedgerRecord)) : Nat := (rows.map fun row => row.2.size).sum

def copying (rows : List (Uuid × LedgerRecord)) : Nat :=
  (rows.filter fun row => row.2.state = .copying).length

/-! ## The volume -/

structure SpoolFile where
  name : String
  size : Nat
deriving DecidableEq, Repr

abbrev SpoolKey := String × Uuid

/-- The spool of a volume.  A copy has its call's random suffix besides. -/
structure SpoolVolume where
  roots : List String
  finals : Table SpoolKey (List SpoolFile)
  copies : Table (SpoolKey × Nat) (List SpoolFile)
  journals : Table SpoolKey Journal
  ledger : Ledger

def SpoolVolume.empty : SpoolVolume := ⟨[], ∅, ∅, ∅, ∅⟩

/-- `_publication_snapshot_exists`. -/
def SpoolVolume.snapshotExists (volume : SpoolVolume) (key : SpoolKey)
    (files : List PublicationFile) : Bool :=
  match volume.finals.lookup key with
  | none => false
  | some content => files.all fun file =>
    (content.find? fun stored => stored.name = file.spoolPath).any fun stored =>
      stored.size = file.size

inductive DiskFault where
  | fine
  /-- The action fails and leaves no trace. -/
  | before
  /-- The action is done, and fails afterwards. -/
  | after
  /-- A removal fails on its way: these copies stay, and of every directory these files. -/
  | partway (stays : Nat → Bool) (keeps : String → Bool)

def DiskFault.fails : DiskFault → Bool
  | .fine => false
  | _ => true

/-! ## Ledger sections -/

/-- A section under the ledger lock.  It writes the ledger when it gives one. -/
def SpoolVolume.transact {α : Type} (fault : DiskFault)
    (body : Ledger → Except SpoolError (Option Ledger × α)) (volume : SpoolVolume) :
    Except SpoolError α × SpoolVolume :=
  match fault with
  | .before => (.error ledgerError, volume)
  | _ =>
    if maxJournalBytes < volume.ledger.bytes then (.error ledgerError, volume)
    else
      match body volume.ledger with
      | .error reason => (.error reason, volume)
      | .ok (none, value) => (.ok value, volume)
      | .ok (some written, value) =>
        if fault.fails then (.error receiptError, { volume with ledger := written })
        else (.ok value, { volume with ledger := written })

/-- `_read_ledger`, in a section of its own. -/
def SpoolVolume.readLedger (volume : SpoolVolume) : Except SpoolError Ledger :=
  (volume.transact .fine fun ledger => .ok (none, ledger)).1

/-- The ledger is written only where the section has changed it. -/
def Ledger.changed (before after : Ledger) : Option Ledger :=
  if after.rows = before.rows then none else some after

/-- `_reserve_publication`, after the reconciliation. -/
def Ledger.reserve (profile : String) (publicationId : Uuid) (size now free : Nat)
    (ledger : Ledger) : Except SpoolError (Option Ledger × Unit) :=
  match ledger.lookup publicationId with
  | some current =>
    if current.profile = profile ∧ current.size = size then .ok (none, ())
    else .error (.incoming "publication reservation conflicted")
  | none =>
    if maxPublicationManifests ≤ (ledger.ofProfile profile).length then .error capacityError
    else if maxPublicationIncomplete ≤ copying (ledger.ofProfile profile) then
      .error capacityError
    else if maxProfilePublicationBytes < sizes (ledger.ofProfile profile) + size then
      .error capacityError
    else if maxVolumePublicationBytes < sizes ledger.rows + size then .error capacityError
    else if free < minVolumeFreeBytes + size then .error capacityError
    else .ok (some (ledger.insert publicationId ⟨profile, size, .copying, now⟩), ())

/-- `_mark_publication_frozen`. -/
def Ledger.markFrozen (publicationId : Uuid) (now : Nat) (ledger : Ledger) :
    Except SpoolError (Option Ledger × Unit) :=
  match ledger.lookup publicationId with
  | none => .error reservationError
  | some record =>
    .ok (some (ledger.insert publicationId { record with state := .frozen, updatedAt := now }), ())

/-- `_mark_publication_releasing`. -/
def Ledger.markReleasing (profile : String) (publicationId : Uuid) (now : Nat) (ledger : Ledger) :
    Except SpoolError (Option Ledger × Bool) :=
  match ledger.lookup publicationId with
  | none => .ok (none, false)
  | some record =>
    if record.profile ≠ profile ∨ record.state = .copying then .error reservationError
    else if record.state = .releasing then .ok (none, true)
    else
      .ok (some (ledger.insert publicationId
        { record with state := .releasing, updatedAt := now }), true)

/-- `_release_publication`. -/
def Ledger.drop (publicationId : Uuid) (ledger : Ledger) :
    Except SpoolError (Option Ledger × Unit) :=
  match ledger.lookup publicationId with
  | none => .ok (none, ())
  | some _ => .ok (some (ledger.erase publicationId), ())

/-- The first half of `_complete_releasing_publications`. -/
def Ledger.releasing (limit : Nat) (ledger : Ledger) : List SpoolKey :=
  ((ledger.listed.filter fun row => row.2.state = .releasing).map fun row =>
    (row.2.profile, row.1)).take limit

/-- The second half: only records that are still being released are dropped. -/
def Ledger.dropReleasing (completed : List SpoolKey) (ledger : Ledger) : Ledger :=
  ledger.keep fun publicationId record =>
    !(record.state = .releasing && completed.contains (record.profile, publicationId))

/-- The copying records that `cleanup_stale_publication_copies` looks at. -/
def Ledger.old (now : Nat) (ledger : Ledger) : List SpoolKey :=
  (ledger.listed.filter fun row =>
    row.2.state = .copying && row.2.updatedAt + partialPublicationStaleSeconds ≤ now).map fun row =>
    (row.2.profile, row.1)

/-- The records of the copies that it removed, which the lock has left as they were listed. -/
def Ledger.dropStale (removed : List SpoolKey) (ledger : Ledger) : Ledger :=
  ledger.keep fun publicationId record =>
    !(record.state = .copying && removed.contains (record.profile, publicationId))

/-- One snapshot that the reconciliation found: it is charged with what its journal lists. -/
def Ledger.chargeOne (now : Nat) (found : SpoolKey × Nat) (ledger : Ledger) : Ledger :=
  let charged : LedgerRecord := ⟨found.1.1, found.2, .frozen, now⟩
  match ledger.lookup found.1.2 with
  | none => ledger.insert found.1.2 charged
  | some current =>
    if current.state = .releasing then ledger
    else if current.profile ≠ found.1.1 ∨ current.size ≠ found.2 ∨ current.state ≠ .frozen then
      ledger.insert found.1.2 charged
    else ledger

/-! ## Removals -/

def remains (fault : DiskFault) (content : List SpoolFile) : Option (List SpoolFile) :=
  match fault with
  | .before => some content
  | .partway _ keeps => some (content.filter fun file => keeps file.name)
  | _ => none

def setOrErase {κ : Type} [DecidableEq κ] {α : Type} (table : Table κ α) (key : κ) :
    Option α → Table κ α
  | none => table.erase key
  | some value => table.insert key value

def SpoolVolume.removeFinal (fault : DiskFault) (key : SpoolKey) (volume : SpoolVolume) :
    SpoolVolume :=
  match volume.finals.lookup key with
  | none => volume
  | some content => { volume with finals := setOrErase volume.finals key (remains fault content) }

def SpoolVolume.removeCopy (fault : DiskFault) (name : SpoolKey × Nat) (volume : SpoolVolume) :
    SpoolVolume :=
  match volume.copies.lookup name with
  | none => volume
  | some content => { volume with copies := setOrErase volume.copies name (remains fault content) }

def SpoolVolume.removeCopies (fault : DiskFault) (key : SpoolKey) (volume : SpoolVolume) :
    SpoolVolume :=
  match fault with
  | .before => volume
  | .partway stays keeps =>
    { volume with
      copies := (volume.copies.keep fun name _ => name.1 ≠ key || stays name.2).updateAll
        fun name content =>
          if name.1 = key then content.filter fun file => keeps file.name else content }
  | _ => { volume with copies := volume.copies.keep fun name _ => name.1 ≠ key }

/-! ## The spool of a profile -/

/-- `shutil.rmtree` of a profile's spool. -/
def SpoolVolume.removeSpool (fault : DiskFault) (profile : String) (volume : SpoolVolume) :
    SpoolVolume :=
  match fault with
  | .before => volume
  | .partway _ keeps =>
    { volume with
      finals := volume.finals.updateAll fun key content =>
        if key.1 = profile then content.filter fun file => keeps file.name else content
      copies := volume.copies.updateAll fun name content =>
        if name.1.1 = profile then content.filter fun file => keeps file.name else content
      journals := volume.journals.keep fun key journal =>
        key.1 ≠ profile || keeps journal.manifestSha256 }
  | _ =>
    { volume with
      roots := volume.roots.filter fun root => root ≠ profile
      finals := volume.finals.keep fun key _ => key.1 ≠ profile
      copies := volume.copies.keep fun name _ => name.1.1 ≠ profile
      journals := volume.journals.keep fun key _ => key.1 ≠ profile }

def Ledger.dropProfile (profile : String) (ledger : Ledger) :
    Except SpoolError (Option Ledger × Unit) :=
  if (ledger.ofProfile profile).isEmpty then .ok (none, ())
  else .ok (some (ledger.keep fun _ record => record.profile ≠ profile), ())

end Spool

end Foundry
