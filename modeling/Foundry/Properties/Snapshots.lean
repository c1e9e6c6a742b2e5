import Foundry.Volume.SpoolCalls

/-!
# Journals and their snapshots

A freezing call writes its journal only right after its copy has become the final directory.
What can take that directory away again is a failure handler, a release or the clean-up of stale
copies: the journals keep their snapshots in every run in which these meet no publication that
another call has committed or is about to commit.
-/

set_option autoImplicit false

namespace Foundry

namespace Spool

open Program

/-! ## The property -/

def SpoolVolume.isReleasing (volume : SpoolVolume) (key : SpoolKey) : Bool :=
  (volume.ledger.lookup key.2).any fun record =>
    record.profile = key.1 && record.state = .releasing

/-- The journal of the publication, where there is one, has its snapshot. -/
def SpoolVolume.isBacked (volume : SpoolVolume) (key : SpoolKey) : Bool :=
  (volume.journals.lookup key).all fun journal => volume.snapshotExists key journal.files

/-- Every journal that is not being released has its snapshot. -/
def SpoolVolume.Backed (volume : SpoolVolume) : Prop :=
  ∀ key, volume.isReleasing key = false → volume.isBacked key = true

/-! ## The condition -/

/-- A call is about to write the journal of the publication. -/
def SpoolPool.commits (pool : SpoolPool) (key : SpoolKey) : Bool :=
  pool.programs.rows.any fun row =>
    match row.2.head? with
    | some (.writeJournal other _) => other = key
    | _ => false

def SpoolPool.fills (pool : SpoolPool) (key : SpoolKey) : Bool :=
  pool.programs.rows.any fun row =>
    match row.2.head? with
    | some (.copyFile other _ _) | some (.moveCopy other _) => other = key
    | _ => false

/-- Nobody needs the final directory: it is not there, or no call is about to write its journal
and none stands, unless it is being released. -/
def SpoolPool.isUnneeded (pool : SpoolPool) (key : SpoolKey) : Bool :=
  (pool.state.finals.lookup key).isNone ||
    !pool.commits key && ((pool.state.journals.lookup key).isNone || pool.state.isReleasing key)

/-- The publication is not being released, or its journal does not depend on that. -/
def SpoolVolume.mayEnd (volume : SpoolVolume) (key : SpoolKey) : Bool :=
  !volume.isReleasing key || volume.isBacked key

/-- The manifest that a call returns when the marking that comes next succeeds. -/
def markedManifest : SpoolProgram SpoolAnswer → Option (SpoolKey × Journal)
  | .act (.markFrozen _ _) next =>
    match (next (.ok ())).value? with
    | some (.manifest key journal) => some (key, journal)
    | _ => none
  | _ => none

def DiskFault.damages : DiskFault → Bool
  | .partway _ _ => true
  | _ => false

/-- The next action of a program spares the snapshots of committed publications. -/
def SpoolPool.sparesAction (pool : SpoolPool) (fault : DiskFault)
    (program : SpoolProgram SpoolAnswer) : Bool :=
  let volume := pool.state
  match program.head? with
  | some (.discardFinal key) | some (.removeFinal key) => pool.isUnneeded key
  | some (.removeCopies key) => !fault.damages || !pool.fills key
  | some (.drop publicationId) =>
    (volume.ledger.lookup publicationId).all fun record =>
      volume.mayEnd (record.profile, publicationId)
  | some (.dropReleasing completed) => completed.all volume.mayEnd
  | some (.markFrozen publicationId _) =>
    ((volume.ledger.lookup publicationId).all fun record =>
        volume.mayEnd (record.profile, publicationId)) &&
      (markedManifest program).all fun marked =>
        volume.journals.lookup marked.1 = some marked.2
  | some (.readJournal key _) => volume.mayEnd key
  -- the removal of a whole profile is no part of the condition
  | some (.removeSpool _) | some (.dropProfile _) => false
  | _ => true

def SpoolPool.spares (pool : SpoolPool) : SpoolEvent → Bool
  | .step name fault => (pool.programs.lookup name).all (pool.sparesAction fault)
  | _ => true

/-! ## The protocol of a freezing call -/

inductive FreezeMode where
  | idle
  /-- The copy holds these files. -/
  | filling (key : SpoolKey) (files : List PublicationFile)
  /-- The final directory holds these files, and the journal does not stand yet. -/
  | placed (key : SpoolKey) (files : List PublicationFile)
  | written (key : SpoolKey) (journal : Journal)
  | returned (key : SpoolKey) (journal : Journal)

/-- The actions that a call does not need a place in the protocol for. -/
def SpoolAction.isPlain (name : Nat) : SpoolAction → Bool
  | .makeCopy _ suffix | .discardCopy _ suffix => suffix = name
  | .copyFile .. | .moveCopy .. | .writeJournal .. | .markFrozen .. => false
  | .reserve _ size _ _ => size ≤ maxPublicationBytes
  | _ => true

/-- What each action does to the place of its call in the protocol. -/
inductive FreezeMoves (name : Nat) :
    FreezeMode → (action : SpoolAction) → SpoolReply action → FreezeMode → Prop where
  | plain {action : SpoolAction} {reply : SpoolReply action} (isPlain : action.isPlain name = true) :
      FreezeMoves name .idle action reply .idle
  | found {key : SpoolKey} {sourcePaths : List String} {journal : Journal} :
      FreezeMoves name .idle (.readJournal key sourcePaths) (.ok (some journal))
        (.returned key journal)
  | make {key : SpoolKey} :
      FreezeMoves name .idle (.makeCopy key name) (.ok ()) (.filling key [])
  | copy {key : SpoolKey} {files : List PublicationFile} {file : PublicationFile}
      {source : Except SpoolError PublicationFile} :
      FreezeMoves name (.filling key files) (.copyFile key name source) (.ok file)
        (.filling key (files ++ [file]))
  | copyFails {key : SpoolKey} {files : List PublicationFile}
      {source : Except SpoolError PublicationFile} {reason : SpoolError} :
      FreezeMoves name (.filling key files) (.copyFile key name source) (.error reason) .idle
  | move {key : SpoolKey} {files : List PublicationFile} :
      FreezeMoves name (.filling key files) (.moveCopy key name) (.ok ()) (.placed key files)
  | moveFails {key : SpoolKey} {files : List PublicationFile} {reason : SpoolError} :
      FreezeMoves name (.filling key files) (.moveCopy key name) (.error reason) .idle
  | write {key : SpoolKey} {files : List PublicationFile} {journal : Journal}
      (same : journal.files = files) :
      FreezeMoves name (.placed key files) (.writeJournal key journal) (.ok ())
        (.written key journal)
  | writeFails {key : SpoolKey} {files : List PublicationFile} {journal : Journal}
      {reason : SpoolError} (same : journal.files = files) :
      FreezeMoves name (.placed key files) (.writeJournal key journal) (.error reason) .idle
  | mark {key : SpoolKey} {journal : Journal} {now : Nat} :
      FreezeMoves name (.written key journal) (.markFrozen key.2 now) (.ok ())
        (.returned key journal)
  | markFails {key : SpoolKey} {journal : Journal} {now : Nat} {reason : SpoolError} :
      FreezeMoves name (.written key journal) (.markFrozen key.2 now) (.error reason) .idle

/-- A manifest is answered from the place where it was found or marked. -/
def FreezeAnswers : SpoolAnswer → FreezeMode → Prop
  | .manifest key journal, mode => mode = .returned key journal
  | _, mode => mode = .idle

def FreezeRefuses (_ : SpoolError) (mode : FreezeMode) : Prop := mode = .idle

def Covers (content : List SpoolFile) (files : List PublicationFile) : Prop :=
  ∀ file ∈ files, (content.find? fun stored => stored.name = file.spoolPath).any (fun stored =>
    stored.size = file.size) = true

def FreezeFact (name : Nat) : FreezeMode → SpoolVolume → Prop
  | .filling key files, volume =>
    ∀ content, volume.copies.lookup (key, name) = some content → Covers content files
  | .placed key files, volume => volume.snapshotExists key files = true
  | _, _ => True

/-! ## The calls follow it -/

variable {action : SpoolAction}

theorem follows_run {Mode : Type}
    {moves : Mode → (action : SpoolAction) → SpoolReply action → Mode → Prop}
    {Refuses : SpoolError → Mode → Prop} {mode : Mode} {Done : action.Value → Mode → Prop}
    (succeeds : ∀ value, ∃ after, moves mode action (.ok value) after ∧ Done value after)
    (fails : ∀ reason, ∃ after, moves mode action (.error reason) after ∧ Refuses reason after) :
    (run action).Follows moves Done Refuses mode := by
  intro reply
  cases reply with
  | ok value => exact succeeds value
  | error reason => exact fails reason

section Follows

variable {α β : Type} {name : Nat} {Answers : α → FreezeMode → Prop}
  {Refuses : SpoolError → FreezeMode → Prop}

theorem follows_plain {Done : action.Value → FreezeMode → Prop}
    (isPlain : action.isPlain name = true) (holds : ∀ value, Done value .idle) :
    (run action).Follows (FreezeMoves name) Done FreezeRefuses .idle :=
  follows_run (fun value => ⟨.idle, .plain isPlain, holds value⟩)
    (fun _ => ⟨.idle, .plain isPlain, rfl⟩)

theorem follows_plain_bind
    {next : action.Value → SpoolProgram α} (isPlain : action.isPlain name = true)
    (follows : ∀ value, (next value).Follows (FreezeMoves name) Answers FreezeRefuses .idle) :
    (run action >>= next).Follows (FreezeMoves name) Answers FreezeRefuses .idle :=
  follows_bind (follows_plain isPlain follows)

theorem completeRelease_follows (key : SpoolKey) :
    (completeRelease key).Follows (FreezeMoves name) (fun _ mode => mode = .idle) FreezeRefuses
      .idle :=
  follows_plain_bind rfl fun _ => follows_plain_bind rfl fun _ => rfl

theorem completeReleases_follows (keys : List SpoolKey) :
    (completeReleases keys).Follows (FreezeMoves name) (fun _ mode => mode = .idle) FreezeRefuses
      .idle := by
  induction keys with
  | nil => exact rfl
  | cons key _ ih =>
    refine follows_bind (follows_mono (completeRelease_follows key) ?_ (fun _ _ same => same))
    rintro _ _ rfl
    exact ih

theorem completeReleasing_follows (limit : Nat) :
    (completeReleasing limit).Follows (FreezeMoves name) (fun _ mode => mode = .idle)
      FreezeRefuses .idle := by
  refine follows_plain_bind rfl fun releasing => ?_
  refine follows_bind (follows_mono (completeReleases_follows releasing) ?_ (fun _ _ same => same))
  rintro _ _ rfl
  split
  · exact rfl
  · exact follows_plain_bind rfl fun _ => rfl

theorem recheckAll_follows (keys : List SpoolKey) :
    (recheckAll keys).Follows (FreezeMoves name) (fun _ mode => mode = .idle) FreezeRefuses
      .idle := by
  induction keys with
  | nil => exact rfl
  | cons _ _ ih =>
    refine follows_plain_bind rfl fun _ => follows_bind (follows_mono ih ?_ (fun _ _ same => same))
    rintro _ _ rfl
    exact rfl

theorem removeOld_follows (limit : Nat) (keys removed : List SpoolKey) :
    (removeOld limit removed keys).Follows (FreezeMoves name) (fun _ mode => mode = .idle)
      FreezeRefuses .idle := by
  induction keys generalizing removed with
  | nil => exact rfl
  | cons _ _ ih =>
    unfold removeOld
    split
    · exact rfl
    · refine follows_plain_bind rfl fun journal => ?_
      split
      · exact ih removed
      · exact follows_plain_bind rfl fun _ => follows_plain_bind rfl fun _ =>
          follows_plain_bind rfl fun _ => ih _

theorem reconcile_follows (limit now : Nat) :
    (reconcile limit now).Follows (FreezeMoves name) (fun _ mode => mode = .idle) FreezeRefuses
      .idle := by
  unfold reconcile
  split
  · exact rfl
  · refine follows_bind (follows_mono (completeReleasing_follows limit) ?_ (fun _ _ same => same))
    rintro _ _ rfl
    refine follows_plain_bind rfl fun discovered => ?_
    refine follows_bind (follows_mono (recheckAll_follows discovered) ?_ (fun _ _ same => same))
    rintro _ _ rfl
    exact follows_plain_bind rfl fun _ => rfl

theorem copySources_follows (key : SpoolKey) (ordinal : Nat) (sources : List PublicationSource)
    (files : List PublicationFile) :
    (copySources key name ordinal sources).Follows (FreezeMoves name)
      (fun copied mode => mode = .filling key (files ++ copied)) FreezeRefuses
      (.filling key files) := by
  induction sources generalizing ordinal files with
  | nil => exact congrArg _ (List.append_nil files).symm
  | cons _ _ ih =>
    refine follows_bind (follows_run (fun (file : PublicationFile) => ⟨_, .copy, ?_⟩)
      fun _ => ⟨_, .copyFails, rfl⟩)
    refine follows_bind (follows_mono (ih (ordinal + 1) (files ++ [file])) ?_
      (fun _ _ same => same))
    rintro _ _ rfl
    exact congrArg _ (by rw [List.append_assoc, List.singleton_append])

variable (lib : SpoolLibrary) (call : FreezeCall)

theorem commitSnapshot_follows :
    (commitSnapshot lib call name).Follows (FreezeMoves name) FreezeAnswers FreezeRefuses .idle := by
  refine follows_plain_bind rfl fun _ => ?_
  refine follows_bind (follows_run (fun _ => ⟨_, .make, ?_⟩)
    fun _ => ⟨_, .plain (decide_eq_true rfl), rfl⟩)
  refine follows_bind (follows_mono (copySources_follows call.key 1 call.sources []) ?_
    (fun _ _ same => same))
  rintro _ _ rfl
  rw [List.nil_append]
  refine follows_bind (follows_run (fun _ => ⟨_, .move, ?_⟩) fun _ => ⟨_, .moveFails, rfl⟩)
  refine follows_bind (follows_run (fun _ => ⟨_, .write rfl, ?_⟩) fun _ => ⟨_, .writeFails rfl, rfl⟩)
  exact follows_bind (follows_run (fun _ => ⟨_, .mark, rfl⟩) fun _ => ⟨_, .markFails, rfl⟩)

theorem cleanUpFreeze_follows (reason : SpoolError) :
    (cleanUpFreeze call name reason).Follows (FreezeMoves name) FreezeAnswers FreezeRefuses
      .idle :=
  follows_plain_bind (decide_eq_true rfl) fun _ => follows_plain_bind rfl fun _ =>
    follows_plain_bind rfl fun _ => rfl

theorem prepareFrom_le {total result : Nat} {sources : List PublicationSource}
    (within : total ≤ maxPublicationBytes) (prepared : prepareFrom total sources = .ok result) :
    result ≤ maxPublicationBytes := by
  induction sources generalizing total with
  | nil =>
    cases prepared
    exact within
  | cons _ _ ih =>
    unfold prepareFrom at prepared
    split at prepared
    · cases prepared
    · split at prepared
      · cases prepared
      · next fits => exact ih (Nat.le_of_not_lt fits) prepared

theorem freezePublication_follows :
    (freezePublication lib call name).Follows (FreezeMoves name) FreezeAnswers FreezeRefuses
      .idle := by
  unfold freezePublication
  split
  · exact rfl
  · exact rfl
  · next prepared =>
    have reservable := decide_eq_true (prepareFrom_le (Nat.zero_le _) prepared)
    refine follows_plain_bind rfl fun _ => follows_bind (follows_run ?_
      fun _ => ⟨_, .plain rfl, rfl⟩)
    rintro (_ | journal)
    · refine ⟨.idle, .plain rfl, ?_⟩
      refine follows_bind (follows_mono (reconcile_follows 100 call.now) ?_ (fun _ _ same => same))
      rintro _ _ rfl
      refine follows_plain_bind reservable fun _ => ?_
      refine follows_rescue (follows_mono (commitSnapshot_follows lib call)
        (fun _ _ answers => answers) ?_)
      rintro reason _ rfl
      exact cleanUpFreeze_follows call reason
    · exact ⟨.returned call.key journal, .found, rfl⟩

theorem program_follows (other : SpoolCall) :
    (other.program lib name).Follows (FreezeMoves name) FreezeAnswers FreezeRefuses .idle := by
  cases other with
  | freeze call => exact freezePublication_follows lib call
  | release key =>
    refine follows_plain_bind rfl fun marked => ?_
    split
    · refine follows_bind (follows_mono (completeRelease_follows key) ?_ (fun _ _ same => same))
      rintro _ _ rfl
      exact follows_plain_bind rfl fun _ => rfl
    · exact rfl
  | reconcile limit now =>
    refine follows_bind (follows_mono (reconcile_follows limit now) ?_ (fun _ _ same => same))
    rintro _ _ rfl
    exact rfl
  | cleanupStale now limit =>
    change (cleanupStaleCopies now limit).Follows (FreezeMoves name) FreezeAnswers
      FreezeRefuses .idle
    unfold cleanupStaleCopies
    split
    · exact rfl
    · refine follows_plain_bind rfl fun old => ?_
      refine follows_bind (follows_mono (removeOld_follows limit old []) ?_
        (fun _ _ same => same))
      rintro _ _ rfl
      split
      · exact rfl
      · exact follows_plain_bind rfl fun _ => rfl
  | cleanupProfile =>
    exact follows_plain_bind rfl fun _ => follows_plain_bind rfl fun _ => rfl

end Follows

/-! ## What the ledger says -/

variable {publicationId : Uuid} {now : Nat}

section Ledger

variable {volume : SpoolVolume} {fault : DiskFault} {α : Type}

theorem transact_cases (volume : SpoolVolume) (fault : DiskFault)
    (body : Ledger → Except SpoolError (Option Ledger × α)) :
    (volume.transact fault body).2 = volume ∨
      ∃ written value, body volume.ledger = .ok (some written, value) ∧
        (volume.transact fault body).2 = { volume with ledger := written } := by
  unfold SpoolVolume.transact
  split
  · exact .inl rfl
  · split
    · exact .inl rfl
    · split
      · exact .inl rfl
      · exact .inl rfl
      · next written value given =>
        split
        · exact .inr ⟨written, value, given, rfl⟩
        · exact .inr ⟨written, value, given, rfl⟩

variable {written : Ledger}

theorem changed_eq_some {before after : Ledger}
    (given : before.changed after = some written) : after = written := by
  unfold Ledger.changed at given
  split at given
  · cases given
  · exact Option.some.inj given

def Ledger.KeepsReleasing (before after : Ledger) : Prop :=
  ∀ publicationId record, before.lookup publicationId = some record →
    record.state = .releasing → after.lookup publicationId = some record

variable {ledger : Ledger}

theorem Backed.of_ledger (backed : volume.Backed) (stays : ∀ key, volume.isReleasing key = true →
      SpoolVolume.isReleasing { volume with ledger := ledger } key = true ∨
        volume.isBacked key = true) :
    SpoolVolume.Backed { volume with ledger := ledger } := by
  intro key free
  by_cases releasing : volume.isReleasing key = true
  · rcases stays key releasing with still | isBacked
    · rw [still] at free
      cases free
    · exact isBacked
  · exact backed key (Bool.not_eq_true _ ▸ releasing)

theorem isReleasing_of_keeps (keeps : volume.ledger.KeepsReleasing ledger)
    (key : SpoolKey) (releasing : volume.isReleasing key = true) :
    SpoolVolume.isReleasing { volume with ledger := ledger } key = true := by
  rw [SpoolVolume.isReleasing, Option.any_eq_true] at releasing ⊢
  obtain ⟨record, stored, isRecord⟩ := releasing
  have state : record.state = .releasing := by
    simp only [Bool.and_eq_true, decide_eq_true_eq] at isRecord
    exact isRecord.2
  exact ⟨record, keeps key.2 record stored state, isRecord⟩

theorem keepsReleasing_insert {record : LedgerRecord}
    (free : ∀ stored, ledger.lookup publicationId = some stored → stored.state ≠ .releasing) :
    ledger.KeepsReleasing (ledger.insert publicationId record) := by
  intro other stored found releasing
  rw [Table.lookup_insert_eq]
  split
  · next same =>
    rw [same] at found
    exact absurd releasing (free stored found)
  · exact found

variable {profile : String}

theorem keepsReleasing_reserve {size free : Nat} {value : Unit}
    (given : ledger.reserve profile publicationId size now free = .ok (some written, value)) :
    ledger.KeepsReleasing written := by
  unfold Ledger.reserve at given
  split at given
  · split at given <;> cases given
  · next absent =>
    split_ifs at given
    cases given
    refine keepsReleasing_insert fun stored found => ?_
    rw [absent] at found
    cases found

theorem keepsReleasing_markReleasing {value : Bool}
    (given : ledger.markReleasing profile publicationId now = .ok (some written, value)) :
    ledger.KeepsReleasing written := by
  unfold Ledger.markReleasing at given
  split at given
  · cases given
  · next stored =>
    split at given
    · cases given
    · split at given
      · cases given
      · next notReleasing =>
        cases given
        refine keepsReleasing_insert fun other found => ?_
        rw [stored, Option.some.injEq] at found
        rw [← found]
        exact notReleasing

theorem keepsReleasing_chargeOne (now : Nat) (found : SpoolKey × Nat) (ledger : Ledger) :
    ledger.KeepsReleasing (ledger.chargeOne now found) := by
  unfold Ledger.chargeOne
  simp only
  split
  · next absent =>
    refine keepsReleasing_insert fun stored isStored => ?_
    rw [absent] at isStored
    cases isStored
  · next stored =>
    split_ifs with releasing differs
    · exact fun _ _ same _ => same
    · refine keepsReleasing_insert fun other isOther => ?_
      rw [stored, Option.some.injEq] at isOther
      rw [← isOther]
      exact releasing
    · exact fun _ _ same _ => same

theorem keepsReleasing_chargeAll (found : List (SpoolKey × Nat)) (now : Nat) (ledger : Ledger) :
    ledger.KeepsReleasing (ledger.chargeAll found now) := by
  unfold Ledger.chargeAll
  induction found generalizing ledger with
  | nil => exact fun _ _ same _ => same
  | cons entry _ ih =>
    intro publicationId record stored releasing
    exact ih (ledger.chargeOne now entry) publicationId record
      (keepsReleasing_chargeOne now entry ledger publicationId record stored releasing) releasing

end Ledger

/-! ## What is removed -/

variable {content : List SpoolFile} {α : Type} {after : SpoolVolume}

section Removals

variable {volume : SpoolVolume} (fault : DiskFault) {key other : SpoolKey}

theorem snapshotExists_of_lookup (files : List PublicationFile)
    (same : after.finals.lookup key = volume.finals.lookup key) :
    after.snapshotExists key files = volume.snapshotExists key files := by
  rw [SpoolVolume.snapshotExists, SpoolVolume.snapshotExists, same]

theorem lookup_setOrErase_of_ne {κ : Type} [DecidableEq κ] {table : Table κ α} {name different : κ}
    {value : Option α} (ne : different ≠ name) :
    (setOrErase table name value).lookup different = table.lookup different := by
  cases value with
  | none => exact AList.lookup_erase_ne ne
  | some => exact AList.lookup_insert_ne ne

theorem removeFinal_others (volume : SpoolVolume) (key : SpoolKey) :
    (volume.removeFinal fault key).journals = volume.journals ∧
    (volume.removeFinal fault key).ledger = volume.ledger ∧
    (volume.removeFinal fault key).copies = volume.copies := by
  unfold SpoolVolume.removeFinal
  split
  · exact ⟨rfl, rfl, rfl⟩
  · exact ⟨rfl, rfl, rfl⟩

theorem removeFinal_finals (ne : other ≠ key) :
    (volume.removeFinal fault key).finals.lookup other = volume.finals.lookup other := by
  unfold SpoolVolume.removeFinal
  split
  · rfl
  · exact lookup_setOrErase_of_ne ne

theorem removeFinal_absent (absent : volume.finals.lookup key = none) :
    volume.removeFinal fault key = volume := by
  rw [SpoolVolume.removeFinal, absent]

theorem removeCopies_copies {suffix : Nat} (whole : fault.damages = false ∨ other ≠ key)
    (found : (volume.removeCopies fault key).copies.lookup (other, suffix) = some content) :
    volume.copies.lookup (other, suffix) = some content := by
  cases fault with
  | before => exact found
  | fine | after => exact ((Table.lookup_keep_eq_some ..).mp found).1
  | partway =>
    have different : other ≠ key := whole.resolve_left (by rintro ⟨⟩)
    simp only [SpoolVolume.removeCopies, Table.lookup_updateAll, Option.map_eq_some_iff] at found
    obtain ⟨_, isStored, same⟩ := found
    rw [if_neg different] at same
    rw [← same]
    exact ((Table.lookup_keep_eq_some ..).mp isStored).1

theorem removeCopies_others (volume : SpoolVolume) (key : SpoolKey) :
    (volume.removeCopies fault key).journals = volume.journals ∧
    (volume.removeCopies fault key).ledger = volume.ledger ∧
    (volume.removeCopies fault key).finals = volume.finals := by
  unfold SpoolVolume.removeCopies
  split
  · exact ⟨rfl, rfl, rfl⟩
  · exact ⟨rfl, rfl, rfl⟩
  · exact ⟨rfl, rfl, rfl⟩

theorem removeCopy_others (volume : SpoolVolume) (name : SpoolKey × Nat) :
    (volume.removeCopy fault name).journals = volume.journals ∧
      (volume.removeCopy fault name).ledger = volume.ledger ∧
      (volume.removeCopy fault name).finals = volume.finals := by
  unfold SpoolVolume.removeCopy
  split
  · exact ⟨rfl, rfl, rfl⟩
  · exact ⟨rfl, rfl, rfl⟩

theorem removeCopy_copies {name different : SpoolKey × Nat} (ne : different ≠ name) :
    (volume.removeCopy fault name).copies.lookup different = volume.copies.lookup different := by
  unfold SpoolVolume.removeCopy
  split
  · rfl
  · exact lookup_setOrErase_of_ne ne

end Removals

/-! ## One action -/

variable {files : List PublicationFile} {reason : SpoolError} {mode : FreezeMode} {value : α}

section Actions

variable {lib : SpoolLibrary} {fault : DiskFault} {pool : SpoolPool} {name : Nat}
  {after : SpoolVolume}

structure SpoolPool.Spared (pool : SpoolPool) (name : Nat) (after : SpoolVolume) : Prop where
  backed : pool.state.Backed → after.Backed
  copies : ∀ key other content, other ≠ name → pool.fills key = true →
    after.copies.lookup (key, other) = some content →
    pool.state.copies.lookup (key, other) = some content
  finals : ∀ key files, pool.commits key = true → pool.state.snapshotExists key files = true →
    after.snapshotExists key files = true

theorem isBacked_spec {volume : SpoolVolume} {key : SpoolKey} :
    volume.isBacked key = true ↔ ∀ journal, volume.journals.lookup key = some journal →
      volume.snapshotExists key journal.files = true := by
  simp [SpoolVolume.isBacked, Option.all_eq_true]

theorem Backed.of_finals {volume : SpoolVolume} (backed : volume.Backed)
    (journals : after.journals = volume.journals) (ledger : after.ledger = volume.ledger)
    (finals : ∀ key files, volume.journals.lookup key ≠ none → volume.isReleasing key = false →
      volume.snapshotExists key files = true → after.snapshotExists key files = true) :
    after.Backed := by
  intro key free
  have unreleased : volume.isReleasing key = false := by
    rw [SpoolVolume.isReleasing, ledger] at free
    exact free
  rw [isBacked_spec, journals]
  intro journal stored
  exact finals key journal.files (by rw [stored]; simp) unreleased
    (isBacked_spec.mp (backed key unreleased) journal stored)

theorem spared_of_copies (journals : after.journals = pool.state.journals)
    (ledger : after.ledger = pool.state.ledger) (finals : after.finals = pool.state.finals)
    (copies : ∀ key other content, other ≠ name → pool.fills key = true →
      after.copies.lookup (key, other) = some content →
      pool.state.copies.lookup (key, other) = some content) :
    pool.Spared name after where
  backed := fun backed => Backed.of_finals backed journals ledger fun key files _ _ holds => by
    rw [snapshotExists_of_lookup files (congrArg _ finals)]
    exact holds
  copies := copies
  finals := fun key files _ holds => by
    rw [snapshotExists_of_lookup files (congrArg _ finals)]
    exact holds

theorem spared_refl (pool : SpoolPool) (name : Nat) : pool.Spared name pool.state :=
  spared_of_copies rfl rfl rfl fun _ _ _ _ _ same => same

section

variable {α : Type} {body : Ledger → Except SpoolError (Option Ledger × α)}

theorem spared_of_transact
    (stays : ∀ written value, body pool.state.ledger = .ok (some written, value) →
      ∀ key, pool.state.isReleasing key = true →
        SpoolVolume.isReleasing { pool.state with ledger := written } key = true ∨
          pool.state.isBacked key = true) :
    pool.Spared name (pool.state.transact fault body).2 := by
  rcases transact_cases pool.state fault body with
    same | ⟨written, value, given, same⟩
  · rw [same]
    exact spared_refl pool name
  · rw [same]
    exact ⟨fun backed => Backed.of_ledger backed (stays written value given),
      fun _ _ _ _ _ same => same, fun _ _ _ holds => holds⟩

theorem spared_of_keeps
    (keeps : ∀ written value, body pool.state.ledger = .ok (some written, value) →
      pool.state.ledger.KeepsReleasing written) :
    pool.Spared name (pool.state.transact fault body).2 :=
  spared_of_transact fun written value given key releasing =>
    .inl (isReleasing_of_keeps (keeps written value given) key releasing)

end

theorem spared_of_read (reason : SpoolError) (result : Except SpoolError α) :
    pool.Spared name (pool.state.read fault reason result).2 :=
  spared_refl pool name

theorem change_cases (volume : SpoolVolume) (fault : DiskFault) (reason : SpoolError)
    (value : α) (change : SpoolVolume → SpoolVolume) :
    (volume.change fault reason value change).2 = change volume ∨
      (volume.change fault reason value change).2 = volume ∧
        (volume.change fault reason value change).1 = .error reason := by
  cases fault with
  | fine => exact .inl rfl
  | after => exact .inl rfl
  | before | partway => exact .inr ⟨rfl, rfl⟩

theorem spared_of_removeFinal {key : SpoolKey}
    (unneeded : pool.state.finals.lookup key = none ∨ pool.commits key = false ∧
      (pool.state.journals.lookup key = none ∨ pool.state.isReleasing key = true)) :
    pool.Spared name (pool.state.removeFinal fault key) := by
  rcases unneeded with absent | ⟨uncommitted, unneeded⟩
  · rw [removeFinal_absent fault absent]
    exact spared_refl pool name
  · obtain ⟨journals, ledger, copies⟩ := removeFinal_others fault pool.state key
    refine ⟨fun backed => Backed.of_finals backed journals ledger ?_, ?_, ?_⟩
    · intro other files present free holds
      by_cases same : other = key
      · subst same
        rcases unneeded with absent | releasing
        · exact absurd absent present
        · rw [releasing] at free
          cases free
      · rw [snapshotExists_of_lookup files (removeFinal_finals fault same)]
        exact holds
    · intro other suffix content _ _ found
      rw [copies] at found
      exact found
    · intro other files committed holds
      by_cases same : other = key
      · rw [same, uncommitted] at committed
        cases committed
      · rw [snapshotExists_of_lookup files (removeFinal_finals fault same)]
        exact holds

section

variable {volume : SpoolVolume} {key : SpoolKey}

theorem isReleasing_spec
    (releasing : volume.isReleasing key = true) :
    ∃ record, volume.ledger.lookup key.2 = some record ∧ record.profile = key.1 ∧
      record.state = .releasing := by
  rw [SpoolVolume.isReleasing, Option.any_eq_true] at releasing
  obtain ⟨record, stored, isRecord⟩ := releasing
  simp only [Bool.and_eq_true, decide_eq_true_eq] at isRecord
  exact ⟨record, stored, isRecord⟩

theorem mayEnd_spec (mayEnd : volume.mayEnd key = true)
    (releasing : volume.isReleasing key = true) : volume.isBacked key = true := by
  rw [SpoolVolume.mayEnd, releasing] at mayEnd
  exact mayEnd

end

theorem spared_of_dropReleasing {completed : List SpoolKey}
    (mayEnd : ∀ key ∈ completed, pool.state.mayEnd key = true) :
    pool.Spared name (pool.state.transact fault fun ledger =>
      .ok (ledger.changed (ledger.dropReleasing completed), ())).2 := by
  refine spared_of_transact fun written value given key releasing => ?_
  simp only [Except.ok.injEq, Prod.mk.injEq] at given
  have dropped := changed_eq_some given.1
  obtain ⟨record, stored, named, state⟩ := isReleasing_spec releasing
  by_cases done : key ∈ completed
  · exact .inr (mayEnd_spec (mayEnd key done) releasing)
  · refine .inl ?_
    rw [SpoolVolume.isReleasing, Option.any_eq_true]
    refine ⟨record, ?_, by simp [named, state]⟩
    rw [← dropped, Ledger.dropReleasing, Table.lookup_keep_eq_some]
    refine ⟨stored, ?_⟩
    simp [named, done]

theorem keepsReleasing_dropStale (removed : List SpoolKey) (ledger : Ledger) :
    ledger.KeepsReleasing (ledger.dropStale removed) := by
  intro publicationId record stored releasing
  rw [Ledger.dropStale, Table.lookup_keep_eq_some]
  exact ⟨stored, by simp [releasing]⟩

section

variable {publicationId : Uuid}

theorem mayEnd_of_record {key : SpoolKey}
    (mayEnd : ∀ record, pool.state.ledger.lookup publicationId = some record →
      pool.state.mayEnd (record.profile, publicationId) = true)
    (same : key.2 = publicationId) (releasing : pool.state.isReleasing key = true) :
    pool.state.isBacked key = true := by
  obtain ⟨record, stored, named, _⟩ := isReleasing_spec releasing
  have ends := mayEnd record (same ▸ stored)
  rw [named, ← same] at ends
  exact mayEnd_spec ends releasing

section

variable
  (mayEnd : ∀ record, pool.state.ledger.lookup publicationId = some record → pool.state.mayEnd (record.profile, publicationId) = true)

include mayEnd

theorem spared_of_drop :
    pool.Spared name (pool.state.transact fault (Ledger.drop publicationId)).2 := by
  refine spared_of_transact fun written value given key releasing => ?_
  obtain ⟨record, stored, named, state⟩ := isReleasing_spec releasing
  unfold Ledger.drop at given
  split at given
  · cases given
  · simp only [Except.ok.injEq, Prod.mk.injEq, Option.some.injEq] at given
    by_cases same : key.2 = publicationId
    · exact .inr (mayEnd_of_record mayEnd same releasing)
    · refine .inl ?_
      rw [SpoolVolume.isReleasing, Option.any_eq_true]
      refine ⟨record, ?_, by simp [named, state]⟩
      rw [← given.1, AList.lookup_erase_ne same]
      exact stored

theorem spared_of_markFrozen :
    pool.Spared name (pool.state.transact fault (Ledger.markFrozen publicationId now)).2 := by
  refine spared_of_transact fun written value given key releasing => ?_
  obtain ⟨record, stored, named, state⟩ := isReleasing_spec releasing
  unfold Ledger.markFrozen at given
  split at given
  · cases given
  · simp only [Except.ok.injEq, Prod.mk.injEq, Option.some.injEq] at given
    by_cases same : key.2 = publicationId
    · exact .inr (mayEnd_of_record mayEnd same releasing)
    · refine .inl ?_
      rw [SpoolVolume.isReleasing, Option.any_eq_true]
      refine ⟨record, ?_, by simp [named, state]⟩
      rw [← given.1, AList.lookup_insert_ne same]
      exact stored

end

end

theorem spared_of_removeJournal (key : SpoolKey) :
    pool.Spared name { pool.state with journals := pool.state.journals.erase key } where
  backed := by
    intro backed other free
    rw [isBacked_spec]
    intro journal stored
    have kept : pool.state.journals.lookup other = some journal := Table.lookup_of_erase stored
    exact isBacked_spec.mp (backed other free) journal kept
  copies := fun _ _ _ _ _ same => same
  finals := fun _ _ _ holds => holds

theorem snapshotExists_of_empty {volume : SpoolVolume} {key : SpoolKey}
    (empty : ((volume.finals.lookup key).getD []).isEmpty = true)
    (holds : volume.snapshotExists key files = true) : files = [] := by
  unfold SpoolVolume.snapshotExists at holds
  cases found : volume.finals.lookup key with
  | none =>
    rw [found] at holds
    cases holds
  | some =>
    rw [found, Option.getD_some, List.isEmpty_iff] at empty
    rw [found] at holds
    simp only [empty] at holds
    cases files with
    | nil => rfl
    | cons => simp at holds

theorem spared_of_moveCopy {key : SpoolKey}
    (empty : ((pool.state.finals.lookup key).getD []).isEmpty = true) :
    pool.Spared name { pool.state with
      finals := pool.state.finals.insert key content
      copies := pool.state.copies.erase (key, name) } := by
  have stays : ∀ (other : SpoolKey) (files : List PublicationFile),
      pool.state.snapshotExists other files = true →
      SpoolVolume.snapshotExists { pool.state with
        finals := pool.state.finals.insert key content
        copies := pool.state.copies.erase (key, name) } other files = true := by
    intro other files holds
    by_cases same : other = key
    · subst same
      rw [snapshotExists_of_empty empty holds, SpoolVolume.snapshotExists, AList.lookup_insert]
      rfl
    · rw [snapshotExists_of_lookup files (AList.lookup_insert_ne same)]
      exact holds
  refine ⟨fun backed => Backed.of_finals backed rfl rfl fun other files _ _ => stays other files,
    ?_, fun other files _ => stays other files⟩
  intro other suffix stored different _ found
  rw [AList.lookup_erase_ne fun same => different (congrArg Prod.snd same)] at found
  exact found

theorem spared_of_writeJournal {key : SpoolKey} {journal : Journal} (roots : List String)
    (placed : pool.state.snapshotExists key journal.files = true) :
    pool.Spared name { pool.state with
      roots := roots
      journals := pool.state.journals.insert key journal } where
  backed := by
    intro backed other free
    rw [isBacked_spec]
    intro stored isStored
    obtain ⟨same, rfl⟩ | ⟨_, isStored⟩ := Table.cases_insert isStored
    · rw [same]
      exact placed
    · exact isBacked_spec.mp (backed other free) stored isStored
  copies := fun _ _ _ _ _ same => same
  finals := fun _ _ _ holds => holds

theorem spared_of_own {key : SpoolKey} (journals : after.journals = pool.state.journals)
    (ledger : after.ledger = pool.state.ledger) (finals : after.finals = pool.state.finals)
    (copies : ∀ different, different ≠ (key, name) →
      after.copies.lookup different = pool.state.copies.lookup different) :
    pool.Spared name after := by
  refine spared_of_copies journals ledger finals ?_
  intro other suffix content different _ found
  rw [copies (other, suffix) fun same => different (congrArg Prod.snd same)] at found
  exact found

variable {change : SpoolVolume → SpoolVolume}

theorem spared_of_change (changed : pool.Spared name (change pool.state)) :
    pool.Spared name (pool.state.change fault reason value change).2 := by
  rcases change_cases pool.state fault reason value change with same | ⟨same, _⟩
  · rw [same]
    exact changed
  · rw [same]
    exact spared_refl pool name

theorem isUnneeded_spec {key : SpoolKey} (unneeded : pool.isUnneeded key = true) :
    pool.state.finals.lookup key = none ∨ pool.commits key = false ∧
      (pool.state.journals.lookup key = none ∨ pool.state.isReleasing key = true) := by
  simpa [SpoolPool.isUnneeded] using unneeded

theorem spared_of_plain (action : SpoolAction) (rest : SpoolReply action → SpoolProgram SpoolAnswer)
    (isPlain : action.isPlain name = true)
    (spares : pool.sparesAction fault (.act action rest) = true) :
    pool.Spared name (perform lib fault action pool.state).2 := by
  cases action with
  | openSpool =>
    exact spared_of_change (spared_of_copies rfl rfl rfl fun _ _ _ _ _ same => same)
  | readJournal | discover | recheck | checkAbsent | seekJournal | seekFinal =>
    exact spared_of_read _ _
  | listReleasing | listOld =>
    refine spared_of_keeps fun written value given => ?_
    cases given
  | removeFinal | discardFinal => exact spared_of_removeFinal (isUnneeded_spec spares)
  | removeJournal key => exact spared_of_change (spared_of_removeJournal key)
  | dropReleasing => exact spared_of_dropReleasing (List.all_eq_true.mp spares)
  | charge found now =>
    refine spared_of_keeps fun written value given => ?_
    rw [← changed_eq_some (Prod.mk.inj (Except.ok.inj given)).1]
    exact keepsReleasing_chargeAll found now pool.state.ledger
  | reserve =>
    exact spared_of_keeps fun written value given => keepsReleasing_reserve given
  | makeCopy =>
    cases of_decide_eq_true isPlain
    simp only [perform]
    split
    · exact spared_of_change (spared_of_own rfl rfl rfl fun _ ne => AList.lookup_insert_ne ne)
    · exact spared_refl pool name
  | copyFile | moveCopy | writeJournal | markFrozen => cases isPlain
  | discardCopy key =>
    cases of_decide_eq_true isPlain
    obtain ⟨journals, ledger, finals⟩ :=
      removeCopy_others fault pool.state (key, name)
    exact spared_of_own journals ledger finals fun _ ne => removeCopy_copies fault ne
  | drop =>
    refine spared_of_drop fun record stored => ?_
    exact (Option.all_eq_true ..).mp spares record stored
  | markReleasing =>
    exact spared_of_keeps fun written value given => keepsReleasing_markReleasing given
  | removeCopies key =>
    obtain ⟨journals, ledger, finals⟩ :=
      removeCopies_others fault pool.state key
    refine spared_of_copies journals ledger finals fun other suffix content _ filled found => ?_
    have undamaged : (!fault.damages || !pool.fills key) = true := spares
    refine removeCopies_copies fault ?_ found
    by_cases same : other = key
    · rw [same] at filled
      rw [filled, Bool.not_true, Bool.or_false, Bool.not_eq_true'] at undamaged
      exact .inl undamaged
    · exact .inr same
  | dropStale removed =>
    refine spared_of_keeps fun written value given => ?_
    rw [← changed_eq_some (Prod.mk.inj (Except.ok.inj given)).1]
    exact keepsReleasing_dropStale removed pool.state.ledger
  | removeSpool | dropProfile => cases spares

theorem covers_append {file : PublicationFile} (covers : Covers content files)
    (fresh : (content.any fun stored => stored.name = file.spoolPath) = false) :
    Covers (content ++ [⟨file.spoolPath, file.size⟩]) (files ++ [file]) := by
  intro other member
  rw [List.find?_append]
  rcases List.mem_append.mp member with before | isLast
  · have stored := covers other before
    rw [Option.any_eq_true] at stored ⊢
    obtain ⟨found, isFound, size⟩ := stored
    exact ⟨found, by rw [isFound, Option.some_or], size⟩
  · cases List.mem_singleton.mp isLast
    have absent : (content.find? fun stored => stored.name = file.spoolPath) = none := by
      rw [List.find?_eq_none]
      intro stored member
      have different := List.any_eq_false.mp fresh stored member
      exact different
    rw [absent, Option.none_or]
    simp

theorem snapshotExists_of_covers {volume : SpoolVolume} {key : SpoolKey}
    (stored : volume.finals.lookup key = some content) (covers : Covers content files) :
    volume.snapshotExists key files = true := by
  rw [SpoolVolume.snapshotExists, stored]
  exact List.all_eq_true.mpr covers

theorem change_of_ok {volume : SpoolVolume} {result : α}
    (ok : (volume.change fault reason value change).1 = .ok result) :
    (volume.change fault reason value change).2 = change volume ∧ result = value := by
  cases fault with
  | fine => exact ⟨rfl, (Except.ok.inj ok).symm⟩
  | before | after | partway => cases ok

section

variable (lib : SpoolLibrary) (fault : DiskFault) (volume : SpoolVolume) (key : SpoolKey)
  (suffix : Nat)

theorem copyFile_cases (source : Except SpoolError PublicationFile) :
    (∃ reason, perform lib fault (.copyFile key suffix source) volume = (.error reason, volume)) ∨
      ∃ (file : PublicationFile) (content : List SpoolFile),
        volume.copies.lookup (key, suffix) = some content ∧
        (content.any fun stored => stored.name = file.spoolPath) = false ∧
        (perform lib fault (.copyFile key suffix source) volume).2 = { volume with
          copies := volume.copies.insert (key, suffix)
            (content ++ [⟨file.spoolPath, file.size⟩]) } ∧
        ∀ value, (perform lib fault (.copyFile key suffix source) volume).1 = .ok value →
          value = file := by
  cases source with
  | error reason => exact .inl ⟨reason, rfl⟩
  | ok file =>
    simp only [perform]
    cases stored : volume.copies.lookup (key, suffix) with
    | none => exact .inl ⟨_, rfl⟩
    | some content =>
      simp only
      split
      · exact .inl ⟨_, rfl⟩
      · next fresh =>
        cases fault with
        | fine =>
          exact .inr ⟨file, content, rfl, Bool.not_eq_true _ ▸ fresh, rfl,
            fun value ok => (Except.ok.inj ok).symm⟩
        | after =>
          exact .inr ⟨file, content, rfl, Bool.not_eq_true _ ▸ fresh, rfl, by rintro _ ⟨⟩⟩
        | before | partway => exact .inl ⟨_, rfl⟩

theorem moveCopy_cases :
    (∃ reason, perform lib fault (.moveCopy key suffix) volume = (.error reason, volume)) ∨
      ∃ content : List SpoolFile, volume.copies.lookup (key, suffix) = some content ∧
        ((volume.finals.lookup key).getD []).isEmpty = true ∧
        (perform lib fault (.moveCopy key suffix) volume).2 = { volume with
          finals := volume.finals.insert key content
          copies := volume.copies.erase (key, suffix) } := by
  simp only [perform]
  cases stored : volume.copies.lookup (key, suffix) with
  | none => exact .inl ⟨_, rfl⟩
  | some content =>
    simp only
    split
    · next empty =>
      cases fault with
      | fine | after => exact .inr ⟨content, rfl, empty, rfl⟩
      | before | partway => exact .inl ⟨_, rfl⟩
    · exact .inl ⟨_, rfl⟩

end

theorem spared_of_copyFile (key : SpoolKey) (source : Except SpoolError PublicationFile) :
    pool.Spared name (perform lib fault (.copyFile key name source) pool.state).2 := by
  rcases copyFile_cases lib fault pool.state key name source with
    ⟨_, failed⟩ | ⟨_, _, _, _, grown, _⟩
  · rw [failed]
    exact spared_refl pool name
  · rw [grown]
    exact spared_of_own rfl rfl rfl fun _ ne => AList.lookup_insert_ne ne

theorem spared_of_moving (key : SpoolKey) :
    pool.Spared name (perform lib fault (.moveCopy key name) pool.state).2 := by
  rcases moveCopy_cases lib fault pool.state key name with
    ⟨_, failed⟩ | ⟨_, _, empty, moved⟩
  · rw [failed]
    exact spared_refl pool name
  · rw [moved]
    exact spared_of_moveCopy empty

theorem spared_of_writing {key : SpoolKey} {journal : Journal}
    (placed : pool.state.snapshotExists key journal.files = true) :
    pool.Spared name (perform lib fault (.writeJournal key journal) pool.state).2 :=
  spared_of_change (spared_of_writeJournal _ placed)

theorem spared_of_marking
    {rest : SpoolReply (.markFrozen publicationId now) → SpoolProgram SpoolAnswer}
    (spares : pool.sparesAction fault (.act (.markFrozen publicationId now) rest) = true) :
    pool.Spared name (perform lib fault (.markFrozen publicationId now) pool.state).2 := by
  have conditions := Bool.and_eq_true_iff.mp spares
  exact spared_of_markFrozen ((Option.all_eq_true ..).mp conditions.1)

theorem spared_of_moves {rest : SpoolReply action → SpoolProgram SpoolAnswer} {next : FreezeMode}
    (moves : FreezeMoves name mode action (perform lib fault action pool.state).1 next)
    (fact : FreezeFact name mode pool.state)
    (spares : pool.sparesAction fault (.act action rest) = true) :
    pool.Spared name (perform lib fault action pool.state).2 ∧
      FreezeFact name next (perform lib fault action pool.state).2 := by
  generalize replyIs : (perform lib fault action pool.state).1 = reply at moves
  cases moves with
  | plain isPlain => exact ⟨spared_of_plain action rest isPlain spares, trivial⟩
  | found => exact ⟨spared_of_plain _ rest rfl spares, trivial⟩
  | @make key =>
    refine ⟨spared_of_plain _ rest (decide_eq_true rfl) spares, ?_⟩
    simp only [perform] at replyIs ⊢
    split at replyIs
    · next possible =>
      rw [if_pos possible, (change_of_ok replyIs).1]
      intro content found file member
      cases member
    · cases replyIs
  | @copy key files file source =>
    refine ⟨spared_of_copyFile key source, ?_⟩
    rcases copyFile_cases lib fault pool.state key name source with
      ⟨_, failed⟩ | ⟨_, content, stored, fresh, grown, same⟩
    · rw [failed] at replyIs
      cases replyIs
    · rw [grown, same file replyIs]
      intro other found
      rw [AList.lookup_insert, Option.some.injEq] at found
      rw [← found]
      exact covers_append (fact content stored) fresh
  | copyFails => exact ⟨spared_of_copyFile _ _, trivial⟩
  | @move key files =>
    refine ⟨spared_of_moving key, ?_⟩
    rcases moveCopy_cases lib fault pool.state key name with
      ⟨_, failed⟩ | ⟨content, stored, _, moved⟩
    · rw [failed] at replyIs
      cases replyIs
    · rw [moved]
      exact snapshotExists_of_covers (AList.lookup_insert _) (fact content stored)
  | moveFails => exact ⟨spared_of_moving _, trivial⟩
  | write same | writeFails same => exact ⟨spared_of_writing (same ▸ fact), trivial⟩
  | mark | markFails => exact ⟨spared_of_marking spares, trivial⟩

end Actions

/-! ## One event -/

section Events

variable {lib : SpoolLibrary} {pool next : SpoolPool} {name : Nat} {fault : DiskFault}

/-- The volume is backed, and each call is at a place of the protocol whose fact holds. -/
abbrev SpoolPool.Keeps (pool : SpoolPool) : Prop :=
  pool.Holds FreezeMoves FreezeAnswers FreezeRefuses SpoolVolume.Backed FreezeFact

theorem head_of_follows {program : SpoolProgram SpoolAnswer}
    (follows : program.Follows (FreezeMoves name) FreezeAnswers FreezeRefuses mode)
    (goesOn : mode ≠ .idle) (unreturned : ∀ key journal, mode ≠ .returned key journal) :
    ∃ action rest after, program = .act action rest ∧
      FreezeMoves name mode action (.error snapshotError) after := by
  cases program with
  | answer value =>
    cases value with
    | manifest key journal => exact absurd follows (unreturned key journal)
    | done | count => exact absurd follows goesOn
  | refuse => exact absurd follows goesOn
  | act action rest =>
    obtain ⟨after, moves, _⟩ := follows (.error snapshotError)
    exact ⟨action, rest, after, rfl, moves⟩

section

variable {key : SpoolKey} {files : List PublicationFile}

theorem fills_of_filling
    (inMode : pool.InMode FreezeMoves FreezeAnswers FreezeRefuses FreezeFact name
      (.filling key files)) : pool.fills key = true := by
  obtain ⟨_, found, follows, _⟩ := inMode
  obtain ⟨_, _, _, rfl, moves⟩ :=
    head_of_follows follows (by rintro ⟨⟩) (by rintro _ _ ⟨⟩)
  have row := (Table.mem_rows pool.programs name _).mpr found
  refine List.any_eq_true.mpr ⟨_, row, ?_⟩
  cases moves with
  | copyFails | moveFails => exact decide_eq_true rfl

theorem commits_of_placed
    (inMode : pool.InMode FreezeMoves FreezeAnswers FreezeRefuses FreezeFact name
      (.placed key files)) : pool.commits key = true := by
  obtain ⟨_, found, follows, _⟩ := inMode
  obtain ⟨_, _, _, rfl, moves⟩ :=
    head_of_follows follows (by rintro ⟨⟩) (by rintro _ _ ⟨⟩)
  have row := (Table.mem_rows pool.programs name _).mpr found
  refine List.any_eq_true.mpr ⟨_, row, ?_⟩
  cases moves with
  | writeFails => exact decide_eq_true rfl

end

theorem fact_of_spared (spared : pool.Spared name after) {other : Nat} (different : other ≠ name)
    (inMode : pool.InMode FreezeMoves FreezeAnswers FreezeRefuses FreezeFact other mode) :
    FreezeFact other mode after := by
  obtain ⟨_, _, _, fact⟩ := id inMode
  cases mode with
  | idle | written | returned => trivial
  | filling key =>
    intro content found
    exact fact content (spared.copies key other content different (fills_of_filling inMode) found)
  | placed key files => exact spared.finals key files (commits_of_placed inMode) fact

variable {reply : Unit}

theorem keeps_step (keeps : pool.Keeps) (spares : pool.spares (.step name fault) = true)
    (success : SpoolPool.apply lib (.step name fault) pool = .ok (reply, next)) : next.Keeps := by
  have spared : ∀ action rest, pool.programs.lookup name = some (.act action rest) →
      pool.sparesAction fault (.act action rest) = true := by
    intro action rest found
    exact (Option.all_eq_true ..).mp spares _ found
  refine ProgramPool.holds_step keeps success ?_ ?_
  · intro action rest mode after found fact moves
    obtain ⟨own, established⟩ := spared_of_moves moves fact (spared action rest found)
    exact ⟨own.backed keeps.safe, established⟩
  · intro action rest mode after found fact moves other otherMode different inMode
    exact fact_of_spared (spared_of_moves moves fact (spared action rest found)).1 different inMode

theorem keeps_event {event : SpoolEvent} (keeps : pool.Keeps) (spares : pool.spares event = true)
    (success : SpoolPool.apply lib event pool = .ok (reply, next)) : next.Keeps := by
  cases event with
  | start call =>
    cases success
    exact ProgramPool.holds_start keeps (program_follows lib call) trivial
  | step => exact keeps_step keeps spares success
  | crash name =>
    cases success
    exact ProgramPool.holds_crash keeps name

/-! ## What is returned -/

def SpoolPool.Returns (pool : SpoolPool) (name : Nat) (key : SpoolKey) (journal : Journal) : Prop :=
  pool.programs.lookup name = some (.answer (.manifest key journal))

section

variable {volume : SpoolVolume}

theorem snapshotExists_of_mayEnd {key : SpoolKey} {journal : Journal}
    (backed : volume.Backed) (mayEnd : volume.mayEnd key = true)
    (stored : volume.journals.lookup key = some journal) :
    volume.snapshotExists key journal.files = true := by
  refine isBacked_spec.mp ?_ journal stored
  by_cases releasing : volume.isReleasing key = true
  · exact mayEnd_spec mayEnd releasing
  · exact backed key (Bool.not_eq_true _ ▸ releasing)

theorem read_of_ok {result : Except SpoolError α}
    (ok : (volume.read fault reason result).1 = .ok value) : result = .ok value := by
  cases fault with
  | fine => exact ok
  | before | after | partway => cases ok

theorem stored_of_readJournal {key : SpoolKey} (sourcePaths : List String)
    {journal : Journal} (read : volume.readJournal lib key sourcePaths = .ok (some journal)) :
    volume.journals.lookup key = some journal := by
  unfold SpoolVolume.readJournal at read
  split at read
  · cases read
  · next found =>
    split at read
    · cases read
    · split at read
      · cases read
      · cases read
        exact found

theorem snapshotExists_of_transact
    {body : Ledger → Except SpoolError (Option Ledger × α)} {key : SpoolKey} (holds : volume.snapshotExists key files = true) :
    (volume.transact fault body).2.snapshotExists key files = true := by
  rcases transact_cases volume fault body with
    same | ⟨_, _, _, same⟩
  · rw [same]
    exact holds
  · rw [same]
    exact holds

end

theorem snapshotExists_of_returned {key : SpoolKey} {journal : Journal} (keeps : pool.Keeps)
    (spares : pool.spares (.step name fault) = true)
    (success : SpoolPool.apply lib (.step name fault) pool = .ok (reply, next))
    (returned : next.Returns name key journal) :
    next.state.snapshotExists key journal.files = true := by
  obtain ⟨action, rest, _, after, found, _, moves, goesOn, rfl⟩ := keeps.step success
  have sparesThis := (Option.all_eq_true ..).mp spares _ found
  rw [SpoolPool.Returns, AList.lookup_insert, Option.some.injEq] at returned
  rw [returned] at goesOn
  have isReturned : after = .returned key journal := goesOn
  subst isReturned
  clear goesOn
  generalize replyIs : (perform lib fault action pool.state).1 = value at moves returned
  cases moves with
  | @found key sourcePaths journal =>
    have stored : pool.state.journals.lookup key = some journal :=
      @stored_of_readJournal lib _ _ sourcePaths _ (read_of_ok replyIs)
    exact snapshotExists_of_mayEnd keeps.safe sparesThis stored
  | @mark key journal now =>
    have conditions := Bool.and_eq_true_iff.mp sparesThis
    have ends := (Option.all_eq_true ..).mp conditions.1
    have marked : markedManifest (.act (.markFrozen key.2 now) rest) = some (key, journal) := by
      simp only [markedManifest]
      rw [returned]
      rfl
    have stored := (Option.all_eq_true ..).mp conditions.2 _ marked
    rw [decide_eq_true_eq] at stored
    have mayEnd : pool.state.mayEnd key = true := by
      by_cases releasing : pool.state.isReleasing key = true
      · obtain ⟨record, isRecord, named, _⟩ := isReleasing_spec releasing
        have recordEnds := ends record isRecord
        rw [named] at recordEnds
        exact recordEnds
      · have free : pool.state.isReleasing key = false := Bool.not_eq_true _ ▸ releasing
        rw [SpoolVolume.mayEnd, free]
        rfl
    exact snapshotExists_of_transact (snapshotExists_of_mayEnd keeps.safe mayEnd stored)

end Events

/-! ## Every run -/

section Runs

variable (lib : SpoolLibrary)

theorem keeps_run {volume : SpoolVolume} (backed : volume.Backed) {events : List SpoolEvent}
    (meets : Run.Meets (SpoolPool.apply lib) (fun pool event => pool.spares event = true) (ProgramPool.quiet volume) events) :
    SpoolPool.Keeps (Run.run (SpoolPool.apply lib) (ProgramPool.quiet volume) events) :=
  Run.invariant_where _ SpoolPool.Keeps
    (fun _ _ _ _ condition keeps success => keeps_event keeps condition success)
    (ProgramPool.quiet volume) events (ProgramPool.holds_quiet backed) meets

theorem unreturned_of_start {name : Nat} {key : SpoolKey} {journal : Journal} {call : SpoolCall} :
    call.program lib name ≠ .answer (.manifest key journal) := by
  intro returned
  have follows := @program_follows name lib call
  rw [returned] at follows
  have places : FreezeMode.idle = .returned key journal := follows
  cases places

/-- In every run whose events spare the snapshots of committed publications, every journal that is
not being released has its snapshot, and so has every manifest when it is returned. -/
theorem committed_manifests_have_snapshots (volume : SpoolVolume) (backed : volume.Backed)
    (events : List SpoolEvent) (event : SpoolEvent)
    (meets : Run.Meets (SpoolPool.apply lib) (fun pool event => pool.spares event = true) (ProgramPool.quiet volume)
      (events ++ [event])) :
    let pool := Run.run (SpoolPool.apply lib) (ProgramPool.quiet volume) events
    let next := Run.step (SpoolPool.apply lib) pool event
    next.state.Backed ∧
      ∀ name key journal, ¬ pool.Returns name key journal → next.Returns name key journal →
        next.state.snapshotExists key journal.files = true := by
  intro pool next
  have before : pool.Keeps := keeps_run lib backed meets.append_left
  have condition : pool.spares event = true := meets.append_right.1
  rcases Run.step_cases (SpoolPool.apply lib) pool event with ⟨_, after, success, same⟩ | same
  · have isNext : next = after := same
    rw [isNext]
    refine ⟨(keeps_event before condition success).safe, ?_⟩
    intro name key journal unreturned returned
    cases event with
    | start =>
      cases success
      rw [SpoolPool.Returns, Table.lookup_insert_eq] at returned
      split at returned
      · exact absurd (Option.some.inj returned) (unreturned_of_start lib)
      · exact absurd returned unreturned
    | step running =>
      by_cases isRunning : name = running
      · subst isRunning
        exact snapshotExists_of_returned before condition success returned
      · obtain ⟨_, _, _, _, programs, _⟩ := ProgramPool.apply_step success
        rw [SpoolPool.Returns, programs, AList.lookup_insert_ne isRunning] at returned
        exact absurd returned unreturned
    | crash crashed =>
      cases success
      rw [SpoolPool.Returns] at returned
      by_cases isCrashed : name = crashed
      · rw [isCrashed, AList.lookup_erase] at returned
        cases returned
      · rw [AList.lookup_erase_ne isCrashed] at returned
        exact absurd returned unreturned
  · have isNext : next = pool := same
    rw [isNext]
    exact ⟨before.safe, fun name key journal unreturned returned => absurd returned unreturned⟩

/-! ## Two runs -/

def plainLibrary : SpoolLibrary where
  nfc := id
  upper := id
  uuidText := fun _ => "00000000-0000-4000-8000-000000000000"
  sha256 := fun _ => String.ofList (List.replicate 64 'a')

/-- A source of one size when the call prepares, and of another when it copies. -/
def noteSource (prepared copied : Nat) : PublicationSource where
  path := "notes.txt"
  name := "notes.txt"
  prepared := ⟨.ok (), true, prepared⟩
  copy := ⟨⟨.ok (), true, copied⟩, copied, true, true, String.ofList (List.replicate 64 'b'), 7, "c"⟩

def noteFreeze (prepared copied : Nat) : FreezeCall where
  key := ("ally", 1)
  sources := [noteSource prepared copied]
  now := 5
  free := 1000000000

theorem frozen_note_has_snapshot :
    let events := SpoolEvent.start (.freeze (noteFreeze 3 3)) :: List.replicate 11 (.step 0 .fine)
    let pool := Run.run (SpoolPool.apply plainLibrary) (ProgramPool.quiet SpoolVolume.empty) events
    let next := Run.step (SpoolPool.apply plainLibrary) pool (.step 0 .fine)
    next.state.Backed ∧
      ∀ name key journal, ¬ pool.Returns name key journal → next.Returns name key journal →
        next.state.snapshotExists key journal.files = true :=
  committed_manifests_have_snapshots plainLibrary SpoolVolume.empty (by intro key _; rfl)
    (SpoolEvent.start (.freeze (noteFreeze 3 3)) :: List.replicate 11 (.step 0 .fine))
    (.step 0 .fine) (by decide +kernel)

def SpoolPool.returnsLone (pool : SpoolPool) (name : Nat) : Bool :=
  match (pool.programs.lookup name).bind Program.value? with
  | some (.manifest key journal) => !pool.state.snapshotExists key journal.files
  | _ => false

/-- The call whose marking fails takes its snapshot down and leaves the journal, which another
call then returns. -/
theorem failed_mark_leaves_lone_manifest :
    let failing := SpoolEvent.start (.freeze (noteFreeze 3 3)) ::
      (List.replicate 11 (.step 0 .fine) ++ .step 0 .before :: List.replicate 3 (.step 0 .fine))
    let again := SpoolEvent.start (.freeze (noteFreeze 3 3)) :: List.replicate 2 (.step 1 .fine)
    let left := Run.run (SpoolPool.apply plainLibrary) (ProgramPool.quiet SpoolVolume.empty) failing
    let pool := Run.run (SpoolPool.apply plainLibrary) left again
    (left.state.journals.lookup ("ally", 1)).any (fun journal =>
        journal.isReadable plainLibrary 1 && !left.state.snapshotExists ("ally", 1) journal.files)
        = true ∧
      left.state.ledger.lookup 1 = none ∧
      pool.returnsLone 1 = true := by
  decide +kernel

end Runs

end Spool

end Foundry
