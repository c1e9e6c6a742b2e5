import Foundry.Properties.Snapshots

/-!
# Journals and ledgers that are read back

A publication is frozen under whatever names its sources have, and its journal and the ledger are
written whatever the size of their texts.  Both are read back under stricter checks.
-/

set_option autoImplicit false

namespace Foundry

namespace Spool

open Program

/-! ## The journal of a call -/

def filesFrom : Nat → List PublicationSource → List PublicationFile
  | _, [] => []
  | ordinal, source :: rest =>
    ⟨source.copy.sourceVersionId, source.name, source.copy.copied, source.copy.sha256,
      outputName ordinal source.copy.hex⟩ :: filesFrom (ordinal + 1) rest

/-- The journal of a call, from what its sources hold. -/
def FreezeCall.journal (lib : SpoolLibrary) (call : FreezeCall) : Journal :=
  journalOf lib call.sourcePaths (filesFrom 1 call.sources)

/-- What `hexdigest` and `uuid4().hex` return. -/
structure SourceCopy.HasHexTexts (copy : SourceCopy) : Prop where
  length : copy.sha256.length = 64
  digest : copy.sha256.toList.all isLowerHex = true
  hex : copy.hex.toList.all isLowerHex = true

structure FreezeCall.Readable (lib : SpoolLibrary) (call : FreezeCall) : Prop where
  names : ∀ source ∈ call.sources, isSafeName lib source.name = true
  sizes : ∀ source ∈ call.sources, 1 ≤ source.copy.copied
  text : ((call.journal lib).json lib call.key.2).size ≤ maxJournalBytes

/-! ## What a freeze leaves -/

variable {key : SpoolKey} {journal : Journal}

section Freeze

variable {lib : SpoolLibrary} {call : FreezeCall} {suffix : Nat} {volume after : SpoolVolume}

variable {action : SpoolAction}

theorem returns_run {value : action.Value}
    (returns : (run action).Returns (perform lib) volume value after) :
    ∃ fault, perform lib fault action volume = (.ok value, after) := by
  obtain ⟨fault, goesOn⟩ := returns_act returns
  refine ⟨fault, ?_⟩
  cases replied : (perform lib fault action volume).1 with
  | error =>
    simp only [replied] at goesOn
    exact absurd goesOn not_returns_refuse
  | ok =>
    simp only [replied] at goesOn
    obtain ⟨rfl, rfl⟩ := returns_answer goesOn
    exact Prod.ext replied rfl

theorem returns_run_bind {α : Type} {value : α} {next : action.Value → SpoolProgram α}
    (returns : (run action >>= next).Returns (perform lib) volume value after) :
    ∃ fault given middle, perform lib fault action volume = (.ok given, middle) ∧
      (next given).Returns (perform lib) middle value after := by
  obtain ⟨given, middle, first, later⟩ := returns_bind returns
  obtain ⟨fault, performed⟩ := returns_run first
  exact ⟨fault, given, middle, performed, later⟩

variable {file : PublicationFile}

theorem copyFile_ok {fault : DiskFault} {source : Except SpoolError PublicationFile}
    (copied : perform lib fault (.copyFile key suffix source) volume = (.ok file, after)) :
    source = .ok file := by
  cases source with
  | error => cases congrArg Prod.fst copied
  | ok =>
    cases stored : volume.copies.lookup (key, suffix) with
    | none =>
      simp only [perform, stored] at copied
      cases congrArg Prod.fst copied
    | some =>
      simp only [perform, stored] at copied
      split at copied
      · cases congrArg Prod.fst copied
      · cases fault <;> cases congrArg Prod.fst copied
        rfl

theorem file_of_result {source : PublicationSource} {ordinal : Nat}
    (result : source.result ordinal = .ok file) :
    file = ⟨source.copy.sourceVersionId, source.name, source.copy.copied, source.copy.sha256,
      outputName ordinal source.copy.hex⟩ ∧ source.copy.copied ≤ maxPublicationFileBytes := by
  unfold PublicationSource.result at result
  split at result
  · cases result
  · split_ifs at result with large
    cases result
    exact ⟨rfl, Nat.le_of_not_lt large⟩

/-- The files that the copies answer with are those of the sources. -/
theorem copySources_files (sources : List PublicationSource) {ordinal : Nat}
    {files : List PublicationFile}
    (returns : (copySources key suffix ordinal sources).Returns (perform lib) volume files after) :
    files = filesFrom ordinal sources ∧
      ∀ source ∈ sources, source.copy.copied ≤ maxPublicationFileBytes := by
  induction sources generalizing ordinal files volume after with
  | nil =>
    obtain ⟨rfl, _⟩ := returns_answer returns
    exact ⟨rfl, by simp⟩
  | cons _ _ ih =>
    obtain ⟨_, _, _, copied, later⟩ := returns_run_bind returns
    obtain ⟨_, _, copies, ends⟩ := returns_bind later
    obtain ⟨rfl, rfl⟩ := returns_answer ends
    obtain ⟨rfl, small⟩ := file_of_result (copyFile_ok copied)
    obtain ⟨rfl, smaller⟩ := ih copies
    exact ⟨rfl, List.forall_mem_cons.mpr ⟨small, smaller⟩⟩

section

variable {α : Type} {fault : DiskFault} {reason : SpoolError}

theorem change_ok {value given : α} {change : SpoolVolume → SpoolVolume}
    (changed : volume.change fault reason value change = (.ok given, after)) :
    after = change volume := by
  cases fault <;> cases changed
  rfl

theorem read_ok {result : Except SpoolError α}
    {given : α} (reads : volume.read fault reason result = (.ok given, after)) :
    result = .ok given ∧ after = volume := by
  obtain ⟨first, rfl⟩ := Prod.mk.inj reads
  split at first
  · cases first
  · exact ⟨first, rfl⟩

end

variable {answer : SpoolAnswer}

/-- The snapshot that is committed has the journal of the call. -/
theorem commitSnapshot_journal
    (returns : (commitSnapshot lib call suffix).Returns (perform lib) volume answer after) :
    answer = .manifest call.key (call.journal lib) ∧
      after.journals.lookup call.key = some (call.journal lib) ∧
      ∀ source ∈ call.sources, source.copy.copied ≤ maxPublicationFileBytes := by
  obtain ⟨_, _, _, _, returns⟩ := returns_run_bind returns
  obtain ⟨_, _, _, _, returns⟩ := returns_run_bind returns
  obtain ⟨_, _, copies, returns⟩ := returns_bind returns
  obtain ⟨_, _, _, _, returns⟩ := returns_run_bind returns
  obtain ⟨_, _, middle, written, returns⟩ := returns_run_bind returns
  obtain ⟨fault, _, _, marked, returns⟩ := returns_run_bind returns
  obtain ⟨rfl, small⟩ := copySources_files call.sources copies
  obtain ⟨rfl, rfl⟩ := returns_answer returns
  refine ⟨rfl, ?_, small⟩
  simp only [perform] at written marked
  have stored : middle.journals.lookup call.key = some (call.journal lib) := by
    rw [change_ok written]
    exact AList.lookup_insert _
  rw [← stored]
  have left := congrArg Prod.snd marked
  rcases transact_cases middle fault (Ledger.markFrozen call.key.2 call.now) with
    same | ⟨_, _, _, same⟩
  · rw [show after = middle from left.symm.trans same]
  · rw [show after = { middle with ledger := _ } from left.symm.trans same]

theorem not_returns_cleanUpFreeze {reason : SpoolError} :
    ¬(cleanUpFreeze call suffix reason).Returns (perform lib) volume answer after := by
  intro returns
  obtain ⟨_, _, _, _, returns⟩ := returns_run_bind returns
  obtain ⟨_, _, _, _, returns⟩ := returns_run_bind returns
  obtain ⟨_, _, _, _, returns⟩ := returns_run_bind returns
  exact not_returns_refuse returns

theorem readJournal_some {sourcePaths : List String}
    (reads : volume.readJournal lib key sourcePaths = .ok (some journal)) :
    volume.journals.lookup key = some journal ∧ journal.isReadable lib key.2 = true ∧
      journal.sourcePaths = sourcePaths := by
  unfold SpoolVolume.readJournal at reads
  split at reads
  · cases reads
  · next stored =>
    split_ifs at reads with unreadable different
    cases reads
    exact ⟨stored, by simpa using unreadable, not_not.mp different⟩

/-- A freeze answers with the journal that stood there, or with its own that it leaves. -/
theorem freezePublication_journal
    (returns : (freezePublication lib call suffix).Returns (perform lib) volume answer after) :
    ∃ journal, answer = .manifest call.key journal ∧
      after.journals.lookup call.key = some journal ∧
      (volume.readJournal lib call.key call.sourcePaths = .ok (some journal) ∨
        volume.journals.lookup call.key = none ∧ journal = call.journal lib ∧
          call.sources.length ≤ maxFiles ∧
          ∀ source ∈ call.sources, source.copy.copied ≤ maxPublicationFileBytes) := by
  unfold freezePublication at returns
  split at returns
  · exact absurd returns not_returns_refuse
  · exact absurd returns not_returns_refuse
  · next checked _ =>
    obtain ⟨_, _, _, opens, returns⟩ := returns_run_bind returns
    obtain ⟨_, existing, opened, reads, returns⟩ := returns_run_bind returns
    simp only [perform] at opens reads
    have isOpened := change_ok opens
    obtain ⟨found, rfl⟩ := read_ok reads
    have before : opened.readJournal lib call.key call.sourcePaths =
        volume.readJournal lib call.key call.sourcePaths := by
      rw [isOpened]
      rfl
    cases existing with
    | some journal =>
      obtain ⟨rfl, rfl⟩ := returns_answer returns
      exact ⟨journal, rfl, (readJournal_some found).1, .inl (before.symm.trans found)⟩
    | none =>
      obtain ⟨_, _, _, returns⟩ := returns_bind returns
      obtain ⟨_, _, _, _, returns⟩ := returns_run_bind returns
      obtain ⟨rfl, stored, small⟩ := commitSnapshot_journal
        (returns_rescue (fun _ _ => not_returns_cleanUpFreeze) returns)
      refine ⟨_, rfl, stored, .inr ⟨?_, rfl, ?_, small⟩⟩
      · rw [isOpened] at found
        unfold SpoolVolume.readJournal at found
        split at found
        · next absent => exact absent
        · split_ifs at found
          cases found
      · unfold checkPaths at checked
        split_ifs at checked with bad
        have bounds := (Bool.or_eq_false_iff.mp (Bool.not_eq_true _ ▸ bad)).2
        exact Nat.le_of_not_lt (of_decide_eq_false bounds)

end Freeze

/-! ## What is read back -/

section ReadBack

variable {lib : SpoolLibrary} {volume : SpoolVolume}

theorem readLedger_eq_ok_iff :
    volume.readLedger = .ok volume.ledger ↔ volume.ledger.bytes ≤ maxJournalBytes := by
  rw [← Nat.not_lt]
  by_cases large : maxJournalBytes < volume.ledger.bytes <;>
    simp [SpoolVolume.readLedger, SpoolVolume.transact, large]

/-- A journal that stands is read back, with its paths or without, where it is readable. -/
theorem readsBack_iff (stored : volume.journals.lookup key = some journal) :
    volume.readJournal lib key journal.sourcePaths = .ok (some journal) ∧
        volume.readManifest lib key = .ok (some journal) ↔
      journal.isReadable lib key.2 = true := by
  unfold SpoolVolume.readJournal SpoolVolume.readManifest
  simp only [stored]
  cases journal.isReadable lib key.2 <;> simp

theorem filesFrom_length (ordinal : Nat) (sources : List PublicationSource) :
    (filesFrom ordinal sources).length = sources.length := by
  induction sources generalizing ordinal with
  | nil => rfl
  | cons _ _ ih => exact congrArg (· + 1) (ih (ordinal + 1))

theorem plain_of_isLowerHex {letter : Char} (isHex : isLowerHex letter = true) : letter ≠ '/' := by
  rintro rfl
  exact absurd isHex (by decide)

theorem outputName_plain {ordinal : Nat} {hex : String} (few : ordinal ≤ maxFiles)
    (isHex : hex.toList.all isLowerHex = true) :
    (outputName ordinal hex).toList.all (· != '/') = true := by
  have numbers : ∀ ordinal < maxFiles + 1,
      ((if ordinal < 10 then s!"0{ordinal}" else s!"{ordinal}").toList.all (· != '/')) = true := by
    decide +kernel
  have letters : hex.toList.all (· != '/') = true := List.all_eq_true.mpr fun letter member =>
    bne_iff_ne.mpr (plain_of_isLowerHex (List.all_eq_true.mp isHex letter member))
  simp only [outputName, String.toList_append, List.all_append, letters,
    numbers ordinal (Nat.lt_succ_of_le few), Bool.true_and, Bool.and_true]
  decide

/-- The files of a call are readable where their names are safe and none is empty. -/
theorem filesFrom_readable_iff {ordinal : Nat} (sources : List PublicationSource)
    (few : ordinal + sources.length ≤ maxFiles + 1)
    (small : ∀ source ∈ sources, source.copy.copied ≤ maxPublicationFileBytes)
    (hexTexts : ∀ source ∈ sources, source.copy.HasHexTexts) :
    (filesFrom ordinal sources).all (PublicationFile.isReadable lib) = true ↔
      ∀ source ∈ sources, isSafeName lib source.name = true ∧ 1 ≤ source.copy.copied := by
  induction sources generalizing ordinal with
  | nil => simp [filesFrom]
  | cons _ rest ih =>
    rw [List.forall_mem_cons] at small hexTexts
    rw [List.length_cons] at few
    have others := ih (by omega : ordinal + 1 + rest.length ≤ maxFiles + 1) small.2 hexTexts.2
    have plain := outputName_plain (by omega : ordinal ≤ maxFiles) hexTexts.1.hex
    rw [List.forall_mem_cons, ← others]
    simp only [filesFrom, List.all_cons, Bool.and_eq_true, PublicationFile.isReadable, plain,
      small.1, hexTexts.1.length, hexTexts.1.digest, decide_true, decide_eq_true_eq, and_true]

/-- The journal of a call is readable where its names are safe, none of its files is empty and its
text is short enough. -/
theorem journal_isReadable_iff {call : FreezeCall} (few : call.sources.length ≤ maxFiles)
    (small : ∀ source ∈ call.sources, source.copy.copied ≤ maxPublicationFileBytes)
    (hexTexts : ∀ source ∈ call.sources, source.copy.HasHexTexts) :
    (call.journal lib).isReadable lib call.key.2 = true ↔ call.Readable lib := by
  have files := @filesFrom_readable_iff lib 1 call.sources (by omega) small hexTexts
  have count : (call.journal lib).files.length ≤ maxFiles :=
    (filesFrom_length 1 call.sources).trans_le few
  have digest : publicationDigest lib (call.journal lib).files =
      (call.journal lib).manifestSha256 := rfl
  rw [Journal.isReadable]
  simp only [digest, count, decide_true, Bool.and_true, Bool.and_eq_true, decide_eq_true_eq]
  constructor
  · rintro ⟨text, readable⟩
    have each := files.mp readable
    exact ⟨fun source member => (each source member).1, fun source member => (each source member).2,
      text⟩
  · intro readable
    exact ⟨readable.text, files.mpr fun source member =>
      ⟨readable.names source member, readable.sizes source member⟩⟩

end ReadBack

/-! ## The property -/

def SpoolVolume.ReadsBack (lib : SpoolLibrary) (key : SpoolKey) (sourcePaths : List String)
    (journal : Journal) (volume : SpoolVolume) : Prop :=
  volume.readJournal lib key sourcePaths = .ok (some journal) ∧
    volume.readManifest lib key = .ok (some journal)

/-- A freeze that succeeds leaves a journal that is read back exactly where it stood before, or its
names are safe, its files not empty and its text short; and a section of the ledger leaves one that
is read back exactly where its text is short. -/
theorem journals_are_read_back_where_readable (lib : SpoolLibrary) (call : FreezeCall)
    (suffix : Nat) (volume after : SpoolVolume) (answer : SpoolAnswer)
    (hexTexts : ∀ source ∈ call.sources, source.copy.HasHexTexts)
    (froze : (freezePublication lib call suffix).Returns (perform lib) volume answer after) :
    ((∃ journal, answer = .manifest call.key journal ∧
        after.ReadsBack lib call.key call.sourcePaths journal) ↔
      (volume.journals.lookup call.key).isSome = true ∨ call.Readable lib) ∧
    ∀ (α : Type) (body : Ledger → Except SpoolError (Option Ledger × α)) (fault : DiskFault)
      (before : SpoolVolume) (written : Ledger) (value : α),
      fault ≠ .before → before.ledger.bytes ≤ maxJournalBytes →
      body before.ledger = .ok (some written, value) →
      ((before.transact fault body).2.readLedger = .ok written ↔
        written.bytes ≤ maxJournalBytes) := by
  constructor
  · obtain ⟨journal, rfl, stored, stood | ⟨absent, rfl, few, small⟩⟩ :=
      freezePublication_journal froze
    · obtain ⟨found, readable, samePaths⟩ := readJournal_some stood
      refine iff_of_true ⟨journal, rfl, ?_⟩ (.inl (Option.isSome_iff_exists.mpr ⟨_, found⟩))
      rw [← samePaths]
      exact (readsBack_iff stored).mpr readable
    · rw [absent, ← journal_isReadable_iff few small hexTexts, ← readsBack_iff stored]
      constructor
      · rintro ⟨_, same, reads⟩
        cases same
        exact .inr reads
      · intro reads
        exact ⟨_, rfl, reads.resolve_left Bool.false_ne_true⟩
  · intro α body fault before written value works small given
    have isWritten : (before.transact fault body).2 = { before with ledger := written } := by
      unfold SpoolVolume.transact
      split
      · exact absurd rfl works
      · rw [if_neg (Nat.not_lt.mpr small), given]
        simp only
        split <;> rfl
    rw [isWritten]
    exact readLedger_eq_ok_iff

def frozenAlone (call : FreezeCall) : SpoolProgram SpoolAnswer × SpoolVolume :=
  Program.after (perform plainLibrary) (List.replicate 12 .fine)
    (freezePublication plainLibrary call 0) SpoolVolume.empty

theorem frozen_note_is_read_back :
    ∃ journal, SpoolAnswer.manifest ("ally", 1) ((noteFreeze 3 3).journal plainLibrary) =
        .manifest ("ally", 1) journal ∧
      (frozenAlone (noteFreeze 3 3)).2.ReadsBack plainLibrary ("ally", 1) ["notes.txt"] journal :=
  (journals_are_read_back_where_readable plainLibrary (noteFreeze 3 3) 0 SpoolVolume.empty _ _
    (List.forall_mem_singleton.mpr ⟨by decide +kernel, by decide +kernel, by decide +kernel⟩)
    (returns_of_value (by decide +kernel :
      (frozenAlone (noteFreeze 3 3)).1.value? =
        some (.manifest ("ally", 1) ((noteFreeze 3 3).journal plainLibrary))))).1.mpr
    (.inr ⟨by decide +kernel, by decide +kernel, by decide +kernel⟩)

/-- A name with a colon is one of a path that the call accepts. -/
def colonFreeze : FreezeCall where
  key := ("ally", 1)
  sources := [{ noteSource 3 3 with path := "a:b.txt", name := "a:b.txt" }]
  now := 5
  free := 1000000000

theorem colon_name_is_not_read_back :
    (frozenAlone colonFreeze).1.value? =
        some (.manifest ("ally", 1) (colonFreeze.journal plainLibrary)) ∧
      (frozenAlone colonFreeze).2.readJournal plainLibrary ("ally", 1) ["a:b.txt"] =
        .error journalError ∧
      (frozenAlone colonFreeze).2.readManifest plainLibrary ("ally", 1) = .error journalError := by
  decide +kernel

end Spool

end Foundry
