import Foundry.Properties.SpoolReleases
import Foundry.Volume.Recovery

/-!
# Sources that recovery reports as lost

A snapshot that stands and matches its journal is reported as lost where the listing failed or ended
before it, where its journal is not read back, and where the disk does not serve a reading.
-/

set_option autoImplicit false

namespace Foundry

namespace Spool

/-! ## The property -/

/-- The snapshot of a journal stands, and its files have the sizes and digests listed. -/
structure SpoolVolume.IsIntact (digest : SpoolKey → SpoolFile → String) (volume : SpoolVolume)
    (key : SpoolKey) (journal : Journal) : Prop where
  listed : volume.journals.lookup key = some journal
  stands : ∃ content, volume.finals.lookup key = some content ∧
    ∀ file ∈ journal.files, ∃ stored,
      (content.find? fun stored => stored.name = file.spoolPath) = some stored ∧
        stored.size = file.size ∧ digest key stored = file.sha256

def RetryClaim.readsAll (claim : RetryClaim) (rows : List (Uuid × CloudRow)) :
    List PublicationFile → Bool
  | [] => true
  | file :: rest =>
    match rows.find? fun row => row.1 = file.sourceVersionId with
    | none => true
    | some row =>
      if row.2.isSettled then claim.readsAll rows rest
      else claim.reads file.sourceVersionId &&
        (!claim.takes row.2 file.sourceVersionId || claim.readsAll rows rest)

section Recovered

variable (lib : SpoolLibrary) (digest : SpoolKey → SpoolFile → String) (call : RecoveryCall)

/-- The listing of `listed` succeeds and comes to the publication, and its files are read. -/
structure RecoveryCall.Serves (listed : SpoolVolume) (claim : RetryClaim) (publicationId : Uuid) :
    Prop where
  lists : call.lists = true
  reached : ((listed.recoverable lib call.profile).filter fun manifest =>
    manifest.1 < publicationId).length < call.limit
  reads : ∃ journal, listed.committed lib (call.profile, publicationId) = some journal ∧
    ∀ rows, cloudFileRows claim.rows journal.files = some rows →
      claim.readsAll rows journal.files = true

def RecoveryCall.released (listed : SpoolVolume) : List Uuid :=
  (call.releaseReady lib (call.manifests lib listed) listed).1

end Recovered

/-! ## The batch -/

section Batch

variable {lib : SpoolLibrary} {call : RecoveryCall} {volume : SpoolVolume} {profile : String}
  {publicationId : Uuid} {journal : Journal}

/-- The first entries of an ordered list are those with few before them. -/
theorem mem_take_of_ordered {α : Type} {entries : List (Nat × α)}
    (ordered : entries.Pairwise fun left right => left.1 < right.1) (limit : Nat)
    (entry : Nat × α) :
    entry ∈ entries.take limit ↔
      entry ∈ entries ∧ (entries.filter fun other => other.1 < entry.1).length < limit := by
  induction entries generalizing limit with
  | nil => simp
  | cons first rest ih =>
    obtain ⟨after, ordered⟩ := List.pairwise_cons.mp ordered
    cases limit with
    | zero => simp
    | succ limit =>
      rw [List.take_succ_cons, List.mem_cons, List.mem_cons, ih ordered limit]
      rcases Nat.lt_trichotomy first.1 entry.1 with before | same | later
      · have other : entry ≠ first := by
          rintro rfl
          exact Nat.lt_irrefl _ before
        simp [other, before]
      · have absent : entry ∉ rest := fun member =>
          Nat.lt_irrefl _ (same ▸ after entry member)
        have none : (rest.filter fun other => other.1 < entry.1) = [] :=
          List.filter_eq_nil_iff.mpr fun other member => by
            have follows := after other member
            simp only [decide_eq_true_eq]
            omega
        simp [absent, none, same]
      · have absent : entry ∉ rest := fun member =>
          Nat.lt_asymm later (after entry member)
        have other : entry ≠ first := by
          rintro rfl
          exact Nat.lt_irrefl _ later
        simp [absent, other]

theorem mem_recoverable :
    (publicationId, journal) ∈ volume.recoverable lib profile ↔
      volume.committed lib (profile, publicationId) = some journal := by
  rw [SpoolVolume.recoverable, List.mem_insertionSort, List.mem_filterMap]
  constructor
  · rintro ⟨⟨⟨_, _⟩, _⟩, _, given⟩
    split_ifs at given with owned
    · obtain ⟨_, committed, same⟩ := Option.map_eq_some_iff.mp given
      cases owned
      cases same
      exact committed
  · intro committed
    have found := (Option.filter_eq_some_iff.mp committed).1
    refine ⟨((profile, publicationId), journal), (Table.mem_rows _ _ _).mpr found, ?_⟩
    rw [if_pos rfl, committed]
    rfl

theorem recoverable_ordered :
    (volume.recoverable lib profile).Pairwise fun left right => left.1 < right.1 := by
  have distinct : (volume.recoverable lib profile).Pairwise fun left right => left.1 ≠ right.1 := by
    refine (List.perm_insertionSort _ _).pairwise_iff (fun apart => apart.symm) |>.mpr ?_
    refine List.Pairwise.filterMap _ ?_ volume.journals.pairwise_keys
    intro left right apart first one second other same
    split_ifs at one with mine
    split_ifs at other with yours
    obtain ⟨_, _, rfl⟩ := Option.map_eq_some_iff.mp one
    obtain ⟨_, _, rfl⟩ := Option.map_eq_some_iff.mp other
    exact apart (Prod.ext (mine.trans yours.symm) same)
  have ordered : (volume.recoverable lib profile).Pairwise fun left right => left.1 ≤ right.1 :=
    List.pairwise_insertionSort _ _
  exact (ordered.and distinct).imp fun both => Nat.lt_of_le_of_ne both.1 both.2

/-- The manifests that are listed. -/
theorem mem_manifests :
    (publicationId, journal) ∈ call.manifests lib volume ↔
      call.lists = true ∧ volume.committed lib (call.profile, publicationId) = some journal ∧
        ((volume.recoverable lib call.profile).filter fun manifest =>
          manifest.1 < publicationId).length < call.limit := by
  unfold RecoveryCall.manifests
  split
  · next lists =>
    rw [mem_take_of_ordered recoverable_ordered, mem_recoverable]
    simp [lists]
  · next lists => simp [lists]

end Batch

/-! ## Uploads of intact snapshots -/

section Upload

variable {lib : SpoolLibrary} {digest : SpoolKey → SpoolFile → String} {volume : SpoolVolume}
  {key : SpoolKey} {journal : Journal}

/-- The rows that are resolved name different files of the publication. -/
theorem resolveRows_spec (files : List PublicationFile) (rows : List CloudRow)
    (resolved : List (Uuid × CloudRow)) {result : List (Uuid × CloudRow)}
    (known : ∀ row ∈ resolved, row.1 ∈ files.map PublicationFile.sourceVersionId)
    (distinct : (resolved.map Prod.fst).Nodup)
    (success : resolveRows files rows resolved = some result) :
    result.length = resolved.length + rows.length ∧
      (∀ row ∈ result, row.1 ∈ files.map PublicationFile.sourceVersionId) ∧
      (result.map Prod.fst).Nodup := by
  induction rows generalizing resolved with
  | nil =>
    cases success
    exact ⟨rfl, known, distinct⟩
  | cons row _ ih =>
    unfold resolveRows at success
    split at success
    · cases success
    · next sourceVersionId _ =>
      split at success
      · cases success
      · next file found =>
        split_ifs at success with refused
        have fresh : sourceVersionId ∉ resolved.map Prod.fst := fun member =>
          refused (.inr (.inr member))
        have same : file.sourceVersionId = sourceVersionId := by
          simpa using List.find?_some found
        obtain ⟨length, all, nodup⟩ := ih
          (resolved ++ [(sourceVersionId, row)]) (by
            intro other member
            rcases List.mem_append.mp member with old | new
            · exact known other old
            · cases List.mem_singleton.mp new
              exact List.mem_map.mpr ⟨file, List.mem_of_find?_eq_some found, same⟩)
          (by
            rw [List.map_append, List.nodup_append]
            refine ⟨distinct, List.nodup_singleton _, ?_⟩
            rintro _ member _ new rfl
            cases List.mem_singleton.mp new
            exact fresh member)
          success
        refine ⟨?_, all, nodup⟩
        rw [length]
        simp
        omega

/-- Rows that pass the checks leave no two files with one identity. -/
theorem sources_nodup {rows : Option (List CloudRow)} {files : List PublicationFile}
    {resolved : List (Uuid × CloudRow)} (success : cloudFileRows rows files = some resolved) :
    (files.map PublicationFile.sourceVersionId).Nodup := by
  unfold cloudFileRows at success
  split at success
  · cases success
  · split_ifs at success with other
    obtain ⟨length, all, nodup⟩ :=
      resolveRows_spec files _ [] (by simp) List.nodup_nil success
    have subset : resolved.map Prod.fst ⊆ files.map PublicationFile.sourceVersionId := by
      intro sourceVersionId member
      obtain ⟨row, listed, rfl⟩ := List.mem_map.mp member
      exact all row listed
    have within := List.subperm_of_subset nodup subset
    refine (within.perm_of_length_le ?_).nodup_iff.mp nodup
    simp only [List.length_map, List.length_nil] at length ⊢
    omega

/-- The file that stands for a file of an intact snapshot. -/
theorem spoolFile_of_intact (intact : volume.IsIntact digest key journal)
    (readable : journal.isReadable lib key.2 = true)
    (distinct : (journal.files.map PublicationFile.sourceVersionId).Nodup)
    {file : PublicationFile} (member : file ∈ journal.files) :
    ∃ stored, volume.spoolFile lib key file.sourceVersionId = .ok stored ∧
      digest key stored = file.sha256 := by
  obtain ⟨_, stands, matching⟩ := intact.stands
  obtain ⟨stored, present, size, same⟩ := matching file member
  have found : (journal.files.find? fun other => other.sourceVersionId = file.sourceVersionId) =
      some file := by
    cases search : journal.files.find? fun other =>
        other.sourceVersionId = file.sourceVersionId with
    | none => simpa using List.find?_eq_none.mp search file member
    | some other =>
      have named : other.sourceVersionId = file.sourceVersionId := by
        simpa using List.find?_some search
      rw [List.inj_on_of_nodup_map distinct (List.mem_of_find?_eq_some search) member named]
  refine ⟨stored, ?_, same⟩
  simp [SpoolVolume.spoolFile, intact.listed, readable, found, stands, present, size]

theorem uploadFiles_source_iff (claim : RetryClaim) (rows : List (Uuid × CloudRow))
    (files : List PublicationFile) (served : ∀ file ∈ files, ∃ stored,
      volume.spoolFile lib key file.sourceVersionId = .ok stored ∧
        digest key stored = file.sha256) :
    claim.uploadFiles lib digest key volume rows files = .error .source ↔
      claim.readsAll rows files = false := by
  induction files with
  | nil => simp [RetryClaim.uploadFiles, RetryClaim.readsAll]
  | cons file _ ih =>
    have later := ih fun other member => served other (List.mem_cons_of_mem _ member)
    obtain ⟨_, found, same⟩ := served file (List.mem_cons_self ..)
    unfold RetryClaim.uploadFiles RetryClaim.readsAll RetryClaim.uploadFile
    cases rows.find? fun row => row.1 = file.sourceVersionId with
    | none => simp
    | some row =>
      cases settled : row.2.isSettled
      · cases read : claim.reads file.sourceVersionId
        · simp [settled]
        · cases taken : claim.takes row.2 file.sourceVersionId
          · simp [settled, found, same, taken]
          · simpa [settled, found, same, taken] using later
      · simpa [settled] using later

/-- The upload of an intact snapshot fails at its source only where a reading is not served. -/
theorem upload_source_iff (claim : RetryClaim) (intact : volume.IsIntact digest key journal)
    (readable : journal.isReadable lib key.2 = true) :
    claim.upload lib digest key volume journal = .error .source ↔
      ∃ rows, cloudFileRows claim.rows journal.files = some rows ∧
        claim.readsAll rows journal.files = false := by
  unfold RetryClaim.upload
  cases resolved : cloudFileRows claim.rows journal.files with
  | none => simp
  | some rows =>
    have served := uploadFiles_source_iff claim rows journal.files fun file member =>
      spoolFile_of_intact intact readable (sources_nodup resolved) member
    simpa using served

end Upload

/-! ## The spool during the call -/

section Steps

variable {lib : SpoolLibrary} {digest : SpoolKey → SpoolFile → String}

/-- The journals of the first are those of the second, but for some that are gone. -/
def SpoolVolume.JournalsOf (after before : SpoolVolume) : Prop :=
  ∀ key journal, after.journals.lookup key = some journal →
    before.journals.lookup key = some journal

theorem journals_transact {α : Type} (volume : SpoolVolume) (fault : DiskFault)
    (body : Ledger → Except SpoolError (Option Ledger × α)) :
    (volume.transact fault body).2.JournalsOf volume := by
  rcases transact_cases volume fault body with same | ⟨_, _, _, same⟩
  · rw [same]
    exact fun _ _ stored => stored
  · rw [same]
    exact fun _ _ stored => stored

/-- What a release does leaves no new journal. -/
theorem journals_of_moves (fault : DiskFault) {action : SpoolAction} {mode next : ReleaseMode}
    {reply : SpoolReply action} (volume : SpoolVolume)
    (moves : ReleaseMoves mode action reply next) :
    (perform lib fault action volume).2.JournalsOf volume := by
  have unlinked : ∀ key, (perform lib fault (.removeJournal key) volume).2.JournalsOf volume := by
    intro key
    rcases change_cases volume fault snapshotError () (fun volume : SpoolVolume =>
      { volume with journals := volume.journals.erase key }) with same | ⟨same, _⟩
    · change ((volume.change fault snapshotError () _).2).JournalsOf volume
      rw [same]
      exact fun other journal stored => Table.lookup_of_erase stored
    · change ((volume.change fault snapshotError () _).2).JournalsOf volume
      rw [same]
      exact fun _ _ stored => stored
  have removed : ∀ key, (perform lib fault (.removeFinal key) volume).2.JournalsOf volume := by
    intro key other journal stored
    exact (congrArg _ (removeFinal_others fault volume key).1).symm.trans stored
  cases moves with
  | mark | list | drop | dropReleasing => exact journals_transact volume fault _
  | read isReading =>
    cases action with
    | markReleasing | listReleasing | charge => exact journals_transact volume fault _
    | discover | recheck => exact fun _ _ stored => stored
    | _ => cases isReading
  | removeFinal | removeFinalFails => exact removed _
  | removeJournal => exact unlinked _
  | removeJournalFails => exact unlinked _

theorem journals_after {program : SpoolProgram SpoolAnswer} {mode : ReleaseMode}
    (faults : List DiskFault) (volume : SpoolVolume)
    (follows : program.Follows ReleaseMoves EndsAnywhere EndsAnywhere mode) :
    (Program.after (perform lib) faults program volume).2.JournalsOf volume := by
  induction faults generalizing program mode volume with
  | nil =>
    cases program with
    | answer | refuse | act => exact fun _ _ stored => stored
  | cons fault _ ih =>
    cases program with
    | answer | refuse => exact fun _ _ stored => stored
    | act action =>
      obtain ⟨_, allowed, goesOn⟩ := follows (perform lib fault action volume).1
      intro key journal stored
      exact journals_of_moves fault volume allowed key journal
        (ih (perform lib fault action volume).2 goesOn key journal stored)

theorem journals_release (releasing : Releasing) (key : SpoolKey) (volume : SpoolVolume) :
    (releasing.release lib key volume).2.JournalsOf volume :=
  journals_after releasing.faults volume (releasePublicationSpool_releases key releasing.now)

theorem journals_releaseReady (call : RecoveryCall) (manifests : List (Uuid × Journal))
    (volume : SpoolVolume) : (call.releaseReady lib manifests volume).2.JournalsOf volume := by
  induction manifests generalizing volume with
  | nil => exact fun _ _ stored => stored
  | cons manifest _ ih =>
    unfold RecoveryCall.releaseReady
    cases call.ready manifest.1 with
    | none => exact ih volume
    | some releasing =>
      intro key journal stored
      exact journals_release releasing _ volume key journal (ih _ key journal stored)

variable {manifests : List (Uuid × Journal)} {released : List Uuid} {volume : SpoolVolume}
  {profile : String} {step : RetryStep}

/-- What is known of each step of the loop. -/
theorem answerClaims_spec {claims : List RetryClaim}
    (member : step ∈ answerClaims lib digest profile manifests released claims volume) :
    step.report = step.claim.report lib digest profile manifests released step.volume ∧
      step.volume.JournalsOf volume := by
  induction claims generalizing volume with
  | nil => cases member
  | cons _ _ ih =>
    unfold answerClaims at member
    rcases List.mem_cons.mp member with first | later
    · rw [first]
      exact ⟨rfl, fun _ _ stored => stored⟩
    · split at later
      · next releasing _ _ =>
        simp only at later
        split_ifs at later with raised
        · cases later
        · obtain ⟨reported, journals⟩ := ih later
          refine ⟨reported, fun key journal stored => ?_⟩
          exact journals_release releasing _ volume key journal (journals key journal stored)
      · exact ih later

/-- What is reported is about the publication of the claim. -/
theorem due_of_report {claim : RetryClaim} {report : RetryReport}
    (reported : claim.report lib digest profile manifests released volume = some report) :
    claim.due released = some (report.publicationId, report.revision, report.leaseToken) := by
  unfold RetryClaim.report at reported
  split at reported
  · cases reported
  · next due =>
    rw [due]
    split at reported
    · cases reported
      rfl
    · split at reported
      · cases reported
        rfl
      · cases reported
        rfl
      · cases reported

/-- A report on an intact snapshot. -/
theorem report_of_intact {call : RecoveryCall} {listed : SpoolVolume}
    {publicationId : Uuid} {revision : Int} {leaseToken : Uuid} {journal : Journal}
    (due : step.claim.due (call.released lib listed) = some (publicationId, revision, leaseToken))
    (journals : step.volume.JournalsOf listed)
    (intact : step.volume.IsIntact digest (call.profile, publicationId) journal) :
    step.claim.report lib digest call.profile (call.manifests lib listed)
        (call.released lib listed) step.volume =
      some ⟨publicationId, revision, leaseToken, .sourceUnavailable⟩ ↔
      ¬call.Serves lib listed step.claim publicationId := by
  simp only [RetryClaim.report, due]
  cases found : (call.manifests lib listed).find? fun manifest =>
      manifest.1 = publicationId with
  | none =>
    refine iff_of_true rfl fun serves => ?_
    obtain ⟨_, committed, _⟩ := serves.reads
    have member := mem_manifests.mpr ⟨serves.lists, committed, serves.reached⟩
    simpa using List.find?_eq_none.mp found _ member
  | some manifest =>
    obtain ⟨named, _⟩ := manifest
    have same : named = publicationId := by simpa using List.find?_some found
    subst same
    obtain ⟨lists, committed, reached⟩ := mem_manifests.mp (List.mem_of_find?_eq_some found)
    obtain ⟨present, checked⟩ := Option.filter_eq_some_iff.mp committed
    have written := journals _ _ intact.listed
    rw [present] at written
    cases written
    have readable : journal.isReadable lib named = true := (Bool.and_eq_true_iff.mp checked).1
    have failing := upload_source_iff step.claim intact readable
    have unserved : call.Serves lib listed step.claim named ↔
        ¬step.claim.upload lib digest (call.profile, named) step.volume journal =
          .error .source := by
      rw [failing]
      constructor
      · rintro ⟨_, _, _, known, reads⟩ ⟨rows, resolved, missed⟩
        rw [committed] at known
        cases known
        rw [reads rows resolved] at missed
        cases missed
      · intro all
        refine ⟨lists, reached, journal, committed, fun rows resolved => ?_⟩
        cases read : step.claim.readsAll rows journal.files with
        | true => rfl
        | false => exact (all ⟨rows, resolved, read⟩).elim
    rw [unserved, not_not]
    simp only
    cases step.claim.upload lib digest (call.profile, named) step.volume journal with
    | ok => simp
    | error failure => cases failure <;> simp

end Steps

/-! ## The call -/

/-- A loss is reported of an intact snapshot exactly where the listing or a reading fails it. -/
theorem recovery_reports_lost_sources_where_it_lists_and_reads (lib : SpoolLibrary)
    (digest : SpoolKey → SpoolFile → String) (call : RecoveryCall) (volume : SpoolVolume) :
    (∀ step ∈ call.recover lib digest volume, ∀ report, step.report = some report →
      report.outcome = .sourceUnavailable → ∀ journal,
        ¬step.volume.IsIntact digest (call.profile, report.publicationId) journal) ↔
      ∀ listed, call.cleanUp lib volume = some listed →
        ∀ step ∈ call.recover lib digest volume, ∀ publicationId revision leaseToken,
          step.claim.due (call.released lib listed) = some (publicationId, revision, leaseToken) →
          ∀ journal, step.volume.IsIntact digest (call.profile, publicationId) journal →
            call.Serves lib listed step.claim publicationId := by
  unfold RecoveryCall.recover
  split
  · simp
  · cases cleaned : call.cleanUp lib volume with
    | none => simp
    | some listed =>
      cases call.claims with
      | none => simp
      | some =>
        simp only [Option.some.injEq, forall_eq']
        constructor
        · intro only step member publicationId revision leaseToken due journal intact
          obtain ⟨reported, journals⟩ := answerClaims_spec member
          have lost := report_of_intact due
            (fun _ _ stored => journals_releaseReady call _ listed _ _ (journals _ _ stored))
            intact
          by_contra unserved
          exact only step member _ (reported.trans (lost.mpr unserved)) rfl journal intact
        · intro serves step member report reports lost journal intact
          obtain ⟨reported, journals⟩ := answerClaims_spec member
          obtain ⟨publicationId, revision, leaseToken, _⟩ := report
          cases lost
          rw [reports] at reported
          have due := due_of_report reported.symm
          refine (report_of_intact due
            (fun _ _ stored => journals_releaseReady call _ listed _ _ (journals _ _ stored))
            intact).mp reported.symm ?_
          exact serves step member publicationId revision leaseToken due journal intact

def noteClaim : RetryClaim where
  publicationId := some 1
  revision := some 2
  leaseToken := some 9
  rows := none
  reads := fun _ => true
  accepts := fun _ => true
  ready := none
  raises := false

def unlistedCall : RecoveryCall where
  profile := "ally"
  limit := 20
  available := true
  cleanup := none
  hasWorkspace := true
  lists := false
  ready := fun _ => none
  claims := some [noteClaim]

def noteDigest (_ : SpoolKey) (_ : SpoolFile) : String := String.ofList (List.replicate 64 'b')

/-- The note is reported as lost while its snapshot stands. -/
theorem unlisted_note_is_reported_lost :
    let volume := frozenNote
    ∃ step ∈ unlistedCall.recover plainLibrary noteDigest volume, ∃ report,
      step.report = some report ∧ report.outcome = .sourceUnavailable ∧ ∃ journal,
        step.volume.IsIntact noteDigest ("ally", report.publicationId) journal := by
  refine ⟨⟨noteClaim, frozenNote, some ⟨1, 2, 9, .sourceUnavailable⟩⟩, .head _, _, rfl, rfl,
    journalOf plainLibrary ["notes.txt"]
      [⟨7, "notes.txt", 3, String.ofList (List.replicate 64 'b'), "01-c.bin"⟩], ?_, ?_⟩
  · decide +kernel
  · exact ⟨[⟨"01-c.bin", 3⟩], by decide +kernel, by decide +kernel⟩

end Spool

end Foundry
