import Foundry.Properties.SpoolAccounts

/-!
# Interrupted releases

A release marks its record before it removes anything, and drops the record last.  Wherever it is
interrupted after its mark, the reconciliation finishes it; neither of the two touches a publication
that is not being released, or drops a record whose directory still stands.
-/

set_option autoImplicit false

namespace Foundry

namespace Spool

open Program

/-! ## The property -/

structure SpoolVolume.IsGone (volume : SpoolVolume) (key : SpoolKey) : Prop where
  final : volume.finals.lookup key = none
  journal : volume.journals.lookup key = none
  record : ∀ record, volume.ledger.lookup key.2 = some record → record.profile ≠ key.1

/-- What one action of a release or a reconciliation may take away. -/
structure SpoolVolume.ReleasesOnly (before after : SpoolVolume) : Prop where
  /-- A snapshot or journal changes only while its publication is being released. -/
  spares : ∀ key, before.isReleasing key = false →
    after.finals.lookup key = before.finals.lookup key ∧
      after.journals.lookup key = before.journals.lookup key
  /-- A record goes only when its directory is gone. -/
  charges : ∀ publicationId record, before.ledger.lookup publicationId = some record →
    after.ledger.lookup publicationId = none →
    before.finals.lookup (record.profile, publicationId) = none

def Ledger.releasingCount (ledger : Ledger) : Nat :=
  (ledger.rows.filter fun row => row.2.state = .releasing).length

/-! ## The protocol of a release -/

inductive ReleaseMode where
  | idle
  /-- These publications are being released, and the directories of those are gone. -/
  | completing (keys cleared : List SpoolKey)
  | emptied (keys cleared : List SpoolKey) (key : SpoolKey)

def SpoolAction.isReading : SpoolAction → Bool
  | .markReleasing .. | .listReleasing _ | .discover _ | .recheck _ | .charge .. => true
  | _ => false

inductive ReleaseMoves :
    ReleaseMode → (action : SpoolAction) → SpoolReply action → ReleaseMode → Prop where
  | mark {key : SpoolKey} {now : Nat} :
      ReleaseMoves .idle (.markReleasing key now) (.ok true) (.completing [key] [])
  | list {limit : Nat} {keys : List SpoolKey} :
      ReleaseMoves .idle (.listReleasing limit) (.ok keys) (.completing keys [])
  | read {mode : ReleaseMode} {action : SpoolAction} {reply : SpoolReply action}
      (isReading : action.isReading = true) : ReleaseMoves mode action reply .idle
  | removeFinal {keys cleared : List SpoolKey} {key : SpoolKey} (member : key ∈ keys) :
      ReleaseMoves (.completing keys cleared) (.removeFinal key) (.ok ())
        (.emptied keys cleared key)
  | removeFinalFails {keys cleared : List SpoolKey} {key : SpoolKey} {reason : SpoolError}
      (member : key ∈ keys) :
      ReleaseMoves (.completing keys cleared) (.removeFinal key) (.error reason) .idle
  | removeJournal {keys cleared : List SpoolKey} {key : SpoolKey} :
      ReleaseMoves (.emptied keys cleared key) (.removeJournal key) (.ok ())
        (.completing keys (key :: cleared))
  | removeJournalFails {keys cleared : List SpoolKey} {key : SpoolKey} {reason : SpoolError} :
      ReleaseMoves (.emptied keys cleared key) (.removeJournal key) (.error reason) .idle
  | drop {keys cleared : List SpoolKey} {key : SpoolKey} {reply : SpoolReply (.drop key.2)}
      (member : key ∈ cleared) :
      ReleaseMoves (.completing keys cleared) (.drop key.2) reply .idle
  | dropReleasing {keys cleared : List SpoolKey} {reply : SpoolReply (.dropReleasing keys)}
      (all : ∀ key ∈ keys, key ∈ cleared) :
      ReleaseMoves (.completing keys cleared) (.dropReleasing keys) reply .idle

def ReleaseMode.Fact : ReleaseMode → SpoolVolume → Prop
  | .idle, _ => True
  | .completing keys cleared, volume =>
    (∀ key ∈ keys, volume.isReleasing key = true) ∧
      ∀ key ∈ cleared, key ∈ keys ∧ volume.finals.lookup key = none
  | .emptied keys cleared key, volume =>
    (∀ key ∈ keys, volume.isReleasing key = true) ∧
      (∀ key ∈ cleared, key ∈ keys ∧ volume.finals.lookup key = none) ∧
      key ∈ keys ∧ volume.finals.lookup key = none

/-! ## The calls follow it -/

variable {action : SpoolAction} {keys : List SpoolKey} {key : SpoolKey}

section Follows

def EndsAnywhere {α : Type} (_ : α) (_ : ReleaseMode) : Prop := True

theorem follows_reading {α : Type} {mode : ReleaseMode}
    {next : action.Value → SpoolProgram α} (isReading : action.isReading = true)
    (follows : ∀ value, (next value).Follows ReleaseMoves EndsAnywhere EndsAnywhere .idle) :
    (run action >>= next).Follows ReleaseMoves EndsAnywhere EndsAnywhere mode :=
  follows_bind (follows_run (fun value => ⟨.idle, .read isReading, follows value⟩)
    fun _ => ⟨.idle, .read isReading, trivial⟩)

theorem completeRelease_releases {cleared : List SpoolKey} (member : key ∈ keys) :
    (completeRelease key).Follows ReleaseMoves
      (fun _ mode => mode = .completing keys (key :: cleared)) EndsAnywhere
      (.completing keys cleared) := by
  refine follows_bind (follows_run (fun _ => ⟨_, .removeFinal member, ?_⟩)
    fun _ => ⟨_, .removeFinalFails member, trivial⟩)
  exact follows_bind (follows_run (fun _ => ⟨_, .removeJournal, rfl⟩)
    fun _ => ⟨_, .removeJournalFails, trivial⟩)

theorem completeReleases_releases (listed cleared : List SpoolKey)
    (within : ∀ key ∈ listed, key ∈ keys) :
    (completeReleases listed).Follows ReleaseMoves
      (fun _ mode => mode = .completing keys (listed.reverse ++ cleared)) EndsAnywhere
      (.completing keys cleared) := by
  induction listed generalizing cleared with
  | nil => exact rfl
  | cons key _ ih =>
    refine follows_bind (follows_mono
      (completeRelease_releases (within key (List.mem_cons_self ..))) ?_ (fun _ _ same => same))
    rintro _ _ rfl
    refine follows_mono
      (ih (key :: cleared) fun other member => within other (List.mem_cons_of_mem _ member)) ?_
      (fun _ _ same => same)
    rintro _ _ rfl
    rw [List.reverse_cons, List.append_assoc, List.singleton_append]

theorem recheckAll_releases (keys : List SpoolKey) :
    (recheckAll keys).Follows ReleaseMoves (fun _ mode => mode = .idle) EndsAnywhere .idle := by
  induction keys with
  | nil => exact rfl
  | cons _ _ ih =>
    refine follows_bind (follows_run (fun _ => ⟨.idle, .read rfl, ?_⟩)
      fun _ => ⟨.idle, .read rfl, trivial⟩)
    refine follows_bind (follows_mono ih ?_ (fun _ _ same => same))
    rintro _ _ rfl
    exact rfl

theorem chargeCommitted_releases (limit now : Nat) (mode : ReleaseMode) :
    (chargeCommitted limit now).Follows ReleaseMoves EndsAnywhere EndsAnywhere mode := by
  refine follows_reading rfl fun discovered => ?_
  refine follows_bind (follows_mono (recheckAll_releases discovered) ?_ (fun _ _ same => same))
  rintro _ _ rfl
  exact follows_reading rfl fun _ => trivial

theorem reconcile_releases (limit now : Nat) :
    (reconcile limit now).Follows ReleaseMoves EndsAnywhere EndsAnywhere .idle := by
  unfold reconcile
  split
  · trivial
  · refine follows_bind ?_
    refine follows_bind (follows_run (fun (keys : List SpoolKey) => ⟨_, .list, ?_⟩)
      fun _ => ⟨.idle, .read rfl, trivial⟩)
    refine follows_bind (follows_mono
      (completeReleases_releases keys [] fun _ member => member) ?_ (fun _ _ same => same))
    rintro _ _ rfl
    split
    · exact chargeCommitted_releases limit now _
    · refine follows_bind (follows_run (fun _ =>
        ⟨.idle, .dropReleasing ?_, chargeCommitted_releases limit now _⟩)
        fun _ => ⟨.idle, .dropReleasing ?_, trivial⟩)
      · simp
      · simp

theorem releasePublicationSpool_releases (key : SpoolKey) (now : Nat) :
    (releasePublicationSpool key now).Follows ReleaseMoves EndsAnywhere EndsAnywhere .idle := by
  refine follows_bind (follows_run ?_ fun _ => ⟨.idle, .read rfl, trivial⟩)
  rintro (_ | _)
  · exact ⟨.idle, .read rfl, trivial⟩
  · refine ⟨_, .mark, ?_⟩
    refine follows_bind (follows_mono
      (completeRelease_releases (List.mem_singleton_self key)) ?_ (fun _ _ same => same))
    rintro _ _ rfl
    have isCleared : key ∈ [key] := List.mem_singleton_self key
    exact follows_bind (follows_run (fun _ => ⟨.idle, .drop isCleared, trivial⟩)
      fun _ => ⟨.idle, .drop isCleared, trivial⟩)

end Follows

/-! ## One action -/

variable {limit now : Nat}

section Actions

variable {lib : SpoolLibrary} {fault : DiskFault} {volume after : SpoolVolume} {key : SpoolKey}

theorem releasesOnly_of_ledger (finals : after.finals = volume.finals)
    (journals : after.journals = volume.journals)
    (kept : ∀ publicationId record, volume.ledger.lookup publicationId = some record →
      after.ledger.lookup publicationId = none →
      volume.finals.lookup (record.profile, publicationId) = none) :
    volume.ReleasesOnly after :=
  ⟨fun _ _ => ⟨congrArg _ finals, congrArg _ journals⟩, kept⟩

theorem releasesOnly_refl (volume : SpoolVolume) : volume.ReleasesOnly volume :=
  releasesOnly_of_ledger rfl rfl fun publicationId record stored absent => by
    rw [stored] at absent
    cases absent

theorem releasesOnly_transact {α : Type} {body : Ledger → Except SpoolError (Option Ledger × α)}
    (kept : ∀ written value, body volume.ledger = .ok (some written, value) →
      ∀ publicationId record, volume.ledger.lookup publicationId = some record →
        written.lookup publicationId = none →
        volume.finals.lookup (record.profile, publicationId) = none) :
    volume.ReleasesOnly (volume.transact fault body).2 := by
  rcases transact_cases volume fault body with same | ⟨written, value, given, same⟩
  · rw [same]
    exact releasesOnly_refl volume
  · rw [same]
    exact releasesOnly_of_ledger rfl rfl (kept written value given)

variable {ledger : Ledger} {publicationId other : Uuid} {stored : LedgerRecord}

theorem kept_of_insert {record : LedgerRecord} (isStored : ledger.lookup other = some stored)
    (absent : (ledger.insert publicationId record).lookup other = none) : False := by
  have before := Table.lookup_of_insert_none ledger publicationId other record absent
  rw [isStored] at before
  cases before

variable {profile : String}

theorem markReleasing_keeps {written : Ledger} {value : Bool}
    (given : ledger.markReleasing profile publicationId now = .ok (some written, value))
    (isStored : ledger.lookup other = some stored) (absent : written.lookup other = none) :
    False := by
  unfold Ledger.markReleasing at given
  split at given
  · cases given
  · split at given
    · cases given
    · split at given
      · cases given
      · cases given
        exact kept_of_insert isStored absent

theorem chargeAll_keeps (found : List (SpoolKey × Nat)) (now : Nat) (ledger : Ledger) (absent : (ledger.chargeAll found now).lookup other = none) :
    ledger.lookup other = none := by
  induction found generalizing ledger with
  | nil => exact absent
  | cons entry _ ih =>
    have before := ih (ledger.chargeOne now entry) absent
    by_cases same : other = entry.1.2
    · subst same
      unfold Ledger.chargeOne at before
      simp only at before
      split at before
      · next none => exact none
      · split_ifs at before
        · exact before
        · exact Table.lookup_of_insert_none _ _ _ _ before
        · exact before
    · rw [chargeOne_others now entry same] at before
      exact before

theorem releasesOnly_reading (isReading : action.isReading = true) :
    volume.ReleasesOnly (perform lib fault action volume).2 := by
  cases action with
  | markReleasing =>
    exact releasesOnly_transact fun written value given publicationId record stored absent =>
      (markReleasing_keeps given stored absent).elim
  | listReleasing => exact releasesOnly_transact fun _ _ given => by cases given
  | discover | recheck => exact releasesOnly_refl volume
  | charge found now =>
    refine releasesOnly_transact fun written value given publicationId record stored absent => ?_
    rw [← changed_eq_some (Prod.mk.inj (Except.ok.inj given)).1] at absent
    have before := chargeAll_keeps found now volume.ledger absent
    rw [stored] at before
    cases before
  | _ => cases isReading

section

variable (releasing : volume.isReleasing key = true)

include releasing

theorem releasesOnly_removeFinal :
    volume.ReleasesOnly (volume.removeFinal fault key) := by
  obtain ⟨journals, ledger, _⟩ := removeFinal_others fault volume key
  refine ⟨fun other free => ⟨?_, congrArg _ journals⟩, ?_⟩
  · refine removeFinal_finals fault ?_
    rintro rfl
    rw [releasing] at free
    cases free
  · intro publicationId record stored absent
    rw [ledger, stored] at absent
    cases absent

theorem releasesOnly_removeJournal :
    volume.ReleasesOnly { volume with journals := volume.journals.erase key } := by
  refine ⟨fun other free => ⟨rfl, AList.lookup_erase_ne ?_⟩, ?_⟩
  · rintro rfl
    rw [releasing] at free
    cases free
  · intro publicationId record stored absent
    rw [stored] at absent
    cases absent

theorem releasesOnly_drop (gone : volume.finals.lookup key = none) :
    volume.ReleasesOnly (volume.transact fault (Ledger.drop key.2)).2 := by
  refine releasesOnly_transact fun written value given publicationId record stored absent => ?_
  obtain ⟨_, isOwn, named, _⟩ := isReleasing_spec releasing
  unfold Ledger.drop at given
  split at given
  · cases given
  · cases given
    by_cases same : publicationId = key.2
    · rw [same, isOwn, Option.some.injEq] at stored
      rw [← stored, named, same]
      exact gone
    · rw [AList.lookup_erase_ne same, stored] at absent
      cases absent

end

theorem releasesOnly_dropReleasing (gone : ∀ key ∈ keys, volume.finals.lookup key = none) :
    volume.ReleasesOnly (volume.transact fault fun ledger =>
      .ok (ledger.changed (ledger.dropReleasing keys), ())).2 := by
  refine releasesOnly_transact fun written value given publicationId record stored absent => ?_
  rw [← changed_eq_some (Prod.mk.inj (Except.ok.inj given)).1] at absent
  refine gone _ ?_
  by_contra notIn
  have kept : (volume.ledger.dropReleasing keys).lookup publicationId = some record := by
    rw [Ledger.dropReleasing, Table.lookup_keep_eq_some]
    exact ⟨stored, by simp [notIn]⟩
  rw [kept] at absent
  cases absent

theorem isReleasing_of_ledger (ledger : after.ledger = volume.ledger) :
    after.isReleasing key = volume.isReleasing key := by
  rw [SpoolVolume.isReleasing, SpoolVolume.isReleasing, ledger]

theorem removeFinal_none {other : SpoolKey} (gone : volume.finals.lookup other = none) :
    (volume.removeFinal fault key).finals.lookup other = none := by
  by_cases same : other = key
  · subst same
    rw [removeFinal_absent fault gone]
    exact gone
  · rw [removeFinal_finals fault same]
    exact gone

theorem removeFinal_gone (volume : SpoolVolume) (key : SpoolKey) :
    (volume.removeFinal .fine key).finals.lookup key = none := by
  unfold SpoolVolume.removeFinal
  split
  · next absent => exact absent
  · exact AList.lookup_erase key volume.finals

theorem fine_of_remove {change : SpoolVolume → SpoolVolume}
    (ok : (volume.remove fault change).1 = .ok ()) : fault = .fine := by
  cases fault with
  | fine => rfl
  | before | after | partway => cases ok

theorem transact_of_ok {α : Type} {body : Ledger → Except SpoolError (Option Ledger × α)}
    {value : α} (ok : (volume.transact fault body).1 = .ok value) :
    ∃ written, body volume.ledger = .ok (written, value) ∧
      (volume.transact fault body).2 = { volume with ledger := written.getD volume.ledger } := by
  unfold SpoolVolume.transact at ok ⊢
  split at ok
  · cases ok
  · split at ok
    · cases ok
    · next small =>
      simp only [if_neg small]
      split at ok
      · cases ok
      · next given =>
        cases ok
        exact ⟨none, given, rfl⟩
      · next written _ given =>
        split at ok
        · cases ok
        · next fine =>
          cases ok
          refine ⟨some written, given, ?_⟩
          simp only [if_neg fine, Option.getD_some]

theorem markReleasing_true {written : Option Ledger}
    (given : ledger.markReleasing profile publicationId now = .ok (written, true)) :
    ∃ record, (written.getD ledger).lookup publicationId = some record ∧
      record.profile = profile ∧ record.state = .releasing := by
  unfold Ledger.markReleasing at given
  split at given
  · cases given
  · next record stored =>
    split at given
    · cases given
    · next own =>
      rw [not_or, not_not] at own
      split at given
      · next releasing =>
        cases given
        exact ⟨record, stored, own.1, releasing⟩
      · cases given
        exact ⟨_, AList.lookup_insert _, own.1, rfl⟩

theorem isReleasing_of_marked
    (ok : (volume.transact fault (Ledger.markReleasing key.1 key.2 now)).1 = .ok true) :
    (volume.transact fault (Ledger.markReleasing key.1 key.2 now)).2.isReleasing key = true := by
  obtain ⟨_, given, same⟩ := transact_of_ok ok
  obtain ⟨record, stored, named, state⟩ := markReleasing_true given
  rw [same, SpoolVolume.isReleasing, Option.any_eq_true]
  exact ⟨record, stored, by simp [named, state]⟩

theorem isReleasing_of_listed (same : volume.ledger = ledger)
    (listed : key ∈ ledger.releasing limit) : volume.isReleasing key = true := by
  obtain ⟨⟨_, record⟩, selected, rfl⟩ := List.mem_map.mp (List.mem_of_mem_take listed)
  rw [List.mem_filter, Ledger.listed, List.mem_insertionSort, Table.mem_rows] at selected
  rw [SpoolVolume.isReleasing, Option.any_eq_true, same]
  exact ⟨record, selected.1, by simpa using selected.2⟩

theorem releasesOnly_of_moves {mode next : ReleaseMode} (fact : mode.Fact volume)
    (moves : ReleaseMoves mode action (perform lib fault action volume).1 next) :
    volume.ReleasesOnly (perform lib fault action volume).2 ∧
      next.Fact (perform lib fault action volume).2 := by
  generalize replyIs : (perform lib fault action volume).1 = reply at moves
  cases moves with
  | @mark key now =>
    refine ⟨releasesOnly_reading rfl, ?_, by rintro _ ⟨⟩⟩
    intro other member
    rw [List.mem_singleton.mp member]
    exact isReleasing_of_marked replyIs
  | @list limit keys =>
    refine ⟨releasesOnly_reading rfl, ?_, by rintro _ ⟨⟩⟩
    intro key member
    obtain ⟨_, given, same⟩ := transact_of_ok replyIs
    cases given
    exact isReleasing_of_listed (congrArg SpoolVolume.ledger same) member
  | read isReading => exact ⟨releasesOnly_reading isReading, trivial⟩
  | @removeFinal keys cleared key member =>
    obtain ⟨releasing, gone⟩ := fact
    cases fine_of_remove replyIs
    obtain ⟨_, ledger, _⟩ := removeFinal_others .fine volume key
    refine ⟨releasesOnly_removeFinal (releasing key member), ?_, ?_, member,
      removeFinal_gone volume key⟩
    · intro other isKey
      exact (isReleasing_of_ledger ledger).trans (releasing other isKey)
    · intro other isCleared
      exact ⟨(gone other isCleared).1, removeFinal_none (gone other isCleared).2⟩
  | removeFinalFails member =>
    exact ⟨releasesOnly_removeFinal (fact.1 _ member), trivial⟩
  | @removeJournal keys cleared key =>
    obtain ⟨releasing, gone, member, absent⟩ := fact
    obtain ⟨changed, _⟩ := change_of_ok replyIs
    refine ⟨?_, ?_⟩
    · rw [show (perform lib fault (.removeJournal key) volume).2 = _ from changed]
      exact releasesOnly_removeJournal (releasing key member)
    · rw [show (perform lib fault (.removeJournal key) volume).2 = _ from changed]
      refine ⟨releasing, ?_⟩
      intro other isCleared
      rcases List.mem_cons.mp isCleared with rfl | before
      · exact ⟨member, absent⟩
      · exact gone other before
  | @removeJournalFails keys cleared key =>
    refine ⟨?_, trivial⟩
    rcases change_cases volume fault snapshotError () (fun volume : SpoolVolume =>
      { volume with journals := volume.journals.erase key }) with same | ⟨same, _⟩
    · rw [show (perform lib fault (.removeJournal key) volume).2 = _ from same]
      exact releasesOnly_removeJournal (fact.1 key fact.2.2.1)
    · rw [show (perform lib fault (.removeJournal key) volume).2 = _ from same]
      exact releasesOnly_refl volume
  | @drop keys cleared key reply member =>
    obtain ⟨isKey, gone⟩ := fact.2 key member
    exact ⟨releasesOnly_drop (fact.1 key isKey) gone, trivial⟩
  | @dropReleasing keys cleared reply all =>
    exact ⟨releasesOnly_dropReleasing fun key member => (fact.2 key (all key member)).2, trivial⟩

end Actions

/-! ## The interrupted release -/

section Interrupted

variable {lib : SpoolLibrary} {volume : SpoolVolume} {key : SpoolKey}

/-- The publication is being released, or nothing of it is left. -/
def SpoolVolume.IsDue (volume : SpoolVolume) (key : SpoolKey) : Prop :=
  volume.isReleasing key = true ∨ volume.IsGone key

section

variable {α : Type} (faults : List DiskFault)

theorem after_refuse (reason : SpoolError)
    (volume : SpoolVolume) :
    Program.after (perform lib) faults (.refuse reason : SpoolProgram α) volume =
      (.refuse reason, volume) := by
  cases faults with
  | nil => rfl
  | cons => rfl

theorem after_answer (value : α) (volume : SpoolVolume) :
    Program.after (perform lib) faults (.answer value : SpoolProgram α) volume =
      (.answer value, volume) := by
  cases faults with
  | nil => rfl
  | cons => rfl

end

theorem isDue_drop (fault : DiskFault) (releasing : volume.isReleasing key = true)
    (final : volume.finals.lookup key = none) (journal : volume.journals.lookup key = none) :
    (volume.transact fault (Ledger.drop key.2)).2.IsDue key := by
  rcases transact_cases volume fault (Ledger.drop key.2) with same | ⟨_, _, given, same⟩
  · rw [same]
    exact .inl releasing
  · rw [same]
    refine .inr ⟨final, journal, ?_⟩
    intro record stored
    unfold Ledger.drop at given
    split at given
    · cases given
    · cases given
      rw [AList.lookup_erase] at stored
      cases stored

theorem isDue_after_drop (faults : List DiskFault) (releasing : volume.isReleasing key = true)
    (final : volume.finals.lookup key = none) (journal : volume.journals.lookup key = none) :
    (Program.after (perform lib) faults
      (run (.drop key.2) >>= fun _ => return .done : SpoolProgram SpoolAnswer) volume).2.IsDue
        key := by
  cases faults with
  | nil => exact .inl releasing
  | cons fault faults =>
    have due := isDue_drop fault releasing final journal
    change (Program.after (perform lib) faults _
      (volume.transact fault (Ledger.drop key.2)).2).2.IsDue key
    cases (perform lib fault (.drop key.2) volume).1 with
    | ok =>
      change (Program.after (perform lib) faults (.answer SpoolAnswer.done) _).2.IsDue key
      rw [after_answer]
      exact due
    | error reason =>
      change (Program.after (perform lib) faults (.refuse reason) _).2.IsDue key
      rw [after_refuse]
      exact due

theorem removeJournal_ledger (fault : DiskFault) (volume : SpoolVolume) (key : SpoolKey) :
    (perform lib fault (.removeJournal key) volume).2.ledger = volume.ledger := by
  rcases change_cases volume fault snapshotError () (fun volume : SpoolVolume =>
    { volume with journals := volume.journals.erase key }) with same | ⟨same, _⟩
  · have ledger := congrArg SpoolVolume.ledger same
    exact ledger
  · exact congrArg SpoolVolume.ledger same

def unmarked (key : SpoolKey) : SpoolProgram SpoolAnswer := do
  completeRelease key
  let _ ← run (.drop key.2)
  return .done

theorem isDue_after_unmarked (faults : List DiskFault) (releasing : volume.isReleasing key = true) :
    (Program.after (perform lib) faults (unmarked key) volume).2.IsDue key := by
  cases faults with
  | nil => exact .inl releasing
  | cons fault faults =>
    obtain ⟨_, ledger, _⟩ := removeFinal_others fault volume key
    have still : (volume.removeFinal fault key).isReleasing key = true :=
      (isReleasing_of_ledger ledger).trans releasing
    change (Program.after (perform lib) faults _ (volume.removeFinal fault key)).2.IsDue key
    cases removed : (perform lib fault (.removeFinal key) volume).1 with
    | error reason =>
      change (Program.after (perform lib) faults (.refuse reason) _).2.IsDue key
      rw [after_refuse]
      exact .inl still
    | ok =>
      cases fine_of_remove removed
      have final := removeFinal_gone volume key
      cases faults with
      | nil => exact .inl still
      | cons later faults =>
        change (Program.after (perform lib) faults _
          (perform lib later (.removeJournal key) (volume.removeFinal .fine key)).2).2.IsDue
            key
        cases unlinked : (perform lib later (.removeJournal key)
            (volume.removeFinal .fine key)).1 with
        | error reason =>
          change (Program.after (perform lib) faults (.refuse reason) _).2.IsDue key
          rw [after_refuse]
          have same := @removeJournal_ledger lib later (volume.removeFinal .fine key) key
          exact .inl ((isReleasing_of_ledger same).trans still)
        | ok _ =>
          obtain ⟨changed, _⟩ := change_of_ok unlinked
          change (Program.after (perform lib) faults
            (run (.drop key.2) >>= fun _ => return .done : SpoolProgram SpoolAnswer)
            _).2.IsDue key
          rw [show (perform lib later (.removeJournal key)
            (volume.removeFinal .fine key)).2 = _ from changed]
          exact isDue_after_drop faults still final (AList.lookup_erase key _)

theorem isDue_after_release (first : DiskFault) (faults : List DiskFault) (now : Nat)
    (marked : (perform lib first (.markReleasing key now) volume).2.isReleasing key = true) :
    (Program.after (perform lib) (first :: faults) (releasePublicationSpool key now)
      volume).2.IsDue key := by
  change (Program.after (perform lib) faults _
    (perform lib first (.markReleasing key now) volume).2).2.IsDue key
  cases (perform lib first (.markReleasing key now) volume).1 with
  | error reason =>
    change (Program.after (perform lib) faults (.refuse reason) _).2.IsDue key
    rw [after_refuse]
    exact .inl marked
  | ok value =>
    cases value with
    | false =>
      change (Program.after (perform lib) faults (.answer SpoolAnswer.done) _).2.IsDue key
      rw [after_answer]
      exact .inl marked
    | true => exact isDue_after_unmarked faults marked

end Interrupted

/-! ## The reconciliation that finishes it -/

section Finish

variable {lib : SpoolLibrary} {volume : SpoolVolume} {key : SpoolKey}

theorem finish_run {value : action.Value} {after : SpoolVolume}
    (ok : perform lib .fine action volume = (.ok value, after)) :
    (run action).finish (perform lib .fine) volume = (.ok value, after) := by
  change Program.finish (perform lib .fine) _ (perform lib .fine action volume).2 = _
  rw [ok]
  rfl

/-- What completing releases leaves: the ledger as it was, and nothing of the publications. -/
structure SpoolVolume.ClearedOf (keys : List SpoolKey) (before after : SpoolVolume) : Prop where
  ledger : after.ledger = before.ledger
  finals : ∀ key, key ∈ keys ∨ before.finals.lookup key = none → after.finals.lookup key = none
  journals : ∀ key, key ∈ keys ∨ before.journals.lookup key = none →
    after.journals.lookup key = none

theorem SpoolVolume.ClearedOf.trans {later : List SpoolKey} {first second third : SpoolVolume}
    (before : first.ClearedOf keys second) (after : second.ClearedOf later third) :
    first.ClearedOf (keys ++ later) third where
  ledger := after.ledger.trans before.ledger
  finals := by
    rintro key (member | absent)
    · rcases List.mem_append.mp member with early | late
      · exact after.finals key (.inr (before.finals key (.inl early)))
      · exact after.finals key (.inl late)
    · exact after.finals key (.inr (before.finals key (.inr absent)))
  journals := by
    rintro key (member | absent)
    · rcases List.mem_append.mp member with early | late
      · exact after.journals key (.inr (before.journals key (.inl early)))
      · exact after.journals key (.inl late)
    · exact after.journals key (.inr (before.journals key (.inr absent)))

theorem completeRelease_finish (lib : SpoolLibrary) (key : SpoolKey) (volume : SpoolVolume) :
    ∃ after, (completeRelease key).finish (perform lib .fine) volume = (.ok (), after) ∧
      volume.ClearedOf [key] after := by
  obtain ⟨journals, ledger, _⟩ := removeFinal_others .fine volume key
  refine ⟨{ volume.removeFinal .fine key with
    journals := (volume.removeFinal .fine key).journals.erase key }, rfl, ledger, ?_, ?_⟩
  · rintro _ (member | absent)
    · rw [List.mem_singleton.mp member]
      exact removeFinal_gone volume key
    · exact removeFinal_none absent
  · rintro other (member | absent)
    · rw [List.mem_singleton.mp member]
      exact AList.lookup_erase key _
    · by_cases same : other = key
      · rw [same]
        exact AList.lookup_erase key _
      · rw [AList.lookup_erase_ne same, journals]
        exact absent

theorem completeReleases_finish (lib : SpoolLibrary) (keys : List SpoolKey) (volume : SpoolVolume) :
    ∃ after, (completeReleases keys).finish (perform lib .fine) volume = (.ok (), after) ∧
      volume.ClearedOf keys after := by
  induction keys generalizing volume with
  | nil =>
    refine ⟨volume, rfl, rfl, ?_, ?_⟩
    · exact fun key absent => absent.resolve_left (List.not_mem_nil)
    · exact fun key absent => absent.resolve_left (List.not_mem_nil)
  | cons key _ ih =>
    obtain ⟨middle, first, isCleared⟩ := completeRelease_finish lib key volume
    obtain ⟨after, later, restCleared⟩ := ih middle
    exact ⟨after, (finish_bind first).trans later, isCleared.trans restCleared⟩

theorem bytes_keep_le (stays : Uuid → LedgerRecord → Bool) (ledger : Ledger) :
    Ledger.bytes (ledger.keep stays) ≤ ledger.bytes := by
  have sublist : (Table.rows (ledger.keep stays)).Sublist ledger.rows :=
    List.filter_sublist.map _
  have fewer := sublist.length_le
  have smaller : ((Table.rows (ledger.keep stays)).map fun row => 36 + 3 + row.2.json.size).sum ≤
      (ledger.rows.map fun row => 36 + 3 + row.2.json.size).sum :=
    Table.total_keep_le (fun record : LedgerRecord => 36 + 3 + record.json.size) stays ledger
  unfold Ledger.bytes
  omega

theorem transact_fine {α : Type} {body : Ledger → Except SpoolError (Option Ledger × α)}
    {written : Option Ledger} {value : α} (small : volume.ledger.bytes ≤ maxJournalBytes)
    (given : body volume.ledger = .ok (written, value)) :
    volume.transact .fine body = (.ok value, { volume with
      ledger := written.getD volume.ledger }) := by
  unfold SpoolVolume.transact
  simp only [if_neg (Nat.not_lt.mpr small), given]
  cases written with
  | none => rfl
  | some => rfl

section

variable (before after : Ledger)

theorem rows_changed :
    Table.rows ((before.changed after).getD before) = after.rows := by
  unfold Ledger.changed
  split
  · next same => exact same.symm
  · rfl

theorem lookup_changed (publicationId : Uuid) :
    ((before.changed after).getD before).lookup publicationId = after.lookup publicationId := by
  apply Option.ext
  intro record
  rw [← Table.mem_rows, ← Table.mem_rows, rows_changed]

theorem bytes_changed :
    Ledger.bytes ((before.changed after).getD before) = after.bytes := by
  rw [Ledger.bytes, Ledger.bytes, rows_changed]

end

theorem listed_of_releasing (releasing : volume.isReleasing key = true)
    (within : volume.ledger.releasingCount ≤ limit) : key ∈ volume.ledger.releasing limit := by
  obtain ⟨record, stored, named, state⟩ := isReleasing_spec releasing
  have count : ((volume.ledger.listed.filter fun row => row.2.state = .releasing).map fun row =>
      (row.2.profile, row.1)).length = volume.ledger.releasingCount := by
    rw [List.length_map]
    exact ((List.perm_insertionSort _ volume.ledger.rows).filter _).length_eq
  rw [Ledger.releasing, List.take_of_length_le (count.trans_le within), List.mem_map]
  refine ⟨(key.2, record), ?_, by rw [named]⟩
  rw [List.mem_filter, Ledger.listed, List.mem_insertionSort, Table.mem_rows]
  exact ⟨stored, decide_eq_true state⟩

theorem completeReleasing_finish (due : volume.IsDue key)
    (within : volume.ledger.releasingCount ≤ limit)
    (small : volume.ledger.bytes ≤ maxJournalBytes) :
    ∃ after, (completeReleasing limit).finish (perform lib .fine) volume = (.ok (), after) ∧
      after.IsGone key ∧ after.ledger.bytes ≤ maxJournalBytes := by
  have listed : perform lib .fine (.listReleasing limit) volume =
      (.ok (volume.ledger.releasing limit), volume) := by
    have read := @transact_fine volume _ (fun ledger => .ok (none, ledger.releasing limit)) none
      (volume.ledger.releasing limit) small rfl
    exact read
  obtain ⟨middle, completed, cleared⟩ :=
    completeReleases_finish lib (volume.ledger.releasing limit) volume
  have isListed : volume.isReleasing key = true → key ∈ volume.ledger.releasing limit :=
    fun releasing => listed_of_releasing releasing within
  have final := cleared.finals key (due.imp isListed fun gone => gone.final)
  have journal := cleared.journals key (due.imp isListed fun gone => gone.journal)
  have ledgerSmall : middle.ledger.bytes ≤ maxJournalBytes := by
    rw [cleared.ledger]
    exact small
  have whole : (completeReleasing limit).finish (perform lib .fine) volume =
      Program.finish (perform lib .fine)
        (if (volume.ledger.releasing limit).isEmpty then return ()
        else do
          let _ ← run (.dropReleasing (volume.ledger.releasing limit))
          return () : SpoolProgram Unit) middle :=
    (finish_bind (finish_run listed)).trans (finish_bind completed)
  by_cases empty : (volume.ledger.releasing limit).isEmpty = true
  · rw [if_pos empty] at whole
    refine ⟨middle, whole, ⟨final, journal, ?_⟩, ledgerSmall⟩
    rcases due with releasing | gone
    · have member := isListed releasing
      rw [List.isEmpty_iff.mp empty] at member
      cases member
    · rw [cleared.ledger]
      exact gone.record
  · rw [if_neg empty] at whole
    have dropped := @transact_fine middle _ (fun ledger => .ok
      (ledger.changed (ledger.dropReleasing (volume.ledger.releasing limit)), ())) _ ()
      ledgerSmall rfl
    refine ⟨_, whole.trans (finish_bind (finish_run dropped)), ⟨final, journal, ?_⟩, ?_⟩
    · intro record stored
      rw [lookup_changed, Ledger.dropReleasing, Table.lookup_keep_eq_some, cleared.ledger] at stored
      obtain ⟨isRecord, stays⟩ := stored
      rcases due with releasing | gone
      · intro named
        obtain ⟨_, isOther, _, state⟩ := isReleasing_spec releasing
        rw [isRecord, Option.some.injEq] at isOther
        rw [isOther, state, ← isOther, named] at stays
        simp [isListed releasing] at stays
      · exact gone.record record isRecord
    · rw [bytes_changed]
      exact (bytes_keep_le _ middle.ledger).trans ledgerSmall

theorem recheck_committed {found : SpoolKey} (committed : (volume.committed lib found).isSome) :
    ∃ size, volume.recheck lib found = .ok (some size) ∧
      volume.journals.lookup found ≠ none := by
  obtain ⟨journal, isCommitted⟩ := Option.isSome_iff_exists.mp committed
  rw [SpoolVolume.committed, Option.filter_eq_some_iff] at isCommitted
  obtain ⟨stored, conditions⟩ := isCommitted
  rw [Bool.and_eq_true] at conditions
  refine ⟨bytes journal.files, ?_, by rw [stored]; simp⟩
  rw [SpoolVolume.recheck, stored]
  simp only [conditions.1, conditions.2, Bool.not_true, Bool.false_eq_true, if_false]

theorem recheckAll_finish (discovered : List SpoolKey)
    (committed : ∀ key ∈ discovered, (volume.committed lib key).isSome) :
    ∃ found, (recheckAll discovered).finish (perform lib .fine) volume = (.ok found, volume) ∧
      ∀ entry ∈ found, volume.journals.lookup entry.1 ≠ none := by
  induction discovered with
  | nil => exact ⟨[], rfl, by rintro _ ⟨⟩⟩
  | cons key _ ih =>
    obtain ⟨size, checked, present⟩ := recheck_committed (committed key (List.mem_cons_self ..))
    obtain ⟨found, later, known⟩ :=
      ih fun other member => committed other (List.mem_cons_of_mem _ member)
    have first : perform lib .fine (.recheck key) volume = (.ok (some size), volume) :=
      Prod.ext checked rfl
    refine ⟨(key, size) :: found, ?_, ?_⟩
    · exact (finish_bind (finish_run first)).trans (finish_bind later)
    · intro entry member
      rcases List.mem_cons.mp member with rfl | after
      · exact present
      · exact known entry after

theorem chargeCommitted_finish {observed : Nat} (gone : volume.IsGone key)
    (small : volume.ledger.bytes ≤ maxJournalBytes) :
    ∃ count settled, (chargeCommitted limit observed).finish (perform lib .fine) volume =
        (.ok count, settled) ∧ settled.IsGone key := by
  have discovered : perform lib .fine (.discover limit) volume =
      (.ok (volume.discover lib limit), volume) := rfl
  obtain ⟨found, checked, known⟩ := @recheckAll_finish lib volume (volume.discover lib limit) (by
    intro other member
    have listed := List.mem_of_mem_take member
    rw [List.mem_insertionSort, List.mem_filter] at listed
    exact listed.2)
  have charged : perform lib .fine (.charge found observed) volume = (.ok (), { volume with
      ledger := (volume.ledger.changed (volume.ledger.chargeAll found observed)).getD
        volume.ledger }) :=
    @transact_fine volume _ (fun ledger => .ok
      (ledger.changed (ledger.chargeAll found observed), ())) _ () small rfl
  refine ⟨(volume.discover lib limit).length, _, (finish_bind (finish_run discovered)).trans
    ((finish_bind checked).trans (finish_bind (finish_run charged))), gone.final, gone.journal, ?_⟩
  intro record stored
  rw [lookup_changed] at stored
  rcases lookup_chargeAll observed found volume.ledger stored with
    before | ⟨entry, member, same, rfl⟩
  · exact gone.record record before
  · intro named
    have isKey : entry.1 = key := Prod.ext named same
    refine known entry member ?_
    rw [isKey]
    exact gone.journal

theorem reconcile_finish {observed : Nat} (due : volume.IsDue key)
    (within : volume.ledger.releasingCount ≤ limit) (positive : 1 ≤ limit) (bounded : limit ≤ 100)
    (small : volume.ledger.bytes ≤ maxJournalBytes) :
    ∃ count settled, (reconcile limit observed).finish (perform lib .fine) volume =
        (.ok count, settled) ∧ settled.IsGone key := by
  obtain ⟨_, completed, gone, middleSmall⟩ := completeReleasing_finish due within small
  have admitted : ¬ (limit < 1 ∨ 100 < limit) := by omega
  rw [reconcile, if_neg admitted, finish_bind completed]
  exact chargeCommitted_finish gone middleSmall

end Finish

/-! ## Every crash point -/

def released (lib : SpoolLibrary) (key : SpoolKey) (now : Nat) (faults : List DiskFault)
    (volume : SpoolVolume) : SpoolVolume :=
  (Program.after (perform lib) faults (releasePublicationSpool key now) volume).2

theorem isDue_released {lib : SpoolLibrary} {faults : List DiskFault} {volume : SpoolVolume}
    (marked : (released lib key now (faults.take 1) volume).isReleasing key = true) :
    (released lib key now faults volume).IsDue key := by
  cases faults with
  | nil => exact .inl marked
  | cons first rest => exact isDue_after_release first rest now marked

/-- Wherever a release is interrupted after its mark, one reconciliation leaves nothing of the
publication.  No action of a release or a reconciliation changes a snapshot or journal that is not
being released, or drops a record before its directory is gone. -/
theorem marked_release_is_finished (lib : SpoolLibrary) (volume : SpoolVolume) (key : SpoolKey)
    (now limit observed : Nat) (faults later : List DiskFault) :
    let crashed := released lib key now faults volume
    ((released lib key now (faults.take 1) volume).isReleasing key = true →
      crashed.ledger.releasingCount ≤ limit → 1 ≤ limit → limit ≤ 100 →
      crashed.ledger.bytes ≤ maxJournalBytes →
      ∃ count settled, (reconcile limit observed).finish (perform lib .fine) crashed =
          (.ok count, settled) ∧ settled.IsGone key) ∧
      Program.Always (perform lib) SpoolVolume.ReleasesOnly faults
        (releasePublicationSpool key now) volume ∧
      Program.Always (perform lib) SpoolVolume.ReleasesOnly later (reconcile limit observed)
        crashed := by
  intro crashed
  have step : ∀ fault mode action volume next, ReleaseMode.Fact mode volume →
      ReleaseMoves mode action (perform lib fault action volume).1 next →
      volume.ReleasesOnly (perform lib fault action volume).2 ∧
        next.Fact (perform lib fault action volume).2 :=
    fun _ _ _ _ _ fact moves => releasesOnly_of_moves fact moves
  refine ⟨?_, ?_, ?_⟩
  · intro marked within positive bounded small
    exact reconcile_finish (isDue_released marked) within positive bounded small
  · exact always_of_follows step faults (releasePublicationSpool_releases key now) trivial
  · exact always_of_follows step later (reconcile_releases limit observed) trivial

def frozenNote : SpoolVolume :=
  (Run.run (SpoolPool.apply plainLibrary) (ProgramPool.quiet SpoolVolume.empty)
    (SpoolEvent.start (.freeze (noteFreeze 3 3)) :: List.replicate 12 (.step 0 .fine))).state

/-- The release has removed the directory, and crashes before it removes the journal. -/
theorem half_released_note_is_finished :
    ∃ count settled, (reconcile 100 9).finish (perform plainLibrary .fine)
        (released plainLibrary ("ally", 1) 6 [.fine, .fine] frozenNote) = (.ok count, settled) ∧
      settled.IsGone ("ally", 1) :=
  (marked_release_is_finished plainLibrary frozenNote ("ally", 1) 6 100 9 [.fine, .fine] []).1
    (by decide +kernel) (by decide +kernel) (by decide) (by decide) (by decide +kernel)

/-- The note of a call whose marking failed, and whose handler could not remove the directory. -/
def unchargedNote : SpoolVolume :=
  (Run.run (SpoolPool.apply plainLibrary) (ProgramPool.quiet SpoolVolume.empty)
    (SpoolEvent.start (.freeze (noteFreeze 3 3)) :: (List.replicate 11 (.step 0 .fine) ++
      [.step 0 .before, .step 0 .fine, .step 0 .before, .step 0 .fine]))).state

/-- The snapshot, the journal and the record of the note are there. -/
def SpoolVolume.holdsNote (volume : SpoolVolume) : Bool :=
  (volume.finals.lookup ("ally", 1)).isSome && (volume.journals.lookup ("ally", 1)).isSome &&
    (volume.ledger.lookup 1).any fun record => record.state = .frozen

/-- A release that crashes before its mark leaves the publication to the reconciliation, and so
does one that returns without a record to mark. -/
theorem unmarked_release_leaves_publication :
    let reconciled (volume : SpoolVolume) :=
      ((reconcile 100 9).finish (perform plainLibrary .fine) volume).2
    (reconciled (released plainLibrary ("ally", 1) 6 [] frozenNote)).holdsNote = true ∧
      ((releasePublicationSpool ("ally", 1) 6).finish (perform plainLibrary .fine)
        unchargedNote).1.toOption = some .done ∧
      (reconciled ((releasePublicationSpool ("ally", 1) 6).finish (perform plainLibrary .fine)
        unchargedNote).2).holdsNote = true := by
  decide +kernel

end Spool

end Foundry
