import Foundry.Volume.Cleanups

/-!
# Tombstone finality

Every write of a tombstone follows a verdict on the one that is there.  Two verdicts let an
older request through: a deletion fence over a tombstone that needs repair, whatever its epoch,
and a plain cleanup over the marker of a finished deletion, which reads as epoch zero.
-/

set_option autoImplicit false

namespace Foundry

open Script

variable {env : StoreEnv} {key : String} {identity : CleanupIdentity}
  {payload : TombstonePayload} {volume next : ProfileVolume}

/-! ## Epochs and markers -/

def TombstonePayload.epoch (payload : TombstonePayload) : Option Int :=
  match payload.get "lifecycle_epoch" with
  | some (.int epoch) => some epoch
  | _ => none

/-- The marker of a finished deletion, as the store recognises it. -/
def TombstonePayload.isTerminal (payload : TombstonePayload) : Bool :=
  payload.isDeleted && (tombstoneReceipt payload).isSome

def ProfileVolume.tombstonePayload (volume : ProfileVolume) : Option TombstonePayload :=
  volume.tombstone.bind TombstoneFile.payload?

def ProfileVolume.epoch (volume : ProfileVolume) : Option Int :=
  volume.tombstonePayload.bind TombstonePayload.epoch

def ProfileVolume.isTerminal (volume : ProfileVolume) : Bool :=
  volume.tombstonePayload.any TombstonePayload.isTerminal

section

variable {receipt : CleanupReceipt} (reads : tombstoneReceipt payload = some receipt)

include reads

theorem epoch_of_receipt
    (notDeleted : payload.isDeleted = false) : payload.epoch = some receipt.lifecycleEpoch := by
  unfold tombstoneReceipt at reads
  split at reads
  · split at reads
    · cases reads
    · rw [notDeleted] at reads
      simp only [Bool.false_eq_true, if_false] at reads
      split at reads
      · next stored _ _ _ =>
        split at reads
        · cases reads
          rw [TombstonePayload.epoch, stored]
        · cases reads
      · cases reads
  · cases reads

theorem deleted_receipt (isDeleted : payload.isDeleted = true) :
    receipt.status = .deprovisioned ∧ receipt.lifecycleEpoch = 0 ∧ receipt.operationId = "" := by
  unfold tombstoneReceipt at reads
  split at reads
  · split at reads
    · cases reads
    · rw [if_pos isDeleted] at reads
      split at reads
      · split at reads
        · split at reads
          · cases reads
            exact ⟨rfl, rfl, rfl⟩
          · cases reads
        · cases reads
      · cases reads
  · cases reads

end

theorem isDeleted_of_terminal (terminal : payload.isTerminal = true) : payload.isDeleted = true :=
  ((Bool.and_eq_true _ _).mp terminal).1

/-! ## Written tombstones -/

@[simp] theorem epoch_tombstone (lib : StoreLibrary) (identity : CleanupIdentity)
    (key status : String) (others : TombstonePayload) :
    (identity.tombstone lib key status others).epoch = some identity.lifecycleEpoch := by
  have stored : (identity.tombstone lib key status others).get "lifecycle_epoch" =
      some (.int identity.lifecycleEpoch) := by
    rw [TombstonePayload.get, Option.filter_eq_some_iff]
    refine ⟨?_, by simp⟩
    simp [CleanupIdentity.tombstone, Json.get?]
  rw [TombstonePayload.epoch, stored]

theorem isDeleted_tombstone (lib : StoreLibrary) (identity : CleanupIdentity) (key status : String)
    (others : TombstonePayload) (plain : others.all (fun member => member.1 != "deleted") = true) :
    (identity.tombstone lib key status others).isDeleted = false := by
  have inOthers : ∀ member ∈ others, member.1 ≠ "deleted" := by
    simpa using plain
  have noMember : ∀ member ∈ identity.tombstone lib key status others, member.1 ≠ "deleted" := by
    unfold CleanupIdentity.tombstone CleanupIdentity.deletionMembers
    rw [List.forall_mem_append, List.forall_mem_append]
    refine ⟨⟨?_, inOthers⟩, ?_⟩
    · simp
    · split <;> simp
  have absent : (identity.tombstone lib key status others).get "deleted" = none := by
    have notFound : ((identity.tombstone lib key status others).find? fun member =>
        member.1 == "deleted") = none := by
      rw [List.find?_eq_none]
      intro member isMember
      simpa using noMember member isMember
    simp [TombstonePayload.get, Json.get?, notFound]
  simp [TombstonePayload.isDeleted, absent]

theorem get_of_present {name : String} {value : Json}
    (present : (Json.obj payload).get? name = some value) (notNull : value ≠ .null) :
    payload.get name = some value := by
  rw [TombstonePayload.get, present, Option.filter_eq_some_iff]
  exact ⟨rfl, by simpa using notNull⟩

theorem isTerminal_terminalPayload (isKey : isProfileKey key = true) :
    TombstonePayload.isTerminal (terminalPayload key) = true := by
  have schema : (terminalPayload key).get "schema" = some (.str manifestSchema) :=
    get_of_present rfl (by simp)
  have version : (terminalPayload key).get "schema_version" = some (.int manifestVersion) :=
    get_of_present rfl (by simp)
  have named : (terminalPayload key).get "profile_key" = some (.str key) :=
    get_of_present rfl (by simp)
  have status : (terminalPayload key).get "status" = some (.str "DEPROVISIONED") :=
    get_of_present rfl (by simp)
  have deleted : (terminalPayload key).get "deleted" = some (.bool true) :=
    get_of_present rfl (by simp)
  have isDeleted : (terminalPayload key).isDeleted = true := by
    rw [TombstonePayload.isDeleted, status, deleted]
    decide
  have fields : ((terminalPayload key).all (fun member => terminalFields.contains member.1) &&
      terminalFields.all (terminalPayload key).has) = true := by
    simp [terminalPayload, terminalFields, TombstonePayload.has]
  have reads : tombstoneReceipt (terminalPayload key) =
      some ⟨.deprovisioned, key, 0, "", "", none, none, none⟩ := by
    have isStatus : ProfileCleanupStatus.ofValue "DEPROVISIONED" = some .deprovisioned := by decide
    simp only [tombstoneReceipt, status, isStatus, isDeleted, schema, version, named, fields, isKey,
      if_true, beq_self_eq_true, Bool.and_self]
  rw [TombstonePayload.isTerminal, isDeleted, reads]
  rfl

/-! ## What a verdict lets through -/

theorem fenceVerdict_none (passes : fenceVerdict env key identity payload = none) :
    payload.isDeleted = false ∧ ∃ epoch, payload.epoch = some epoch ∧
      (epoch ≤ identity.lifecycleEpoch ∨
        ∃ receipt, tombstoneReceipt payload = some receipt ∧ receipt.status = .repairRequired) := by
  unfold fenceVerdict at passes
  split at passes
  · cases passes
  · next notDeleted =>
    have kept : payload.isDeleted = false := by simpa using notDeleted
    refine ⟨kept, ?_⟩
    split at passes
    · split at passes
      · cases passes
      · split at passes
        · next epoch _ _ _ stored _ _ =>
          split at passes
          · cases passes
          · split at passes
            · split at passes
              · split at passes <;> cases passes
              · cases passes
            · split at passes
              · cases passes
              · refine ⟨epoch, ?_, .inl (by omega)⟩
                rw [TombstonePayload.epoch, stored]
        · cases passes
    · split at passes
      · cases passes
      · next receipt reads =>
        split at passes
        · cases passes
        · split at passes
          · cases passes
          · next guard =>
            refine ⟨receipt.lifecycleEpoch, epoch_of_receipt reads kept, ?_⟩
            by_cases repairs : receipt.status = .repairRequired
            · exact .inr ⟨receipt, reads, repairs⟩
            · refine .inl ?_
              by_contra newer
              exact guard ⟨repairs, by omega⟩

theorem pendingVerdict_none (passes : pendingVerdict env key identity payload = none) :
    ∃ epoch, payload.epoch = some epoch ∧ epoch ≤ identity.lifecycleEpoch := by
  unfold pendingVerdict at passes
  simp only at passes
  split at passes
  · cases passes
  · split at passes
    · next epoch _ _ _ _ isEpoch _ _ =>
      refine ⟨epoch, by rw [TombstonePayload.epoch, isEpoch], ?_⟩
      split at passes
      · cases passes
      · split at passes
        · cases passes
        · split at passes
          · next same => exact Int.le_of_eq same.2.1
          · split at passes
            · cases passes
            · omega
    · cases passes

theorem cleanupVerdict_none (passes : cleanupVerdict env key identity payload = none) :
    (payload.isDeleted = false ∧
      ∃ epoch, payload.epoch = some epoch ∧ epoch ≤ identity.lifecycleEpoch) ∨
      (payload.isTerminal = true ∧ identity.deletion = none ∧
        (identity.operationId ≠ "" → 0 < identity.lifecycleEpoch)) := by
  unfold cleanupVerdict at passes
  split at passes
  · cases passes
  · next notReplay =>
    split at passes
    · next pending =>
      refine .inl ⟨?_, pendingVerdict_none passes⟩
      rw [TombstonePayload.isDeleted, Bool.and_eq_false_iff]
      refine .inl ?_
      rw [beq_iff_eq] at pending
      rw [pending]
      decide
    · split at passes
      · cases passes
      · next receipt reads =>
        split at passes
        · cases passes
        · cases deleted : payload.isDeleted with
          | true =>
            obtain ⟨_, epoch, operation⟩ := deleted_receipt reads deleted
            have isPlain : identity.deletion = none := by
              cases deletes : identity.deletion with
              | none => rfl
              | some =>
                rw [deletes, deleted] at notReplay
                exact absurd rfl notReplay
            refine .inr ⟨by rw [TombstonePayload.isTerminal, deleted, reads]; rfl, isPlain, ?_⟩
            intro named
            rw [if_neg (by rw [isPlain]; simp), if_neg, epoch] at passes
            · split at passes
              · cases passes
              · omega
            · rintro ⟨same, _⟩
              exact named (same.symm.trans operation)
          | false =>
            refine .inl ⟨rfl, receipt.lifecycleEpoch, epoch_of_receipt reads deleted, ?_⟩
            split at passes
            · split at passes
              · cases passes
              · omega
            · split at passes
              · next same => exact Int.le_of_eq same.2.1
              · split at passes
                · cases passes
                · omega

/-! ## Finality -/

/-- What a later state keeps of an earlier one: the tombstone stays, its epoch does not go
back, and the marker of a finished deletion is not replaced. -/
structure ProfileVolume.Final (before after : ProfileVolume) : Prop where
  stays : before.tombstone.isSome = true → after.tombstone.isSome = true
  epoch : ∀ epoch, before.epoch = some epoch →
    after.isTerminal = true ∨ ∃ later, after.epoch = some later ∧ epoch ≤ later
  terminal : before.isTerminal = true → after.tombstone = before.tombstone

/-- The marker of a finished deletion names the key alone, and nothing of the profile is left. -/
def ProfileVolume.ContentFree (key : String) (volume : ProfileVolume) : Prop :=
  volume.isTerminal = true →
    volume.tombstone = some (.file (.dict (terminalPayload key))) ∧ volume.profile = .absent ∧
      ∀ name, volume.siblings.lookup name = none

section

variable (same : next.tombstone = volume.tombstone)

include same

theorem ProfileVolume.isTerminal_of_tombstone :
    next.isTerminal = volume.isTerminal := by
  rw [ProfileVolume.isTerminal, ProfileVolume.isTerminal, ProfileVolume.tombstonePayload,
    ProfileVolume.tombstonePayload, same]

theorem ProfileVolume.epoch_of_tombstone :
    next.epoch = volume.epoch := by
  rw [ProfileVolume.epoch, ProfileVolume.epoch, ProfileVolume.tombstonePayload,
    ProfileVolume.tombstonePayload, same]

theorem ProfileVolume.Final.of_same :
    volume.Final next where
  stays := by
    rw [same]
    exact id
  epoch := by
    intro epoch stored
    refine .inr ⟨epoch, ?_, Int.le_refl _⟩
    rw [ProfileVolume.epoch_of_tombstone same, stored]
  terminal := fun _ => same

end

theorem ProfileVolume.Final.refl (volume : ProfileVolume) : volume.Final volume :=
  .of_same rfl

theorem ProfileVolume.Final.trans {first second third : ProfileVolume}
    (earlier : first.Final second) (later : second.Final third) : first.Final third where
  stays := fun present => later.stays (earlier.stays present)
  epoch := by
    intro epoch stored
    rcases earlier.epoch epoch stored with terminal | ⟨middle, isMiddle, below⟩
    · exact .inl ((ProfileVolume.isTerminal_of_tombstone (later.terminal terminal)).trans terminal)
    · rcases later.epoch middle isMiddle with terminal | ⟨last, isLast, above⟩
      · exact .inl terminal
      · exact .inr ⟨last, isLast, Int.le_trans below above⟩
  terminal := by
    intro terminal
    have kept := earlier.terminal terminal
    rw [later.terminal ((ProfileVolume.isTerminal_of_tombstone kept).trans terminal), kept]

structure ProfileVolume.Admits (volume : ProfileVolume) (identity : CleanupIdentity) : Prop where
  older : ∀ epoch, volume.epoch = some epoch → epoch ≤ identity.lifecycleEpoch
  notTerminal : volume.isTerminal = false

theorem ProfileVolume.Admits.of_payload (found : volume.tombstonePayload = some payload)
    (notDeleted : payload.isDeleted = false)
    (older : ∃ epoch, payload.epoch = some epoch ∧ epoch ≤ identity.lifecycleEpoch) :
    volume.Admits identity where
  older := by
    intro epoch stored
    obtain ⟨_, isKnown, below⟩ := older
    rw [ProfileVolume.epoch, found, Option.bind_some, isKnown] at stored
    cases stored
    exact below
  notTerminal := by
    rw [ProfileVolume.isTerminal, found, Option.any_some, TombstonePayload.isTerminal, notDeleted]
    rfl

theorem ProfileVolume.Admits.of_none (absent : volume.tombstone = none) :
    volume.Admits identity where
  older := by
    intro epoch stored
    rw [ProfileVolume.epoch, ProfileVolume.tombstonePayload, absent] at stored
    cases stored
  notTerminal := by
    rw [ProfileVolume.isTerminal, ProfileVolume.tombstonePayload, absent]
    rfl

def ProfileVolume.Requested (identity : CleanupIdentity) (volume : ProfileVolume) : Prop :=
  ∃ payload : TombstonePayload, volume.tombstone = some (.file (.dict payload)) ∧
    payload.epoch = some identity.lifecycleEpoch ∧ payload.isDeleted = false

theorem ProfileVolume.Requested.contentFree (requested : volume.Requested identity) :
    volume.ContentFree key := by
  obtain ⟨_, found, _, notDeleted⟩ := requested
  intro terminal
  rw [ProfileVolume.isTerminal, ProfileVolume.tombstonePayload, found] at terminal
  rw [isDeleted_of_terminal terminal] at notDeleted
  cases notDeleted

theorem ProfileVolume.Admits.final_of_requested (admits : volume.Admits identity)
    (requested : next.Requested identity) : volume.Final next where
  stays := by
    obtain ⟨_, found, _⟩ := requested
    rw [found]
    exact fun _ => rfl
  epoch := by
    intro epoch stored
    obtain ⟨_, found, isEpoch, _⟩ := requested
    refine .inr ⟨identity.lifecycleEpoch, ?_, admits.older epoch stored⟩
    rw [ProfileVolume.epoch, ProfileVolume.tombstonePayload, found]
    exact isEpoch
  terminal := by
    intro terminal
    rw [admits.notTerminal] at terminal
    cases terminal

theorem ProfileVolume.requested_withTombstone (lib : StoreLibrary) (status : String)
    (others : TombstonePayload) (plain : others.all (fun member => member.1 != "deleted") = true) :
    (volume.withTombstone (identity.tombstone lib key status others)).Requested identity :=
  ⟨_, rfl, epoch_tombstone lib identity key status others,
    isDeleted_tombstone lib identity key status others plain⟩

theorem ProfileVolume.Admits.final_of_terminal (admits : volume.Admits identity)
    (found : next.tombstone = some (.file (.dict (terminalPayload key))))
    (isKey : isProfileKey key = true) : volume.Final next where
  stays := by
    rw [found]
    exact fun _ => rfl
  epoch := by
    intro epoch _
    refine .inl ?_
    rw [ProfileVolume.isTerminal, ProfileVolume.tombstonePayload, found]
    exact isTerminal_terminalPayload isKey
  terminal := by
    intro terminal
    rw [admits.notTerminal] at terminal
    cases terminal

/-! ## One call -/

/-- A deletion fence does not meet a tombstone that needs repair of a later epoch, unless the
profile that is there fences it. -/
def ProfileVolume.sparesFence (env : StoreEnv) (key : String) (identity : CleanupIdentity)
    (volume : ProfileVolume) : Bool :=
  (volume.profileFence env key identity).isSome ||
    (volume.tombstonePayload.bind tombstoneReceipt).all fun receipt =>
      receipt.status != .repairRequired || receipt.lifecycleEpoch ≤ identity.lifecycleEpoch

/-- A plain cleanup of a positive epoch does not meet the marker of a finished deletion. -/
def ProfileVolume.sparesCleanup (identity : CleanupIdentity) (volume : ProfileVolume) : Bool :=
  identity.deletion.isSome || !volume.isTerminal || identity.lifecycleEpoch ≤ 0

def ProfileVolume.spares (key : String) (volume : ProfileVolume) (operation : StoreOperation) :
    Bool :=
  match operation.call with
  | .fenceDeletion identity _ => volume.sparesFence operation.env key identity
  | .cleanup identity _ _ _ => volume.sparesCleanup identity
  | _ => true

theorem admits_of_fence (spares : volume.sparesFence env key identity = true)
    (passes : tombstoneVerdict env key identity (fenceVerdict env key identity) volume.tombstone =
      none) (unfenced : volume.profileFence env key identity = none) : volume.Admits identity := by
  cases found : volume.tombstone with
  | none => exact .of_none found
  | some =>
    rw [found, tombstoneVerdict] at passes
    split at passes
    · cases passes
    · next payload isPayload =>
      have stored : volume.tombstonePayload = some payload := by
        rw [ProfileVolume.tombstonePayload, found]
        exact isPayload
      obtain ⟨notDeleted, epoch, isEpoch, admitted⟩ := fenceVerdict_none passes
      refine .of_payload stored notDeleted ⟨epoch, isEpoch, ?_⟩
      rcases admitted with older | ⟨_, reads, repairs⟩
      · exact older
      · rw [ProfileVolume.sparesFence, stored, unfenced, Option.bind_some, reads] at spares
        simp only [Option.isSome_none, Bool.false_or, Option.all_some, repairs, bne_self_eq_false,
          decide_eq_true_eq] at spares
        rw [epoch_of_receipt reads notDeleted, Option.some.injEq] at isEpoch
        rw [← isEpoch]
        exact spares

theorem admits_of_cleanup (spares : volume.sparesCleanup identity = true)
    (named : identity.operationId ≠ "")
    (passes : tombstoneVerdict env key identity (cleanupVerdict env key identity) volume.tombstone =
      none) : volume.Admits identity := by
  cases found : volume.tombstone with
  | none => exact .of_none found
  | some =>
    rw [found, tombstoneVerdict] at passes
    split at passes
    · cases passes
    · next payload isPayload =>
      have stored : volume.tombstonePayload = some payload := by
        rw [ProfileVolume.tombstonePayload, found]
        exact isPayload
      rcases cleanupVerdict_none passes with ⟨notDeleted, older⟩ | ⟨terminal, isPlain, newer⟩
      · exact .of_payload stored notDeleted older
      · have isTerminal : volume.isTerminal = true := by
          rw [ProfileVolume.isTerminal, stored]
          exact terminal
        rw [ProfileVolume.sparesCleanup, isPlain, isTerminal] at spares
        have positive := newer named
        simp only [Option.isSome_none, Bool.not_true, Bool.or_self, Bool.false_or,
          decide_eq_true_eq] at spares
        omega

/-! ## Scripts of the tombstone -/

def ProfileVolume.Reaches (key : String) (before after : ProfileVolume) : Prop :=
  before.Final after ∧ after.ContentFree key

section

variable {Invariant : ProfileVolume → Prop} {Done : Unit → ProfileVolume → Prop}

variable {verdict : Option CleanupReceipt}

theorem wp_verdict {Refused : CleanupReceipt → ProfileVolume → Prop}
    (passes : verdict = none → Done () volume)
    (answers : ∀ receipt, verdict = some receipt → Refused receipt volume) :
    wp Invariant Done Refused (answerEarly verdict) volume := by
  cases verdict with
  | none => exact wp_answer (passes rfl)
  | some receipt => exact wp_refuse (answers receipt rfl)

theorem wp_answerEarly (passes : verdict = none → Done () volume) :
    wp Invariant Done (fun _ _ => True) (answerEarly verdict) volume :=
  wp_verdict passes fun _ _ => trivial

theorem wp_writeTombstone (keeps : Invariant (volume.withTombstone payload))
    (holds : Done () (volume.withTombstone payload)) :
    wp Invariant Done (fun _ _ => True) (writeTombstone env key identity payload) volume := by
  rw [writeTombstone]
  split
  · exact wp_write keeps holds
  · exact wp_refuse trivial

end

theorem ProfileVolume.Admits.reaches (admits : volume.Admits identity)
    (requested : next.Requested identity) : volume.Reaches key next :=
  ⟨admits.final_of_requested requested, requested.contentFree⟩

theorem fenceDeletion_reaches (expiry : Int) (spares : volume.sparesFence env key identity = true) :
    wp (volume.Reaches key) (fun _ _ => True) (fun _ _ => True)
      (fenceDeletion env key identity expiry) volume := by
  unfold fenceDeletion
  refine wp_bind (wp_read (wp_bind (wp_answerEarly fun passes => wp_bind (wp_answerEarly
    fun unfenced => ?_))))
  have admits := admits_of_fence spares passes unfenced
  split
  · refine wp_bind (wp_writeTombstone ?_ (wp_pure trivial))
    exact admits.reaches (ProfileVolume.requested_withTombstone env.lib _ _ (by simp))
  · refine wp_bind (wp_writeTombstone ?_ (wp_pure trivial))
    exact admits.reaches (ProfileVolume.requested_withTombstone env.lib _ _ (by simp))

/-! ## Removal -/

def ProfileVolume.Held (tombstone : Option TombstoneFile) (volume : ProfileVolume) : Prop :=
  volume.tombstone = tombstone

def ProfileVolume.Emptied (tombstone : Option TombstoneFile) (volume : ProfileVolume) : Prop :=
  volume.Held tombstone ∧ volume.profile = .absent ∧ ∀ name, volume.siblings.lookup name = none

variable {tombstone : Option TombstoneFile}

variable {change : ProfileVolume → ProfileVolume}

theorem wp_removing {Done : Unit → ProfileVolume → Prop}
    (held : volume.Held tombstone) (keeps : (change volume).Held tombstone)
    (holds : Done () (change volume)) :
    wp (ProfileVolume.Held tombstone) Done (fun _ => ProfileVolume.Held tombstone)
      (removing env change) volume := by
  rw [removing]
  split
  · exact wp_write keeps holds
  · exact wp_refuse held

theorem removeSiblings_empties (entries : List (List Char × Sibling)) (held : volume.Held tombstone)
    (absent : volume.profile = .absent)
    (within : ∀ name, volume.siblings.lookup name ≠ none → name ∈ entries.map Prod.fst) :
    wp (ProfileVolume.Held tombstone) (fun _ => ProfileVolume.Emptied tombstone)
      (fun _ => ProfileVolume.Held tombstone) (removeSiblings env entries) volume := by
  induction entries generalizing volume with
  | nil =>
    refine wp_answer ⟨held, absent, ?_⟩
    intro name
    by_contra present
    exact absurd (within name present) List.not_mem_nil
  | cons entry rest ih =>
    obtain ⟨name, sibling⟩ := entry
    have dropped : ∀ siblings : Table (List Char) Sibling,
        (∀ other, other ≠ name → siblings.lookup other = volume.siblings.lookup other) →
        ∀ other, (siblings.erase name).lookup other ≠ none → other ∈ rest.map Prod.fst := by
      intro siblings same other present
      have different : other ≠ name := by
        rintro rfl
        exact present (AList.lookup_erase ..)
      rw [AList.lookup_erase_ne different, same other different] at present
      rcases List.mem_cons.mp (within other present) with isName | later
      · exact absurd isName different
      · exact later
    cases sibling with
    | symlink => exact wp_refuse held
    | special => exact wp_refuse held
    | file =>
      exact wp_bind (wp_removing held held (ih held absent
        (dropped volume.siblings fun _ _ => rfl)))
    | directory =>
      refine wp_bind (wp_removing held held (wp_bind (wp_removing held held (ih held absent
        (dropped _ ?_)))))
      intro other different
      exact (Table.lookup_insert_eq ..).trans (if_neg different)

section

variable (isBounded spoolsGone : Bool) (held : volume.Held tombstone)

include held

theorem removeProfile_empties :
    wp (ProfileVolume.Held tombstone)
      (fun _ next => next.Held tombstone ∧ next.profile = .absent ∧
        next.siblings = volume.siblings)
      (fun _ => ProfileVolume.Held tombstone)
      (removeProfile env isBounded spoolsGone volume.profile) volume := by
  cases entry : volume.profile with
  | symlink => exact wp_refuse held
  | notDirectory => exact wp_refuse held
  | absent => exact wp_unlessRefuse (fun _ => ⟨held, entry, rfl⟩) fun _ => held
  | directory =>
    exact wp_bind (wp_unlessRefuse (fun _ => wp_bind (wp_unlessRefuse
      (fun _ => wp_bind (wp_removing held held (wp_removing held held ⟨held, rfl, rfl⟩)))
      fun _ => held)) fun _ => held)

theorem removeContent_empties :
    wp (ProfileVolume.Held tombstone) (fun _ => ProfileVolume.Emptied tombstone)
      (fun _ => ProfileVolume.Held tombstone) (removeContent env isBounded spoolsGone) volume := by
  unfold removeContent
  refine wp_bind (wp_read (wp_bind (wp_mono (removeProfile_empties isBounded spoolsGone held)
    (fun _ kept => kept) ?_ fun _ _ kept => kept)))
  rintro _ _ ⟨kept, absent, siblings⟩
  refine wp_bind (wp_unlessRefuse (fun _ => ?_) fun _ => kept)
  refine removeSiblings_empties _ kept absent ?_
  intro name present
  rw [siblings] at present
  obtain ⟨sibling, found⟩ := Option.ne_none_iff_exists'.mp present
  exact List.mem_map.mpr ⟨(name, sibling), (Table.mem_rows _ _ _).mpr found, rfl⟩

end

theorem cleanup_reaches (expiry : Int) (isBounded spoolsGone : Bool)
    (isKey : isProfileKey key = true) (named : identity.operationId ≠ "")
    (spares : volume.sparesCleanup identity = true) :
    wp (volume.Reaches key) (fun _ _ => True) (fun _ _ => True)
      (cleanup env key identity expiry isBounded spoolsGone) volume := by
  unfold cleanup
  refine wp_bind (wp_read (wp_bind (wp_answerEarly fun passes => wp_bind (wp_answerEarly
    fun _ => ?_))))
  have admits := admits_of_cleanup spares named passes
  split
  · refine wp_bind (wp_writeTombstone ?_ (wp_pure trivial))
    exact admits.reaches (ProfileVolume.requested_withTombstone env.lib _ _ (by simp))
  · have pending : (volume.withTombstone (identity.pending env.lib key expiry)).Requested
        identity := ProfileVolume.requested_withTombstone env.lib _ _ (by simp)
    refine wp_bind (wp_writeTombstone (admits.reaches pending) ?_)
    have whileHeld : ∀ state : ProfileVolume,
        state.Held (volume.withTombstone (identity.pending env.lib key expiry)).tombstone →
        volume.Reaches key state := by
      intro state held
      obtain ⟨payload, found, epoch, notDeleted⟩ := pending
      exact admits.reaches ⟨payload, held.trans found, epoch, notDeleted⟩
    refine wp_bind (wp_capture (wp_mono (removeContent_empties isBounded spoolsGone rfl) whileHeld
      ?_ ?_))
    · rintro _ _ ⟨_, absent, siblings⟩
      refine wp_bind (wp_writeTombstone ?_ (wp_pure trivial))
      unfold CleanupIdentity.complete
      split
      · exact ⟨admits.final_of_terminal rfl isKey, fun _ => ⟨rfl, absent, siblings⟩⟩
      · exact admits.reaches (ProfileVolume.requested_withTombstone env.lib _ _ (by simp))
    · intro code state held
      change wp _ _ _ (recordRepair env key identity code expiry >>= fun _ => _) state
      refine wp_bind ?_
      rw [recordRepair]
      split
      · refine wp_write ?_ (wp_pure trivial)
        exact admits.reaches (ProfileVolume.requested_withTombstone env.lib _ _ (by simp))
      · exact wp_answer (wp_pure trivial)

/-! ## Materialization -/

theorem materialize_fenced (seed : ProfileSeed) {file : TombstoneFile}
    (present : volume.tombstone = some file) :
    materialize env seed volume = ([], .error (fenceReceipt env seed file.payload?)) := by
  unfold materialize
  rw [read_bind, present]
  rfl

theorem fenceReceipt_status (seed : ProfileSeed) (found : Option TombstonePayload) :
    (fenceReceipt env seed found).status = .repairRequired ∨
      (fenceReceipt env seed found).status = .fenced := by
  unfold fenceReceipt
  split
  · exact .inl rfl
  · split
    · split
      · split
        · exact .inl rfl
        · exact .inr rfl
      · exact .inl rfl
    · split
      · split
        · exact .inr rfl
        · exact .inl rfl
      · exact .inl rfl

section Preserving

variable (seed : ProfileSeed) (place : StoreWrite) (code : String)

theorem attempt_holds
    (keeps : ∀ state : ProfileVolume, (change state).tombstone = state.tombstone) :
    Preserves (ProfileVolume.Held tombstone) (attempt env seed place code change) := by
  unfold attempt
  split
  · exact preserves_write fun state held => (keeps state).trans held
  · exact preserves_refuse _

theorem buildWrite_holds (profile : ProfileDir) :
    Preserves (ProfileVolume.Held tombstone) (buildWrite env seed profile) :=
  attempt_holds seed .build _ fun _ => rfl

theorem buildDirectories_holds (names : List String) (profile : ProfileDir) :
    Preserves (ProfileVolume.Held tombstone) (buildDirectories env seed profile names) := by
  induction names generalizing profile with
  | nil => exact preserves_answer _
  | cons _ _ ih => exact preserves_bind (buildWrite_holds seed _) fun _ => ih _

theorem buildProfile_holds :
    Preserves (ProfileVolume.Held tombstone) (buildProfile env seed) := by
  unfold buildProfile
  refine preserves_bind (buildWrite_holds seed _) fun _ =>
    preserves_bind (buildDirectories_holds seed _ _) fun laidOut => ?_
  split
  · exact preserves_refuse _
  · refine preserves_bind (preserves_unlessRefuse _ _) fun _ => ?_
    split
    · exact preserves_refuse _
    · exact preserves_bind (buildWrite_holds seed _) fun _ =>
        preserves_bind (buildWrite_holds seed _) fun _ =>
          preserves_bind (buildWrite_holds seed _) fun _ => buildWrite_holds seed _

theorem removeSibling_holds (name : List Char) (sibling : Sibling) :
    Preserves (ProfileVolume.Held tombstone) (removeSibling env seed name code sibling) := by
  cases sibling with
  | symlink | special => exact preserves_refuse _
  | file => exact attempt_holds seed .removal code fun _ => rfl
  | directory =>
    exact preserves_bind (attempt_holds seed .removal code fun _ => rfl) fun _ =>
      attempt_holds seed .removal code fun _ => rfl

theorem clearSiblings_holds (entries : List (List Char × Sibling)) :
    Preserves (ProfileVolume.Held tombstone) (clearSiblings env seed entries) := by
  induction entries with
  | nil => exact preserves_answer _
  | cons entry _ ih =>
    obtain ⟨name, _⟩ := entry
    unfold clearSiblings
    split
    · split
      · exact preserves_refuse _
      · exact preserves_bind (removeSibling_holds seed _ name _) fun _ => ih
    · exact preserves_refuse _

theorem createProfile_holds :
    Preserves (ProfileVolume.Held tombstone) (createProfile env seed) := by
  unfold createProfile
  refine preserves_bind preserves_read fun volume =>
    preserves_bind (preserves_unlessRefuse _ _) fun _ =>
      preserves_bind (clearSiblings_holds seed _) fun _ =>
        preserves_bind (buildProfile_holds seed) fun _ =>
          preserves_bind ?_ fun _ => preserves_pure _
  unfold publishProfile
  refine preserves_bind preserves_read fun volume => ?_
  split
  · exact attempt_holds seed .publish _ fun _ => rfl
  · exact preserves_refuse _
  · exact preserves_refuse _

theorem materialize_holds :
    Preserves (ProfileVolume.Held tombstone) (materialize env seed) := by
  unfold materialize
  refine fun start held => wp_bind (wp_read ?_)
  split
  · exact wp_refuse held
  · split
    · exact wp_refuse held
    · exact wp_refuse held
    · next profile entry =>
      have same : start = { start with profile := .directory profile } := by
        rw [← entry]
      rw [same]
      exact wp_within ⟨fun _ _ => held, by split <;> exact held⟩
    · exact createProfile_holds seed start held

end Preserving

/-! ## One call of a run -/

theorem ProfileVolume.ContentFree.of_tombstone (absent : volume.tombstone = none) :
    volume.ContentFree key := by
  intro terminal
  rw [ProfileVolume.isTerminal, ProfileVolume.tombstonePayload, absent] at terminal
  cases terminal

theorem materialize_reaches (seed : ProfileSeed) (cut : Option Nat)
    (free : volume.ContentFree key) :
    volume.Reaches key (volume.leave (materialize env seed) cut) := by
  cases present : volume.tombstone with
  | none =>
    have held : (volume.leave (materialize env seed) cut).tombstone = none :=
      leave_of_wp cut present (materialize_holds seed volume present)
    exact ⟨.of_same (held.trans present.symm), .of_tombstone held⟩
  | some file =>
    have same : volume.leave (materialize env seed) cut = volume := by
      have nothing := @materialize_fenced env volume seed file present
      cases cut with
      | none => rw [ProfileVolume.leave, reached, nothing]; rfl
      | some => rw [ProfileVolume.leave, nothing, List.take_nil]; rfl
    rw [same]
    exact ⟨.refl volume, free⟩

theorem applyBinding_reaches (resolver : String → Option (List Char)) (call : BindingCall)
    (writes : BindingWrites) (free : volume.ContentFree key) :
    volume.Reaches key (volume.applyBinding resolver call writes) := by
  unfold ProfileVolume.applyBinding
  split
  · next entry =>
    split
    · refine ⟨.of_same rfl, ?_⟩
      intro terminal
      have isTerminal : volume.isTerminal = true := terminal
      rw [(free isTerminal).2.1] at entry
      cases entry
    · exact ⟨.refl volume, free⟩
  · exact ⟨.refl volume, free⟩

theorem ProfileVolume.apply_reaches (operation : StoreOperation) (reply : Unit)
    (free : volume.ContentFree key) (spares : volume.spares key operation = true)
    (success : ProfileVolume.apply key operation volume = .ok (reply, next)) :
    volume.Reaches key next := by
  unfold ProfileVolume.apply at success
  simp only at success
  split at success
  · cases success
  · next keyed =>
    have isKey : isProfileKey key = true := by simpa using keyed
    rw [ProfileVolume.spares] at spares
    split at success
    · split at success
      · cases success
        exact materialize_reaches _ _ free
      · cases success
    · next expiry called =>
      rw [called] at spares
      split at success
      · cases success
      · cases success
        exact leave_of_wp _ ⟨.refl volume, free⟩ (fenceDeletion_reaches expiry spares)
    · next identity expiry isBounded spoolsGone called =>
      rw [called] at spares
      split at success
      · cases success
      · next accepted =>
        cases success
        have named : identity.operationId ≠ "" := by
          rintro empty
          simp [CleanupIdentity.isAccepted, isSafeOperationId, empty] at accepted
        exact leave_of_wp _ ⟨.refl volume, free⟩
          (cleanup_reaches expiry isBounded spoolsGone isKey named spares)
    · split at success
      · cases success
      · cases success
        exact applyBinding_reaches _ _ _ free

/-! ## Every run -/

/-- Once there is a tombstone, no materialization writes anything or finds the profile ready. -/
def ProfileVolume.Fences (volume : ProfileVolume) : Prop :=
  volume.tombstone.isSome = true → ∀ env seed, ∃ receipt,
    materialize env seed volume = ([], .error receipt) ∧
      (receipt.status = .repairRequired ∨ receipt.status = .fenced)

theorem ProfileVolume.fences (volume : ProfileVolume) : volume.Fences := by
  intro present env seed
  obtain ⟨_, isFile⟩ := Option.isSome_iff_exists.mp present
  exact ⟨_, materialize_fenced seed isFile, fenceReceipt_status seed _⟩

theorem tombstone_finality (key : String) (start : ProfileVolume)
    (operations later : List StoreOperation) (untouched : start.tombstone = none)
    (spared : Run.Meets (ProfileVolume.apply key)
      (fun volume operation => volume.spares key operation = true) start (operations ++ later)) :
    (Run.run (ProfileVolume.apply key) start operations).Fences ∧
      (Run.run (ProfileVolume.apply key) start operations).ContentFree key ∧
      (Run.run (ProfileVolume.apply key) start operations).Final
        (Run.run (ProfileVolume.apply key) start (operations ++ later)) := by
  have pass : ∀ volume operation reply next, ProfileVolume.spares key volume operation = true →
      volume.ContentFree key → ProfileVolume.apply key operation volume = .ok (reply, next) →
      next.ContentFree key ∧ volume.Final next := by
    intro volume operation reply next spares free success
    obtain ⟨final, kept⟩ := volume.apply_reaches operation reply free spares success
    exact ⟨kept, final⟩
  have first := Run.relates_where _ (ProfileVolume.ContentFree key) ProfileVolume.Final
    ProfileVolume.Final.refl ProfileVolume.Final.trans pass start operations
    (.of_tombstone untouched) spared.append_left
  have second := Run.relates_where _ (ProfileVolume.ContentFree key) ProfileVolume.Final
    ProfileVolume.Final.refl ProfileVolume.Final.trans pass _ later first.1 spared.append_right
  rw [Run.run_append]
  exact ⟨ProfileVolume.fences _, first.1, second.2⟩

def emptyVolume : ProfileVolume := ⟨.absent, ∅, none⟩

def deletionRequest (epoch : Int) : CleanupIdentity :=
  ⟨"op-delete", epoch, some ("00000000-0000-4000-8000-000000000001",
    "0000000000000000000000000000000000000000000000000000000000000000")⟩

def wholeDeletion : List StoreOperation :=
  [⟨.plain, .fenceDeletion (deletionRequest 3) 200, none⟩,
    ⟨.plain, .cleanup (deletionRequest 3) 200 true true, none⟩]

def lateCleanup : StoreOperation :=
  ⟨.plain, .cleanup ⟨"op-cleanup", 1, none⟩ 200 true true, none⟩

theorem deletion_is_final :
    (Run.run (ProfileVolume.apply "ally-v1-1") emptyVolume wholeDeletion).Fences ∧
      (Run.run (ProfileVolume.apply "ally-v1-1") emptyVolume wholeDeletion).ContentFree
        "ally-v1-1" ∧
      (Run.run (ProfileVolume.apply "ally-v1-1") emptyVolume wholeDeletion).Final
        (Run.run (ProfileVolume.apply "ally-v1-1") emptyVolume
          (wholeDeletion ++ [⟨.plain, .cleanup (deletionRequest 3) 200 true true, none⟩])) :=
  tombstone_finality "ally-v1-1" emptyVolume wholeDeletion _ rfl (by decide +kernel)

theorem cleanup_replaces_deletion_marker :
    ¬ ∀ (key : String) (start : ProfileVolume) (operations later : List StoreOperation),
      start.tombstone = none →
      (Run.run (ProfileVolume.apply key) start operations).Fences ∧
        (Run.run (ProfileVolume.apply key) start operations).ContentFree key ∧
        (Run.run (ProfileVolume.apply key) start operations).Final
          (Run.run (ProfileVolume.apply key) start (operations ++ later)) := by
  intro always
  have final := (always "ally-v1-1" emptyVolume wholeDeletion [lateCleanup] rfl).2.2
  have terminal : (Run.run (ProfileVolume.apply "ally-v1-1") emptyVolume
      wholeDeletion).isTerminal = true := by decide +kernel
  have replaced : (Run.run (ProfileVolume.apply "ally-v1-1") emptyVolume
      (wholeDeletion ++ [lateCleanup])).isTerminal = false := by decide +kernel
  have kept := ProfileVolume.isTerminal_of_tombstone (final.terminal terminal)
  rw [terminal, replaced] at kept
  cases kept

end Foundry
