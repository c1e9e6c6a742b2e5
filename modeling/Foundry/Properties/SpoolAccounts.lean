import Foundry.Lib.Totals
import Foundry.Properties.Snapshots

/-!
# The accounts of the publication spool

The ledger is charged with what a call prepares, the journal lists what it copied later, and the
reconciliation charges what it finds.  The accounts hold in every run in which the three agree.
-/

set_option autoImplicit false

namespace Foundry

namespace Spool

/-! ## The property -/

/-- The quotas of one publication, of a profile and of the volume. -/
structure Ledger.Within (ledger : Ledger) : Prop where
  publication : ∀ publicationId record, ledger.lookup publicationId = some record →
    record.size ≤ maxPublicationBytes
  manifests : ∀ profile, (ledger.ofProfile profile).length ≤ maxPublicationManifests
  incomplete : ∀ profile, copying (ledger.ofProfile profile) ≤ maxPublicationIncomplete
  profileBytes : ∀ profile, sizes (ledger.ofProfile profile) ≤ maxProfilePublicationBytes
  volumeBytes : sizes ledger.rows ≤ maxVolumePublicationBytes

structure SpoolVolume.Accounted (volume : SpoolVolume) : Prop where
  within : volume.ledger.Within
  publications : ∀ key journal, volume.journals.lookup key = some journal →
    bytes journal.files ≤ maxPublicationBytes
  /-- Whatever its state, a record has the size of its manifest. -/
  charged : ∀ publicationId record journal, volume.ledger.lookup publicationId = some record →
    volume.journals.lookup (record.profile, publicationId) = some journal →
    record.size = bytes journal.files

/-! ## The condition -/

/-- The reconciliation leaves the profile and the size of the record as they are. -/
def Ledger.isCharged (ledger : Ledger) (found : SpoolKey × Nat) : Bool :=
  (ledger.lookup found.1.2).any fun current =>
    current.state = .releasing || current.profile = found.1.1 && current.size = found.2

def Ledger.uncharged (ledger : Ledger) (found : List (SpoolKey × Nat)) : List (SpoolKey × Nat) :=
  found.filter fun entry => !ledger.isCharged entry

/-- The uncharged publications fit into what the quotas leave. -/
def Ledger.hasRoom (ledger : Ledger) (found : List (SpoolKey × Nat)) : Bool :=
  let uncharged := ledger.uncharged found
  let ofProfile (profile : String) := uncharged.filter fun entry => entry.1.1 = profile
  sizes ledger.rows + (uncharged.map Prod.snd).sum ≤ maxVolumePublicationBytes &&
    uncharged.all fun entry =>
      (ledger.ofProfile entry.1.1).length + (ofProfile entry.1.1).length
          ≤ maxPublicationManifests &&
        sizes (ledger.ofProfile entry.1.1) + ((ofProfile entry.1.1).map Prod.snd).sum
          ≤ maxProfilePublicationBytes

/-- A publication was found once, and its journal is as it was found, or gone. -/
def SpoolVolume.isFresh (volume : SpoolVolume) (found : List (SpoolKey × Nat)) : Bool :=
  (found.map fun entry => entry.1.2).Nodup &&
    found.all fun entry => entry.2 ≤ maxPublicationBytes &&
      (volume.journals.lookup entry.1).all fun journal => entry.2 = bytes journal.files

def SpoolVolume.chargesCopied (volume : SpoolVolume) (program : SpoolProgram SpoolAnswer) : Bool :=
  match program.head? with
  | some (.reserve key size _ _) =>
    (volume.ledger.lookup key.2).isSome ||
      (volume.journals.lookup key).all fun journal => size = bytes journal.files
  | some (.writeJournal key journal) =>
    bytes journal.files ≤ maxPublicationBytes &&
      (volume.ledger.lookup key.2).all fun record =>
        record.profile ≠ key.1 || record.size = bytes journal.files
  | some (.charge found _) => volume.isFresh found && volume.ledger.hasRoom found
  | _ => true

def SpoolPool.chargesCopied (pool : SpoolPool) : SpoolEvent → Bool
  | .step name _ => (pool.programs.lookup name).all pool.state.chargesCopied
  | _ => true

/-! ## Totals of the ledger -/

variable {publicationId : Uuid} {found : List (SpoolKey × Nat)} {now : Nat}

section Totals

variable {ledger before after : Ledger}

/-- A weight that a record does not exceed when it leaves the copying state. -/
def Settles (weight : LedgerRecord → Nat) : Prop :=
  ∀ record state now, state ≠ .copying →
    weight { record with state := state, updatedAt := now } ≤ weight record

def isOf (profile : String) (record : LedgerRecord) : Nat := if record.profile = profile then 1 else 0

def sizeOf (profile : String) (record : LedgerRecord) : Nat :=
  if record.profile = profile then record.size else 0

def copyingOf (profile : String) (record : LedgerRecord) : Nat :=
  if record.profile = profile ∧ record.state = .copying then 1 else 0

section

variable (profile : String) (ledger : Ledger)

theorem length_ofProfile :
    (ledger.ofProfile profile).length = ledger.total (isOf profile) := by
  rw [Ledger.ofProfile, Table.length_filter_rows]
  simp only [decide_eq_true_eq]
  rfl

theorem sizes_ofProfile :
    sizes (ledger.ofProfile profile) = ledger.total (sizeOf profile) := by
  rw [Ledger.ofProfile, sizes, Table.sum_filter_rows fun row : Uuid × LedgerRecord => row.2.size]
  simp only [decide_eq_true_eq]
  rfl

theorem copying_ofProfile :
    copying (ledger.ofProfile profile) = ledger.total (copyingOf profile) := by
  rw [Ledger.ofProfile, copying, List.filter_filter, Table.length_filter_rows]
  simp only [Bool.and_eq_true, decide_eq_true_eq, and_comm]
  rfl

end

theorem sizes_rows (ledger : Ledger) :
    sizes ledger.rows = ledger.total LedgerRecord.size := rfl

theorem settles_isOf (profile : String) : Settles (isOf profile) :=
  fun _ _ _ _ => Nat.le_refl _

theorem settles_sizeOf (profile : String) : Settles (sizeOf profile) :=
  fun _ _ _ _ => Nat.le_refl _

theorem settles_size : Settles LedgerRecord.size := fun _ _ _ _ => Nat.le_refl _

theorem settles_copyingOf (profile : String) : Settles (copyingOf profile) := by
  intro record state now settled
  have none : copyingOf profile { record with state := state, updatedAt := now } = 0 :=
    if_neg fun both => settled both.2
  rw [none]
  exact Nat.zero_le _

/-- Every record was there with its profile and size, and the totals have not grown. -/
structure Ledger.Lighter (before after : Ledger) : Prop where
  records : ∀ publicationId record, after.lookup publicationId = some record →
    ∃ old, before.lookup publicationId = some old ∧ old.profile = record.profile ∧
      old.size = record.size
  totals : ∀ weight, Settles weight → after.total weight ≤ before.total weight

theorem lighter_keep (stays : Uuid → LedgerRecord → Bool) (ledger : Ledger) :
    ledger.Lighter (ledger.keep stays) where
  records := fun _ record stored =>
    ⟨record, ((Table.lookup_keep_eq_some ..).mp stored).1, rfl, rfl⟩
  totals := fun weight _ => Table.total_keep_le weight stays ledger

theorem lighter_erase (publicationId : Uuid) (ledger : Ledger) :
    ledger.Lighter (ledger.erase publicationId) where
  records := by
    intro other record stored
    exact ⟨record, Table.lookup_of_erase stored, rfl, rfl⟩
  totals := fun weight _ => Table.total_erase_le weight publicationId ledger

variable {record : LedgerRecord}

theorem lighter_settle {state : LedgerState} (found : ledger.lookup publicationId = some record) (settled : state ≠ .copying) :
    ledger.Lighter
      (ledger.insert publicationId { record with state := state, updatedAt := now }) where
  records := by
    intro other stored isStored
    obtain ⟨same, rfl⟩ | ⟨_, isStored⟩ := Table.cases_insert isStored
    · exact ⟨record, same ▸ found, rfl, rfl⟩
    · exact ⟨stored, isStored, rfl, rfl⟩
  totals := fun weight settles =>
    Table.total_insert_le found (settles record state now settled)

theorem Lighter.within (lighter : before.Lighter after) (within : before.Within) :
    after.Within where
  publication := by
    intro publicationId record stored
    obtain ⟨old, found, _, size⟩ := lighter.records publicationId record stored
    rw [← size]
    exact within.publication publicationId old found
  manifests := by
    intro profile
    have bound := within.manifests profile
    rw [length_ofProfile] at bound ⊢
    exact (lighter.totals _ (settles_isOf profile)).trans bound
  incomplete := by
    intro profile
    have bound := within.incomplete profile
    rw [copying_ofProfile] at bound ⊢
    exact (lighter.totals _ (settles_copyingOf profile)).trans bound
  profileBytes := by
    intro profile
    have bound := within.profileBytes profile
    rw [sizes_ofProfile] at bound ⊢
    exact (lighter.totals _ (settles_sizeOf profile)).trans bound
  volumeBytes := (lighter.totals _ settles_size).trans within.volumeBytes

/-! ## Reservations -/

section

variable {profile : String} {publicationId : Uuid} {size now free : Nat} {written : Ledger}
  {value : Unit}

theorem reserve_spec
    (given : ledger.reserve profile publicationId size now free = .ok (some written, value)) :
    ledger.lookup publicationId = none ∧
      (ledger.ofProfile profile).length < maxPublicationManifests ∧
      copying (ledger.ofProfile profile) < maxPublicationIncomplete ∧
      sizes (ledger.ofProfile profile) + size ≤ maxProfilePublicationBytes ∧
      sizes ledger.rows + size ≤ maxVolumePublicationBytes ∧
      written = ledger.insert publicationId ⟨profile, size, .copying, now⟩ := by
  unfold Ledger.reserve at given
  split at given
  · split at given <;> cases given
  · next absent =>
    split at given
    · cases given
    · next manifests =>
      split at given
      · cases given
      · next incomplete =>
        split at given
        · cases given
        · next ofProfile =>
          split at given
          · cases given
          · next ofVolume =>
            split at given
            · cases given
            · cases given
              exact ⟨absent, Nat.lt_of_not_le manifests, Nat.lt_of_not_le incomplete,
                Nat.le_of_not_lt ofProfile, Nat.le_of_not_lt ofVolume, rfl⟩

theorem within_reserve (within : ledger.Within) (bounded : size ≤ maxPublicationBytes)
    (given : ledger.reserve profile publicationId size now free = .ok (some written, value)) :
    written.Within := by
  obtain ⟨absent, manifests, incomplete, profileBytes, volumeBytes, rfl⟩ := reserve_spec given
  refine ⟨?_, ?_, ?_, ?_, ?_⟩
  · intro other record stored
    obtain ⟨_, rfl⟩ | ⟨_, stored⟩ := Table.cases_insert stored
    · exact bounded
    · exact within.publication other record stored
  · intro other
    have before := within.manifests other
    rw [length_ofProfile] at before manifests ⊢
    rw [Table.total_insert_of_none absent]
    by_cases same : profile = other
    · rw [← same, isOf, if_pos rfl]
      exact manifests
    · rw [isOf, if_neg same]
      exact before
  · intro other
    have before := within.incomplete other
    rw [copying_ofProfile] at before incomplete ⊢
    rw [Table.total_insert_of_none absent]
    by_cases same : profile = other
    · rw [← same, copyingOf, if_pos ⟨rfl, rfl⟩]
      exact incomplete
    · rw [copyingOf, if_neg fun both => same both.1]
      exact before
  · intro other
    have before := within.profileBytes other
    rw [sizes_ofProfile] at before profileBytes ⊢
    rw [Table.total_insert_of_none absent]
    by_cases same : profile = other
    · rw [← same, sizeOf, if_pos rfl]
      exact profileBytes
    · rw [sizeOf, if_neg same]
      exact before
  · rw [sizes_rows, Table.total_insert_of_none absent]
    exact volumeBytes

end

/-! ## Charges -/

def chargedRecord (now : Nat) (found : SpoolKey × Nat) : LedgerRecord :=
  ⟨found.1.1, found.2, .frozen, now⟩

section

variable (now : Nat) (found : SpoolKey × Nat)

theorem chargeOne_others {other : Uuid}
    (different : other ≠ found.1.2) :
    (ledger.chargeOne now found).lookup other = ledger.lookup other := by
  unfold Ledger.chargeOne
  simp only
  split
  · exact AList.lookup_insert_ne different
  · split_ifs
    · rfl
    · exact AList.lookup_insert_ne different
    · rfl

theorem chargeOne_own
    (stored : (ledger.chargeOne now found).lookup found.1.2 = some record) :
    ledger.lookup found.1.2 = some record ∨ record = chargedRecord now found := by
  unfold Ledger.chargeOne at stored
  simp only at stored
  split at stored
  · rw [AList.lookup_insert, Option.some.injEq] at stored
    exact .inr stored.symm
  · split_ifs at stored
    · exact .inl stored
    · rw [AList.lookup_insert, Option.some.injEq] at stored
      exact .inr stored.symm
    · exact .inl stored

end

variable {weight : LedgerRecord → Nat}

theorem total_chargeOne_charged (settles : Settles weight)
    (now : Nat) {found : SpoolKey × Nat} (charged : ledger.isCharged found = true) :
    Table.total weight (ledger.chargeOne now found) ≤ ledger.total weight := by
  obtain ⟨current, stored, isCharged⟩ := (Option.any_eq_true ..).mp charged
  simp only [Bool.or_eq_true, Bool.and_eq_true, decide_eq_true_eq] at isCharged
  unfold Ledger.chargeOne
  simp only [stored]
  split
  · exact Nat.le_refl _
  · next notReleasing =>
    obtain ⟨profile, size⟩ := isCharged.resolve_left notReleasing
    split
    · refine Table.total_insert_le stored ?_
      have lighter := settles current .frozen now (by rintro ⟨⟩)
      rw [profile, size] at lighter
      exact lighter
    · exact Nat.le_refl _

theorem total_chargeOne (weight : LedgerRecord → Nat) (now : Nat) (found : SpoolKey × Nat) :
    Table.total weight (ledger.chargeOne now found) ≤
      ledger.total weight + weight (chargedRecord now found) := by
  unfold Ledger.chargeOne
  simp only
  split
  · next absent => exact (Table.total_insert_of_none absent).le
  · next current stored =>
    split
    · exact Nat.le_add_right _ _
    · split
      · have replaced : Table.total weight (ledger.insert found.1.2 (chargedRecord now found)) +
            weight current = ledger.total weight + weight (chargedRecord now found) :=
          Table.total_insert_of_some stored
        exact (Nat.le_add_right _ _).trans replaced.le
      · exact Nat.le_add_right _ _

theorem isCharged_chargeOne (now : Nat) (found other : SpoolKey × Nat)
    (different : other.1.2 ≠ found.1.2) :
    (ledger.chargeOne now found).isCharged other = ledger.isCharged other := by
  rw [Ledger.isCharged, Ledger.isCharged, chargeOne_others now found different]

theorem total_chargeAll (settles : Settles weight) (now : Nat)
    (found : List (SpoolKey × Nat)) (ledger : Ledger)
    (once : (found.map fun entry => entry.1.2).Nodup) :
    Table.total weight (ledger.chargeAll found now) ≤ ledger.total weight +
      ((ledger.uncharged found).map fun entry => weight (chargedRecord now entry)).sum := by
  induction found generalizing ledger with
  | nil => exact Nat.le_add_right _ _
  | cons entry rest ih =>
    rw [List.map_cons, List.nodup_cons] at once
    have later := ih (ledger.chargeOne now entry) once.2
    have same : (ledger.chargeOne now entry).uncharged rest = ledger.uncharged rest := by
      refine List.filter_congr fun other member => ?_
      rw [isCharged_chargeOne now entry other]
      intro equal
      exact once.1 (List.mem_map.mpr ⟨other, member, equal⟩)
    rw [same] at later
    change Table.total weight ((ledger.chargeOne now entry).chargeAll rest now) ≤ _
    rw [Ledger.uncharged, List.filter_cons]
    cases charged : ledger.isCharged entry with
    | true =>
      have first := total_chargeOne_charged settles now charged
      exact later.trans (Nat.add_le_add_right first _)
    | false =>
      have first := @total_chargeOne ledger weight now entry
      rw [if_pos (by rfl), List.map_cons, List.sum_cons, ← Nat.add_assoc]
      exact later.trans (Nat.add_le_add_right first _)

theorem lookup_chargeAll (now : Nat) (found : List (SpoolKey × Nat)) (ledger : Ledger)
    (stored : (ledger.chargeAll found now).lookup publicationId = some record) :
    ledger.lookup publicationId = some record ∨
      ∃ entry ∈ found, entry.1.2 = publicationId ∧ record = chargedRecord now entry := by
  induction found generalizing ledger with
  | nil => exact .inl stored
  | cons entry _ ih =>
    rcases ih (ledger.chargeOne now entry) stored with before | ⟨later, member, isLater⟩
    · by_cases same : publicationId = entry.1.2
      · subst same
        rcases chargeOne_own now entry before with kept | isNew
        · exact .inl kept
        · exact .inr ⟨entry, List.mem_cons_self .., rfl, isNew⟩
      · rw [chargeOne_others now entry same] at before
        exact .inl before
    · exact .inr ⟨later, List.mem_cons_of_mem _ member, isLater⟩

theorem sum_uncharged (profile : String) (value : SpoolKey × Nat → Nat)
    (weight : LedgerRecord → Nat) (now : Nat) (uncharged : List (SpoolKey × Nat))
    (own : ∀ entry, entry.1.1 = profile → weight (chargedRecord now entry) = value entry)
    (others : ∀ entry, entry.1.1 ≠ profile → weight (chargedRecord now entry) = 0) :
    (uncharged.map fun entry => weight (chargedRecord now entry)).sum =
      ((uncharged.filter fun entry => entry.1.1 = profile).map value).sum := by
  rw [Table.sum_filter_rows]
  congr 1
  refine List.map_congr_left fun entry _ => ?_
  by_cases same : entry.1.1 = profile
  · rw [if_pos (decide_eq_true same), own entry same]
  · rw [if_neg fun isSame => same (of_decide_eq_true isSame), others entry same]

theorem hasRoom_profile (room : ledger.hasRoom found = true) (profile : String) :
    ((ledger.uncharged found).filter fun entry => entry.1.1 = profile) = [] ∨
      (ledger.ofProfile profile).length +
          ((ledger.uncharged found).filter fun entry => entry.1.1 = profile).length
        ≤ maxPublicationManifests ∧
      sizes (ledger.ofProfile profile) +
          (((ledger.uncharged found).filter fun entry => entry.1.1 = profile).map Prod.snd).sum
        ≤ maxProfilePublicationBytes := by
  cases listed : (ledger.uncharged found).filter fun entry => entry.1.1 = profile with
  | nil => exact .inl rfl
  | cons entry =>
    have member : entry ∈ (ledger.uncharged found).filter fun entry => entry.1.1 = profile := by
      rw [listed]
      exact List.mem_cons_self ..
    rw [List.mem_filter, decide_eq_true_eq] at member
    have bounds := List.all_eq_true.mp (Bool.and_eq_true_iff.mp room).2 entry member.1
    simp only [Bool.and_eq_true, decide_eq_true_eq, member.2, listed] at bounds
    exact .inr bounds

theorem within_chargeAll (within : ledger.Within) (once : (found.map fun entry => entry.1.2).Nodup)
    (bounded : ∀ entry ∈ found, entry.2 ≤ maxPublicationBytes)
    (room : ledger.hasRoom found = true) : Ledger.Within (ledger.chargeAll found now) := by
  have grown : ∀ {weight}, Settles weight → _ :=
    fun settles => total_chargeAll settles now found ledger once
  refine ⟨?_, ?_, ?_, ?_, ?_⟩
  · intro publicationId record stored
    rcases lookup_chargeAll now found ledger stored with before | ⟨entry, member, _, rfl⟩
    · exact within.publication publicationId record before
    · exact bounded entry member
  · intro profile
    have before := within.manifests profile
    have after := grown (settles_isOf profile)
    rw [sum_uncharged profile (fun _ => 1) _ now _ (fun _ same => if_pos same)
      (fun _ different => if_neg different)] at after
    rw [length_ofProfile] at before ⊢
    rcases hasRoom_profile room profile with none | ⟨fits, _⟩
    · rw [none, List.map_nil, List.sum_nil, Nat.add_zero] at after
      exact after.trans before
    · rw [length_ofProfile] at fits
      rw [Table.sum_ones] at after
      exact after.trans fits
  · intro profile
    have before := within.incomplete profile
    have after := grown (settles_copyingOf profile)
    have weightless : ∀ entry, copyingOf profile (chargedRecord now entry) = 0 :=
      fun entry => if_neg (by rintro ⟨_, ⟨⟩⟩)
    rw [sum_uncharged profile (fun _ => 0) _ now _ (fun entry _ => weightless entry)
      (fun entry _ => weightless entry), List.map_const', List.sum_replicate] at after
    rw [copying_ofProfile] at before ⊢
    exact after.trans (by simpa using before)
  · intro profile
    have before := within.profileBytes profile
    have after := grown (settles_sizeOf profile)
    rw [sum_uncharged profile Prod.snd _ now _ (fun _ same => if_pos same)
      (fun _ different => if_neg different)] at after
    rw [sizes_ofProfile] at before ⊢
    rcases hasRoom_profile room profile with none | ⟨_, fits⟩
    · rw [none, List.map_nil, List.sum_nil, Nat.add_zero] at after
      exact after.trans before
    · rw [sizes_ofProfile] at fits
      exact after.trans fits
  · have fits := (Bool.and_eq_true_iff.mp room).1
    rw [decide_eq_true_eq] at fits
    exact (grown settles_size).trans fits

end Totals

/-! ## One action -/

variable {key : SpoolKey}

section Actions

variable {lib : SpoolLibrary} {fault : DiskFault} {volume after : SpoolVolume} {name : Nat}

section

variable (accounted : volume.Accounted) (ledger : after.ledger = volume.ledger)

include accounted ledger

theorem Accounted.of_journals (journals : ∀ key journal, after.journals.lookup key = some journal →
      volume.journals.lookup key = some journal) : after.Accounted where
  within := by
    rw [ledger]
    exact accounted.within
  publications := fun key journal stored =>
    accounted.publications key journal (journals key journal stored)
  charged := by
    intro publicationId record journal isRecord stored
    rw [ledger] at isRecord
    exact accounted.charged publicationId record journal isRecord (journals _ journal stored)

theorem Accounted.of_same (journals : after.journals = volume.journals) : after.Accounted :=
  Accounted.of_journals accounted ledger fun key journal stored => by
    rw [journals] at stored
    exact stored

end

variable {ledger : Ledger}

theorem Accounted.of_lighter (accounted : volume.Accounted)
    (lighter : volume.ledger.Lighter ledger) :
    SpoolVolume.Accounted { volume with ledger := ledger } where
  within := Lighter.within lighter accounted.within
  publications := accounted.publications
  charged := by
    intro publicationId record journal isRecord stored
    obtain ⟨old, found, profile, size⟩ := lighter.records publicationId record isRecord
    rw [← size]
    refine accounted.charged publicationId old journal found ?_
    rw [profile]
    exact stored

section

variable {α : Type} {body : Ledger → Except SpoolError (Option Ledger × α)}
  (accounted : volume.Accounted)

include accounted

theorem accounted_transact
    (written : ∀ ledger value, body volume.ledger = .ok (some ledger, value) →
      SpoolVolume.Accounted { volume with ledger := ledger }) :
    (volume.transact fault body).2.Accounted := by
  rcases transact_cases volume fault body with same | ⟨ledger, value, given, same⟩
  · rw [same]
    exact accounted
  · rw [same]
    exact written ledger value given

theorem accounted_lighter (lighter : ∀ ledger value, body volume.ledger = .ok (some ledger, value) →
      volume.ledger.Lighter ledger) :
    (volume.transact fault body).2.Accounted :=
  accounted_transact accounted fun ledger value given =>
    Accounted.of_lighter accounted (lighter ledger value given)

end

theorem accounted_change {α : Type} {reason : SpoolError} {value : α}
    {change : SpoolVolume → SpoolVolume} (accounted : volume.Accounted)
    (changed : (change volume).Accounted) :
    (volume.change fault reason value change).2.Accounted := by
  rcases change_cases volume fault reason value change with same | ⟨same, _⟩
  · rw [same]
    exact changed
  · rw [same]
    exact accounted

variable {value : Unit} {written : Ledger}

theorem lighter_markFrozen (given : ledger.markFrozen publicationId now = .ok (some written, value)) :
    ledger.Lighter written := by
  unfold Ledger.markFrozen at given
  split at given
  · cases given
  · next found =>
    cases given
    exact lighter_settle found (by rintro ⟨⟩)

variable {profile : String}

theorem lighter_markReleasing {value : Bool}
    (given : ledger.markReleasing profile publicationId now = .ok (some written, value)) :
    ledger.Lighter written := by
  unfold Ledger.markReleasing at given
  split at given
  · cases given
  · next found =>
    split at given
    · cases given
    · split at given
      · cases given
      · cases given
        exact lighter_settle found (by rintro ⟨⟩)

theorem lighter_drop (given : ledger.drop publicationId = .ok (some written, value)) :
    ledger.Lighter written := by
  unfold Ledger.drop at given
  split at given
  · cases given
  · cases given
    exact lighter_erase publicationId ledger

theorem lighter_dropProfile (given : ledger.dropProfile profile = .ok (some written, value)) :
    ledger.Lighter written := by
  unfold Ledger.dropProfile at given
  split at given
  · cases given
  · cases given
    exact lighter_keep _ ledger

theorem accounted_reserve {size free : Nat}
    (accounted : volume.Accounted) (bounded : size ≤ maxPublicationBytes)
    (agrees : volume.ledger.lookup key.2 = none → ∀ journal,
      volume.journals.lookup key = some journal → size = bytes journal.files)
    (given : volume.ledger.reserve key.1 key.2 size now free = .ok (some ledger, value)) :
    SpoolVolume.Accounted { volume with ledger := ledger } where
  within := within_reserve accounted.within bounded given
  publications := accounted.publications
  charged := by
    obtain ⟨absent, _, _, _, _, rfl⟩ := reserve_spec given
    intro publicationId record journal isRecord stored
    obtain ⟨same, rfl⟩ | ⟨_, isRecord⟩ := Table.cases_insert isRecord
    · exact agrees absent journal (by rw [← stored, same])
    · exact accounted.charged publicationId record journal isRecord stored

theorem accounted_charge (accounted : volume.Accounted)
    (fresh : volume.isFresh found = true) (room : volume.ledger.hasRoom found = true) :
    SpoolVolume.Accounted { volume with ledger := volume.ledger.chargeAll found now } := by
  have conditions := Bool.and_eq_true_iff.mp fresh
  have once := of_decide_eq_true conditions.1
  have entries : ∀ entry ∈ found, entry.2 ≤ maxPublicationBytes ∧
      ∀ journal, volume.journals.lookup entry.1 = some journal → entry.2 = bytes journal.files := by
    intro entry member
    have both := Bool.and_eq_true_iff.mp (List.all_eq_true.mp conditions.2 entry member)
    refine ⟨of_decide_eq_true both.1, fun journal stored => ?_⟩
    exact of_decide_eq_true ((Option.all_eq_true ..).mp both.2 journal stored)
  refine ⟨within_chargeAll accounted.within once (fun entry member => (entries entry member).1) room,
    accounted.publications, ?_⟩
  intro publicationId record journal isRecord stored
  rcases lookup_chargeAll now found volume.ledger isRecord with before | ⟨entry, member, same, rfl⟩
  · exact accounted.charged publicationId record journal before stored
  · refine (entries entry member).2 journal ?_
    rw [← same] at stored
    exact stored

theorem accounted_writeJournal {journal : Journal} (roots : List String)
    (accounted : volume.Accounted) (bounded : bytes journal.files ≤ maxPublicationBytes)
    (agrees : ∀ record, volume.ledger.lookup key.2 = some record → record.profile = key.1 →
      record.size = bytes journal.files) :
    SpoolVolume.Accounted { volume with
      roots := roots
      journals := volume.journals.insert key journal } where
  within := accounted.within
  publications := by
    intro other stored isStored
    obtain ⟨_, rfl⟩ | ⟨_, isStored⟩ := Table.cases_insert isStored
    · exact bounded
    · exact accounted.publications other stored isStored
  charged := by
    intro publicationId record stored isRecord isStored
    obtain ⟨same, rfl⟩ | ⟨_, isStored⟩ := Table.cases_insert isStored
    · exact agrees record (same ▸ isRecord) (congrArg Prod.fst same)
    · exact accounted.charged publicationId record stored isRecord isStored

theorem accounted_removeSpool (profile : String) (accounted : volume.Accounted) :
    (volume.removeSpool fault profile).Accounted := by
  cases fault with
  | before => exact accounted
  | fine | after | partway =>
    exact Accounted.of_journals accounted rfl fun key journal stored =>
      ((Table.lookup_keep_eq_some ..).mp stored).1

theorem accounted_of_action (action : SpoolAction)
    (rest : SpoolReply action → SpoolProgram SpoolAnswer) (accounted : volume.Accounted)
    (bounded : ∀ key size now free, action = .reserve key size now free →
      size ≤ maxPublicationBytes)
    (charges : volume.chargesCopied (.act action rest) = true) :
    (perform lib fault action volume).2.Accounted := by
  cases action with
  | openSpool => exact accounted_change accounted (Accounted.of_same accounted rfl rfl)
  | readJournal | discover | recheck | checkAbsent | seekJournal | seekFinal => exact accounted
  | listReleasing | listOld => exact accounted_lighter accounted fun _ _ given => by cases given
  | removeFinal key | discardFinal key =>
    obtain ⟨journals, ledger, _⟩ := removeFinal_others fault volume key
    exact Accounted.of_same accounted ledger journals
  | removeJournal =>
    refine accounted_change accounted (Accounted.of_journals accounted rfl ?_)
    intro other journal stored
    exact Table.lookup_of_erase stored
  | dropReleasing | dropStale =>
    refine accounted_lighter accounted fun ledger value given => ?_
    rw [← changed_eq_some (Prod.mk.inj (Except.ok.inj given)).1]
    exact lighter_keep _ volume.ledger
  | charge =>
    have conditions := Bool.and_eq_true_iff.mp charges
    refine accounted_transact accounted fun ledger value given => ?_
    rw [← changed_eq_some (Prod.mk.inj (Except.ok.inj given)).1]
    exact accounted_charge accounted conditions.1 conditions.2
  | reserve key size now free =>
    refine accounted_transact accounted fun ledger value given => ?_
    refine accounted_reserve accounted (bounded key size now free rfl) ?_ given
    intro absent journal stored
    have conditions : ((volume.ledger.lookup key.2).isSome ||
        (volume.journals.lookup key).all fun journal => size = bytes journal.files) = true :=
      charges
    rw [absent, stored] at conditions
    exact of_decide_eq_true conditions
  | makeCopy =>
    simp only [perform]
    split
    · exact accounted_change accounted (Accounted.of_same accounted rfl rfl)
    · exact accounted
  | copyFile key suffix source =>
    rcases copyFile_cases lib fault volume key suffix source with
      ⟨_, failed⟩ | ⟨_, _, _, _, grown, _⟩
    · rw [failed]
      exact accounted
    · rw [grown]
      exact Accounted.of_same accounted rfl rfl
  | moveCopy key suffix =>
    rcases moveCopy_cases lib fault volume key suffix with
      ⟨_, failed⟩ | ⟨_, _, _, moved⟩
    · rw [failed]
      exact accounted
    · rw [moved]
      exact Accounted.of_same accounted rfl rfl
  | writeJournal =>
    have conditions := Bool.and_eq_true_iff.mp charges
    refine accounted_change accounted (accounted_writeJournal _ accounted
      (of_decide_eq_true conditions.1) ?_)
    intro record stored ofProfile
    have agrees := (Option.all_eq_true ..).mp conditions.2 record stored
    rw [Bool.or_eq_true, decide_eq_true_eq, decide_eq_true_eq] at agrees
    exact agrees.resolve_left fun different => different ofProfile
  | markFrozen =>
    exact accounted_lighter accounted fun _ _ given => lighter_markFrozen given
  | discardCopy key suffix =>
    obtain ⟨journals, ledger, _⟩ := removeCopy_others fault volume (key, suffix)
    exact Accounted.of_same accounted ledger journals
  | drop =>
    exact accounted_lighter accounted fun _ _ given => lighter_drop given
  | markReleasing =>
    exact accounted_lighter accounted fun _ _ given => lighter_markReleasing given
  | removeCopies key =>
    obtain ⟨journals, ledger, _⟩ := removeCopies_others fault volume key
    exact Accounted.of_same accounted ledger journals
  | removeSpool profile => exact accounted_removeSpool profile accounted
  | dropProfile =>
    exact accounted_lighter accounted fun _ _ given => lighter_dropProfile given

end Actions

/-! ## Every run -/

section Runs

variable {lib : SpoolLibrary} {pool next : SpoolPool}

abbrev SpoolPool.Accounts (pool : SpoolPool) : Prop :=
  pool.Holds FreezeMoves FreezeAnswers FreezeRefuses SpoolVolume.Accounted fun _ _ _ => True

theorem bounded_of_moves {name : Nat} {mode after : FreezeMode}
    {size free : Nat} {reply : SpoolReply (.reserve key size now free)}
    (moves : FreezeMoves name mode (.reserve key size now free) reply after) :
    size ≤ maxPublicationBytes := by
  cases moves with
  | plain isPlain => exact of_decide_eq_true isPlain

theorem accounts_event {event : SpoolEvent} (accounts : pool.Accounts)
    (charges : pool.chargesCopied event = true) {reply : Unit}
    (success : SpoolPool.apply lib event pool = .ok (reply, next)) : next.Accounts := by
  cases event with
  | start call =>
    cases success
    exact ProgramPool.holds_start accounts (program_follows lib call) trivial
  | step =>
    refine ProgramPool.holds_step accounts success ?_ ?_
    · intro action rest mode after found _ moves
      refine ⟨accounted_of_action action rest accounts.safe ?_
        ((Option.all_eq_true ..).mp charges _ found), trivial⟩
      rintro _ _ _ _ rfl
      exact bounded_of_moves moves
    · intro _ _ _ _ _ _ _ _ _ _ _
      trivial
  | crash name =>
    cases success
    exact ProgramPool.holds_crash accounts name

/-- In every run whose journals list what the ledger is charged with, and whose reconciliations
have room for what they charge, the accounts hold. -/
theorem spool_accounts_hold (lib : SpoolLibrary) (volume : SpoolVolume)
    (accounted : volume.Accounted) (events : List SpoolEvent)
    (meets : Run.Meets (SpoolPool.apply lib) (fun pool event => pool.chargesCopied event = true)
      (ProgramPool.quiet volume) events) :
    (Run.run (SpoolPool.apply lib) (ProgramPool.quiet volume) events).state.Accounted := by
  have accounts := Run.invariant_where _ SpoolPool.Accounts
    (fun _ _ _ _ condition accounts success => accounts_event accounts condition success)
    (ProgramPool.quiet volume) events (ProgramPool.holds_quiet accounted) meets
  exact accounts.safe

theorem empty_accounted : SpoolVolume.empty.Accounted where
  within := ⟨by rintro _ _ ⟨⟩, fun _ => Nat.zero_le _, fun _ => Nat.zero_le _,
    fun _ => Nat.zero_le _, Nat.zero_le _⟩
  publications := by rintro _ _ ⟨⟩
  charged := by rintro _ _ _ ⟨⟩

theorem frozen_note_is_accounted :
    let events := SpoolEvent.start (.freeze (noteFreeze 3 3)) :: List.replicate 12 (.step 0 .fine)
    (Run.run (SpoolPool.apply plainLibrary) (ProgramPool.quiet SpoolVolume.empty) events).state.Accounted :=
  spool_accounts_hold plainLibrary SpoolVolume.empty empty_accounted
    (SpoolEvent.start (.freeze (noteFreeze 3 3)) :: List.replicate 12 (.step 0 .fine))
    (by decide +kernel)

/-- The note has one byte when it is prepared and two when it is copied. -/
theorem grown_note_is_undercharged :
    let events := SpoolEvent.start (.freeze (noteFreeze 1 2)) :: List.replicate 12 (.step 0 .fine)
    let volume := (Run.run (SpoolPool.apply plainLibrary) (ProgramPool.quiet SpoolVolume.empty) events).state
    volume.ledger.lookup 1 = some ⟨"ally", 1, .frozen, 5⟩ ∧
      (volume.journals.lookup ("ally", 1)).map (fun journal => bytes journal.files) = some 2 := by
  decide +kernel

end Runs

end Spool

end Foundry
