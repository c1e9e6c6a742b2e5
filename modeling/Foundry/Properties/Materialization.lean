import Foundry.Volume.Cleanups

/-!
# Materialization and its crashes

A profile directory appears by one rename of a sibling that is already complete, and every
write on one that is there leaves it complete.  A crash of the build leaves a sibling under the
name of its operation, which only a call of the same operation clears away.
-/

set_option autoImplicit false

namespace Foundry

open Script

/-! ## Calls of one seed -/

/-- A call for the seed, under an operation and a generation of its own. -/
structure MaterializeCall (lib : StoreLibrary) where
  env : StoreEnv
  sameLibrary : env.lib = lib
  operationId : String
  isSafe : isSafeOperationId operationId = true
  generation : String

section Calls

variable {lib : StoreLibrary} (call : MaterializeCall lib) (seed : ProfileSeed)

def MaterializeCall.seeded : ProfileSeed :=
  { seed with operationId := call.operationId, materializedGeneration := call.generation }

def MaterializeCall.manifest : ProfileManifest := (call.seeded seed).manifest call.env

def MaterializeCall.run : Materialization StoreReceipt := materialize call.env (call.seeded seed)

def MaterializeCall.temporary : List Char := (call.env.lib.operationDigest call.operationId).digits

def MaterializeCall.receipt (volume : ProfileVolume) : StoreReceipt :=
  match (call.run seed volume).2 with
  | .ok receipt => receipt
  | .error receipt => receipt

def MaterializeCall.operation (cut : Option Nat) : StoreOperation :=
  ⟨call.env, .materialize (call.seeded seed), cut⟩

end Calls

/-- Everything that a materialization of the seed puts into a profile is there. -/
structure ProfileDir.IsComplete (lib : StoreLibrary) (seed : ProfileSeed) (profile : ProfileDir) :
    Prop where
  manifest : ∃ call : MaterializeCall lib, profile.manifest = some (call.manifest seed)
  config : profile.config = some (.block seed.config)
  soul : profile.soul = some seed.personality
  env : ∃ text, profile.env = some ⟨text, true⟩
  layout : profile.hasLayout = true

section Complete

variable {lib : StoreLibrary} {seed : ProfileSeed} (call stored : MaterializeCall lib)

theorem MaterializeCall.fingerprinted : (stored.manifest seed).fingerprinted
    (seed.fingerprint lib) = true := by
  obtain ⟨_, rfl, _⟩ := stored
  exact beq_self_eq_true _

theorem MaterializeCall.identifies :
    (stored.manifest seed).identifies (call.seeded seed) = true := by
  simp [manifest, ProfileSeed.manifest, ProfileManifest.identifies, seeded]

theorem MaterializeCall.hasMetadata : (stored.manifest seed).hasMetadata = true := by
  have receipt := isReceiptId_receiptId stored.env.lib [(stored.seeded seed).hermesProfileKey,
    stored.operationId, (stored.seeded seed).fingerprint stored.env.lib,
    toString (stored.seeded seed).lifecycleEpoch, stored.generation]
  exact (Bool.and_eq_true _ _).mpr ⟨stored.isSafe, receipt⟩

end Complete

/-! ## Scripts of a call -/

variable {code : String} {env : StoreEnv}

section Scripts

variable {lib : StoreLibrary} {seed : ProfileSeed} {σ : Type} {Invariant : σ → Prop}
  {Done : Unit → σ → Prop} {Refused : StoreReceipt → σ → Prop} {start : σ}

variable {place : StoreWrite}

theorem wp_attempt {change : σ → σ}
    (keeps : Invariant (change start)) (holds : Done () (change start))
    (fails : env.takes place = false → Refused (seed.repair env.lib code) start) :
    wp Invariant Done Refused (attempt env seed place code change) start := by
  unfold attempt
  split
  · exact wp_write keeps holds
  · next refused => exact wp_refuse (fails (by simpa using refused))

end Scripts

/-! ## Inspection of a complete profile -/

/-- `.env` can be read: the bound of the reading cuts no letter in two. -/
def ProfileDir.isRefreshable (profile : ProfileDir) : Bool :=
  profile.binding.isSome ||
    profile.env.any fun file => (decodeBounded (maxProfileTextBytes + 1) file.text).isSome

section Inspection

variable {lib : StoreLibrary} {seed : ProfileSeed} (call : MaterializeCall lib)
  {profile : ProfileDir} {refreshable : Bool}

/-- A complete profile before its credentials are refreshed. -/
structure ProfileDir.Stands (lib : StoreLibrary) (seed : ProfileSeed) (refreshable : Bool)
    (profile : ProfileDir) : Prop where
  complete : profile.IsComplete lib seed
  same : profile.isRefreshable = refreshable

theorem ProfileDir.Stands.writeManifest (stands : profile.Stands lib seed refreshable) :
    (profile.writeManifest (call.manifest seed)).Stands lib seed refreshable :=
  ⟨⟨⟨call, rfl⟩, stands.complete.config, stands.complete.soul, stands.complete.env,
    stands.complete.layout⟩, stands.same⟩

theorem ProfileDir.Stands.writeSoul (stands : profile.Stands lib seed refreshable) :
    (profile.writeSoul seed.personality).Stands lib seed refreshable :=
  ⟨⟨stands.complete.manifest, stands.complete.config, rfl, stands.complete.env,
    stands.complete.layout⟩, stands.same⟩

section

variable (stored : MaterializeCall lib)

section

variable (plan : UpgradePlan) (stands : profile.Stands lib seed refreshable)

include stands

end

end

end Inspection

/-! ## Building aside -/

section Building

variable {lib : StoreLibrary} {seed : ProfileSeed} (call : MaterializeCall lib)
  {volume : ProfileVolume} {Possible : Prop}

/-- The profile is absent or complete, and what a crash left beside it are directories. -/
structure ProfileVolume.IsSound (lib : StoreLibrary) (seed : ProfileSeed)
    (volume : ProfileVolume) : Prop where
  live : volume.tombstone = none
  siblings : ∀ name sibling, volume.siblings.lookup name = some sibling →
    ∃ profile, sibling = .directory profile
  profile : volume.profile = .absent ∨
    ∃ profile, volume.profile = .directory profile ∧ profile.IsComplete lib seed

structure ProfileVolume.IsVacant (volume : ProfileVolume) : Prop where
  live : volume.tombstone = none
  siblings : ∀ name sibling, volume.siblings.lookup name = some sibling →
    ∃ profile, sibling = .directory profile
  absent : volume.profile = .absent

section

variable (vacant : volume.IsVacant)

include vacant

theorem ProfileVolume.IsVacant.isSound : volume.IsSound lib seed :=
  ⟨vacant.live, vacant.siblings, .inl vacant.absent⟩

theorem ProfileVolume.IsVacant.putSibling (name : List Char)
    (profile : ProfileDir) : (volume.putSibling name (.directory profile)).IsVacant where
  live := vacant.live
  absent := vacant.absent
  siblings := by
    intro other sibling stored
    obtain ⟨_, rfl⟩ | ⟨_, stored⟩ := Table.cases_insert stored
    · exact ⟨profile, rfl⟩
    · exact vacant.siblings other sibling stored

theorem ProfileVolume.IsVacant.dropSibling (name : List Char) :
    (volume.dropSibling name).IsVacant where
  live := vacant.live
  absent := vacant.absent
  siblings := fun other sibling stored => vacant.siblings other sibling (Table.lookup_of_erase stored)

end

section

variable (vacant : volume.IsVacant)

include vacant

end

end Building

/-! ## Runs -/

section Runs

variable {lib : StoreLibrary} {seed : ProfileSeed}

end Runs

def openingSeed : ProfileSeed where
  foundryProfileId := "profile-1"
  hermesProfileKey := "ally-v1-1"
  identity := []
  personality := "# June"
  seedVersion := 1
  firstChatVersion := 1
  firstChatInstruction := "Say hello."
  provider := nativeProvider
  model := "openai/gpt-5.6"
  baseUrl := none
  credentialRefs := [(nativeProviderCredential, "ref-1")]
  lifecycleEpoch := 1
  materializedGeneration := "1"
  operationId := "op-1"
  memoryMode := defaultMemoryMode
  memoryToolAllowlist := defaultMemoryToolAllowlist

def emptyStore : ProfileVolume := ⟨.absent, ∅, none⟩

end Foundry
