import Foundry.Lib.Script
import Foundry.Lib.Table
import Foundry.Model.JsonText
import Foundry.Volume.Config
import Foundry.Volume.Tombstones

/-!
# Materialization

`ProfileStore.materialize`: the tombstone fence, the inspection and upgrade of a directory that
is there, and the building and publishing of one that is not.  Every replacement of a file,
every new file or directory and the publishing rename is one atomic write of a script.
-/

set_option autoImplicit false

namespace Foundry

/-! ## The volume -/

inductive ProfileEntry where
  | absent
  | symlink
  | notDirectory
  | directory (profile : ProfileDir)
deriving DecidableEq, Repr

inductive Sibling where
  | symlink
  | file
  | special
  | directory (profile : ProfileDir)
deriving DecidableEq, Repr

/-- The paths of one profile key.  A sibling is keyed by what follows `.{key}.tmp-`. -/
structure ProfileVolume where
  profile : ProfileEntry
  siblings : Table (List Char) Sibling
  tombstone : Option TombstoneFile

inductive StoreWrite where
  | legacyManifest
  | manifestUpdate
  | config
  | soulUpgrade
  | memoryManifest
  | credentials
  | soulCleanup
  | removal
  | build
  | publish
  | tombstone
deriving DecidableEq, Repr

structure StoreEnv where
  lib : StoreLibrary
  /-- The whole seconds of a finite number literal. -/
  seconds : String → Option Int
  resolver : String → Option (List Char)
  keyFactory : Option (List Char)
  now : Int
  maxCleanupEntries : Nat
  /-- The disk takes the write. -/
  takes : StoreWrite → Bool

/-! ## Receipts -/

inductive ProfileProvisionStatus where
  | created
  | existing
  | repairRequired
  | conflict
  | fenced
deriving DecidableEq, Repr

structure StoreReceipt where
  status : ProfileProvisionStatus
  profileKey : String
  foundryProfileId : String
  seedFingerprint : String
  lifecycleEpoch : Nat
  materializedGeneration : String
  operationId : String
  receiptId : String
  repairCode : Option String
deriving DecidableEq, Repr

/-- `_receipt` with the seed's own operation, fingerprint and generation. -/
def ProfileSeed.answer (lib : StoreLibrary) (seed : ProfileSeed) (status : ProfileProvisionStatus)
    (receiptId : String) (repairCode : Option String) : StoreReceipt where
  status := status
  profileKey := seed.hermesProfileKey
  foundryProfileId := seed.foundryProfileId
  seedFingerprint := seed.fingerprint lib
  lifecycleEpoch := seed.lifecycleEpoch
  materializedGeneration := seed.materializedGeneration
  operationId := seed.operationId
  receiptId := receiptId
  repairCode := repairCode

def ProfileSeed.refusal (lib : StoreLibrary) (seed : ProfileSeed) (status : ProfileProvisionStatus)
    (code : String) : StoreReceipt :=
  seed.answer lib status (seed.receipt lib) (some code)

def ProfileSeed.repair (lib : StoreLibrary) (seed : ProfileSeed) (code : String) : StoreReceipt :=
  seed.refusal lib .repairRequired code

/-! ## Inspection -/

section Inspection

variable (env : StoreEnv) (seed : ProfileSeed)

abbrev Inspection (α : Type) := Script ProfileDir StoreReceipt α

open Script

def attempt {σ : Type} (place : StoreWrite) (code : String) (change : σ → σ) :
    Script σ StoreReceipt Unit :=
  if env.takes place then write change else refuse (seed.repair env.lib code)

def demand (condition : Bool) (code : String) : Inspection Unit :=
  unlessRefuse condition (seed.repair env.lib code)

def hermesProfileDirectories : List String :=
  ["memories", "sessions", "skills", "skins", "logs", "plans", "workspace", "cron", "home"]

def ProfileDir.hasLayout (profile : ProfileDir) : Bool :=
  hermesProfileDirectories.all profile.directories.contains

def ProfileDir.hasFiles (profile : ProfileDir) : Bool :=
  profile.config.isSome && profile.env.isSome && profile.soul.isSome

def ProfileDir.writeManifest (manifest : ProfileManifest) (profile : ProfileDir) : ProfileDir :=
  { profile with manifest := some manifest }

def ProfileDir.writeConfig (config : ConfigFile) (profile : ProfileDir) : ProfileDir :=
  { profile with config := some config }

def ProfileDir.writeSoul (soul : String) (profile : ProfileDir) : ProfileDir :=
  { profile with soul := some soul }

def ProfileManifest.identifies (manifest : ProfileManifest) : Bool :=
  manifest.foundryProfileId == some (.str seed.foundryProfileId) &&
    manifest.hermesProfileKey == some (.str seed.hermesProfileKey)

/-- `dict(manifest)` with the seed's operation, generation and receipt. -/
def ProfileManifest.adopt (manifest : ProfileManifest) : ProfileManifest :=
  { manifest with
    operationId := some (.str seed.operationId)
    materializedGeneration := some (.str seed.materializedGeneration)
    receiptId := some (.str (seed.receipt env.lib)) }

def ProfileManifest.describeMemory (manifest : ProfileManifest) : ProfileManifest :=
  { manifest with
    seedFingerprint := some (.str (seed.fingerprint env.lib))
    memoryProvider := some (.str defaultMemoryProvider)
    memoryPolicyVersion := some (.str defaultMemoryPolicyVersion)
    memoryMode := some (.str seed.memoryMode)
    memoryTools := some seed.memory.toolsJson }

def ProfileDir.upgradesVersionOne (profile : ProfileDir) (manifest : ProfileManifest) : Bool :=
  manifest.identifies seed &&
    manifest.seedFingerprint == some (.str (seed.legacyFingerprint env.lib)) &&
    seed.memory = .contextOnly &&
    manifest.lifecycleEpoch == some (.int seed.lifecycleEpoch) &&
    manifest.completionState == some (.str "complete") &&
    profile.hasFiles && profile.hasLayout

def upgradeVersionOne (profile : ProfileDir) (manifest : ProfileManifest) :
    Inspection ProfileManifest := do
  demand env seed (profile.upgradesVersionOne env seed manifest) "legacy_manifest_requires_repair"
  let upgraded : ProfileManifest :=
    { (manifest.adopt env seed).describeMemory env seed with
      schemaVersion := some (.int manifestVersion)
      memoryStorage := some (.str "mnemosyne") }
  attempt env seed .config "legacy_manifest_upgrade_failed"
    (ProfileDir.writeConfig (.block seed.config))
  attempt env seed .legacyManifest "legacy_manifest_upgrade_failed"
    (ProfileDir.writeManifest upgraded)
  return upgraded

/-- The upgrades of one inspection, and the seed that the sections are judged against. -/
structure UpgradePlan where
  upgrades : LegacyUpgrades
  provider : Bool
  seed : ProfileSeed
deriving DecidableEq, Repr

def UpgradePlan.any (plan : UpgradePlan) : Bool := plan.upgrades.any || plan.provider

/-- The upgrades that rewrite the managed sections of `config.yaml` by name. -/
def UpgradePlan.changesSections (plan : UpgradePlan) : Bool :=
  plan.upgrades.memory || plan.upgrades.compression || plan.upgrades.model

def ProfileManifest.fingerprinted (manifest : ProfileManifest) (fingerprint : String) : Bool :=
  manifest.seedFingerprint == some (.str fingerprint)

def planUpgrades (lib : StoreLibrary) (seed : ProfileSeed) (manifest : ProfileManifest) :
    UpgradePlan :=
  let upgrades := legacyUpgrades lib seed manifest
  let asIs : UpgradePlan := ⟨upgrades, false, seed⟩
  if manifest.fingerprinted (seed.fingerprint lib) || upgrades.any then asIs
  else
    match seed.legacyProviderSeed with
    | none => asIs
    | some providerSeed =>
      let upgrades := legacyUpgrades lib providerSeed manifest
      if manifest.fingerprinted (providerSeed.fingerprint lib) || upgrades.any then
        ⟨upgrades, true, providerSeed⟩
      else ⟨upgrades, false, seed⟩

def checkEpoch (manifest : ProfileManifest) : Inspection Unit :=
  match manifest.lifecycleEpoch with
  | some (.int epoch) =>
    if epoch = seed.lifecycleEpoch then answer ()
    else if (seed.lifecycleEpoch : Int) < epoch then
      refuse (seed.refusal env.lib .fenced "stale_lifecycle_epoch")
    else refuse (seed.repair env.lib "lifecycle_epoch_mismatch")
  | _ => refuse (seed.repair env.lib "lifecycle_epoch_mismatch")

def ProfileManifest.hasMetadata (manifest : ProfileManifest) : Bool :=
  match manifest.operationId, manifest.materializedGeneration, manifest.receiptId with
  | some (.str operationId), some (.str _), some (.str receipt) =>
    isSafeOperationId operationId && isReceiptId receipt
  | _, _, _ => false

def ProfileManifest.isAdopted (manifest : ProfileManifest) : Bool :=
  manifest.operationId == some (.str seed.operationId) &&
    manifest.materializedGeneration == some (.str seed.materializedGeneration)

def UpgradePlan.migrate (plan : UpgradePlan) (config : ConfigFile) :
    Except ConfigFault ConfigFile := do
  let config ← configWithCatalog config
  let config ← if plan.upgrades.memory then replaceLegacyMemoryConfig plan.seed config
    else .ok config
  let config ← if plan.changesSections then replaceLegacyCompressionConfig config
    else .ok config
  let config ← if plan.upgrades.model then replaceLegacyModelConfig plan.seed config
    else .ok config
  if plan.provider then replaceLegacyProviderConfig seed config else .ok config

def migrateConfig (plan : UpgradePlan) : Inspection Unit := do
  let profile ← read
  match (profile.config.getD .unsupported), plan.migrate seed (profile.config.getD .unsupported) with
  | _, .error _ => refuse (seed.repair env.lib "skills_config_requires_repair")
  | config, .ok updated =>
    if updated = config then answer ()
    else
      attempt env seed .config "skills_config_requires_repair" (ProfileDir.writeConfig updated)

/-- `SOUL.md` and the fingerprint, one after the other. -/
def upgradeSoul (plan : UpgradePlan) (manifest : ProfileManifest) :
    Inspection ProfileManifest :=
  if plan.upgrades.soul then do
    let upgraded := { manifest with seedFingerprint := some (.str (seed.fingerprint env.lib)) }
    attempt env seed .soulUpgrade "legacy_soul_upgrade_failed"
      (ProfileDir.writeSoul seed.personality)
    attempt env seed .soulUpgrade "legacy_soul_upgrade_failed"
      (ProfileDir.writeManifest upgraded)
    return upgraded
  else answer manifest

def UpgradePlan.failure (plan : UpgradePlan) : String :=
  if plan.upgrades.memory then "legacy_memory_upgrade_failed"
  else if plan.upgrades.compression then "legacy_compression_upgrade_failed"
  else if plan.upgrades.model then "legacy_model_upgrade_failed"
  else "legacy_provider_upgrade_failed"

def upgradeManifest (plan : UpgradePlan) (manifest : ProfileManifest) : Inspection Unit :=
  if plan.changesSections || plan.provider then
    attempt env seed .memoryManifest plan.failure
      (ProfileDir.writeManifest (manifest.describeMemory env seed))
  else answer ()

/-- `_read_bounded_descriptor` and `decode`: a letter that the bound cuts cannot be decoded. -/
def decodeBounded : Nat → List Char → Option (List Char)
  | _, [] => some []
  | bound, letter :: rest =>
    if bound = 0 then some []
    else if letter.utf8Size ≤ bound then
      (decodeBounded (bound - letter.utf8Size) rest).map fun text => letter :: text
    else none

def resolveSeedRefs (resolver : String → Option (List Char)) :
    List (String × String) → Option (List (String × List Char))
  | [] => some []
  | (name, reference) :: rest =>
    match resolveCredential resolver reference with
    | .error _ => none
    | .ok value => (resolveSeedRefs resolver rest).map fun resolved => (name, value) :: resolved

/-- The loop over the lines: the first line of a wanted name takes its value. -/
def refreshLines : List (String × List Char) → List (List Char) → List (List Char)
  | wanted, [] => wanted.map fun entry => envLine entry.1.toList entry.2
  | wanted, line :: lines =>
    match (partitionLine line).bind fun pair =>
        wanted.find? fun entry => entry.1.toList == pair.1 with
    | none => line :: refreshLines wanted lines
    | some entry =>
      envLine entry.1.toList entry.2 ::
        refreshLines (wanted.filter fun other => other.1 != entry.1) lines

/-- `_refresh_seed_credentials`. -/
def refreshSeedCredentials : Inspection Unit := do
  let profile ← read
  if profile.binding.isSome then return ()
  match profile.env with
  | none => refuse (seed.repair env.lib "credential_refresh_failed")
  | some file =>
    match file.isPrivate, decodeBounded (maxProfileTextBytes + 1) file.text,
        resolveSeedRefs env.resolver seed.credentialRefs with
    | true, some text, some wanted =>
      let lines := splitLines text
      let updated := refreshLines wanted lines
      if updated = lines then return ()
      attempt env seed .credentials "credential_refresh_failed"
        fun profile => profile.withEnv (joinLines updated)
    | _, _, _ => refuse (seed.repair env.lib "credential_refresh_failed")

/-- `_legacy_soul_bytes`. -/
def ProfileSeed.legacySoulText : String :=
  seed.personality ++ (if seed.personality.toList.getLast? = some '\n' then "" else "\n") ++ "\n" ++
    s!"<!-- allies-first-chat:v{seed.firstChatVersion} -->\n" ++
    s!"## Allies first-chat/system instruction (v{seed.firstChatVersion})\n" ++
    seed.firstChatInstruction ++ "\n"

/-- `_clean_owned_first_chat_block`. -/
def cleanOwnedFirstChatBlock : Inspection Unit := do
  let profile ← read
  if profile.soul = some seed.legacySoulText ∧ profile.soul ≠ some seed.personality then
    attempt env seed .soulCleanup "soul_cleanup_failed" (ProfileDir.writeSoul seed.personality)
  else return ()

def conflictCode (manifest : ProfileManifest) : String :=
  if manifest.firstChatVersion == some (.int seed.firstChatVersion) then "seed_fingerprint_conflict"
  else "instruction_version_conflict"

/-- The checks of a manifest and its directory before anything is written. -/
def checkExisting (profile : ProfileDir) (manifest : ProfileManifest) :
    Inspection UpgradePlan := do
  demand env seed (manifest.schemaVersion == some (.int manifestVersion)) "unsupported_manifest"
  unlessRefuse (manifest.identifies seed) (seed.refusal env.lib .conflict "identity_collision")
  let plan := planUpgrades env.lib seed manifest
  unlessRefuse (manifest.fingerprinted (seed.fingerprint env.lib) || plan.any)
    (seed.refusal env.lib .conflict (conflictCode seed manifest))
  checkEpoch env seed manifest
  demand env seed
    (manifest.completionState == some (.str "complete") && profile.hasFiles) "incomplete_profile"
  demand env seed profile.hasLayout "incomplete_layout"
  demand env seed (profile.env.any EnvFile.isPrivate) "secret_file_permissions"
  demand env seed manifest.hasMetadata "invalid_manifest_metadata"
  return plan

/-- The operation and the generation move to those of the call. -/
def adoptManifest (manifest : ProfileManifest) : Inspection ProfileManifest :=
  if manifest.isAdopted seed then answer manifest
  else do
    attempt env seed .manifestUpdate "manifest_update_failed"
      (ProfileDir.writeManifest (manifest.adopt env seed))
    return manifest.adopt env seed

def ProfileManifest.storedReceipt (manifest : ProfileManifest) : String :=
  match manifest.receiptId with
  | some (.str receipt) => receipt
  | _ => ""

/-- `_inspect_existing` of a directory. -/
def inspectExisting : Inspection StoreReceipt := do
  let profile ← read
  match profile.manifest with
  | none => refuse (seed.repair env.lib "incomplete_manifest")
  | some stored =>
    demand env seed (stored.schema == some (.str manifestSchema)) "unsupported_manifest"
    let manifest ← if stored.schemaVersion == some (.int 1) then
        upgradeVersionOne env seed profile stored
      else answer stored
    let plan ← checkExisting env seed profile manifest
    let manifest ← adoptManifest env seed manifest
    migrateConfig env seed plan
    let upgraded ← upgradeSoul env seed plan manifest
    upgradeManifest env seed plan upgraded
    refreshSeedCredentials env seed
    cleanOwnedFirstChatBlock env seed
    return seed.answer env.lib .existing manifest.storedReceipt none

end Inspection

/-! ## Building and publishing -/

section Materialize

variable (env : StoreEnv) (seed : ProfileSeed)

abbrev Materialization (α : Type) := Script ProfileVolume StoreReceipt α

open Script

def ProfileVolume.putSibling (name : List Char) (sibling : Sibling) (volume : ProfileVolume) :
    ProfileVolume :=
  { volume with siblings := volume.siblings.insert name sibling }

def ProfileVolume.dropSibling (name : List Char) (volume : ProfileVolume) : ProfileVolume :=
  { volume with siblings := volume.siblings.erase name }

/-- `_temp_path`. -/
def ProfileSeed.temporary : List Char := (env.lib.operationDigest seed.operationId).digits

def ProfileSeed.manifest : ProfileManifest where
  schema := some (.str manifestSchema)
  schemaVersion := some (.int manifestVersion)
  foundryProfileId := some (.str seed.foundryProfileId)
  hermesProfileKey := some (.str seed.hermesProfileKey)
  lifecycleEpoch := some (.int seed.lifecycleEpoch)
  seedFingerprint := some (.str (seed.fingerprint env.lib))
  seedVersion := some (.int seed.seedVersion)
  firstChatVersion := some (.int seed.firstChatVersion)
  materializedGeneration := some (.str seed.materializedGeneration)
  operationId := some (.str seed.operationId)
  receiptId := some (.str (seed.receipt env.lib))
  completionState := some (.str "complete")
  lifecycleState := some (.str "active")
  memoryProvider := some (.str defaultMemoryProvider)
  memoryPolicyVersion := some (.str defaultMemoryPolicyVersion)
  memoryMode := some (.str seed.memoryMode)
  memoryTools := some seed.memory.toolsJson
  memoryStorage := some (.str "mnemosyne")

def ProfileDir.addDirectory (profile : ProfileDir) (name : String) : ProfileDir :=
  { profile with directories := profile.directories ++ [name] }

/-- A step of the build: the sibling grows by one file or directory. -/
def buildWrite (profile : ProfileDir) : Materialization Unit :=
  attempt env seed .build "materialization_failed"
    (ProfileVolume.putSibling (seed.temporary env) (.directory profile))

def buildDirectories (profile : ProfileDir) : List String → Materialization ProfileDir
  | [] => answer profile
  | name :: rest => do
      buildWrite env seed (profile.addDirectory name)
      buildDirectories (profile.addDirectory name) rest

/-- `_build_profile`. -/
def buildProfile : Materialization Unit := do
  buildWrite env seed .empty
  let laidOut ← buildDirectories env seed .empty hermesProfileDirectories
  match env.keyFactory with
  | none => refuse (seed.repair env.lib "materialization_failed")
  | some key =>
    unlessRefuse (isGeneratedKey key) (seed.repair env.lib "materialization_failed")
    match resolveSeedRefs env.resolver seed.credentialRefs with
    | none => refuse (seed.repair env.lib "materialization_failed")
    | some resolved =>
      let keyed := laidOut.withEnv (joinLines (envLine apiServerKey key ::
        resolved.map fun entry => envLine entry.1.toList entry.2))
      buildWrite env seed keyed
      let configured := keyed.writeConfig (.block seed.config)
      buildWrite env seed configured
      let spoken := configured.writeSoul seed.personality
      buildWrite env seed spoken
      buildWrite env seed (spoken.writeManifest (seed.manifest env))

def publishProfile : Materialization Unit := do
  let volume ← read
  match volume.profile, volume.siblings.lookup (seed.temporary env) with
  | .absent, some (.directory profile) =>
    attempt env seed .publish "profile_publish_failed" fun volume =>
      { volume.dropSibling (seed.temporary env) with profile := .directory profile }
  | .absent, _ => refuse (seed.repair env.lib "profile_publish_failed")
  | _, _ => refuse (seed.repair env.lib "profile_appeared_during_publish")

/-- `_remove_owned_path` of a sibling: `rmtree` empties a directory before it removes it. -/
def removeSibling (name : List Char) (code : String) :
    Sibling → Materialization Unit
  | .symlink | .special => refuse (seed.repair env.lib code)
  | .file => attempt env seed .removal code (ProfileVolume.dropSibling name)
  | .directory _ => do
      attempt env seed .removal code (ProfileVolume.putSibling name (.directory .empty))
      attempt env seed .removal code (ProfileVolume.dropSibling name)

/-- The loop over the siblings: the call's own leftover goes, any other stops the call. -/
def clearSiblings : List (List Char × Sibling) → Materialization Unit
  | [] => answer ()
  | (name, sibling) :: rest =>
    if name = seed.temporary env then
      match sibling with
      | .symlink => refuse (seed.repair env.lib "symlinked_temporary_state")
      | other => do
          removeSibling env seed name "profile_store_unavailable" other
          clearSiblings rest
    else refuse (seed.repair env.lib "unknown_temporary_state")

def fenceReceipt (payload : Option TombstonePayload) : StoreReceipt :=
  match payload with
  | none => seed.repair env.lib "invalid_cleanup_tombstone"
  | some payload =>
    if pendingTombstoneIsValid env.lib payload env.seconds seed.hermesProfileKey then
      match expirySeconds env.seconds (payload.get "expires_at") with
      | some expiry =>
        if expiry ≤ env.now then seed.repair env.lib "cleanup_expired"
        else seed.refusal env.lib .fenced "profile_deprovisioned"
      | none => seed.repair env.lib "invalid_cleanup_tombstone"
    else
      match tombstoneReceipt payload with
      | some receipt =>
        if receipt.profileKey = seed.hermesProfileKey then
          seed.refusal env.lib .fenced "profile_deprovisioned"
        else seed.repair env.lib "invalid_cleanup_tombstone"
      | none => seed.repair env.lib "invalid_cleanup_tombstone"

/-- A new profile: leftovers are cleared, and the directory is built aside and renamed. -/
def createProfile : Materialization StoreReceipt := do
  let volume ← read
  unlessRefuse (decide (volume.siblings.entries.length ≤ env.maxCleanupEntries))
    (seed.repair env.lib "temporary_state_unreadable")
  clearSiblings env seed volume.siblings.rows
  buildProfile env seed
  publishProfile env seed
  return seed.answer env.lib .created (seed.receipt env.lib) none

/-- `materialize`, inside the lock. -/
def materialize : Materialization StoreReceipt := do
  let volume ← read
  match volume.tombstone with
  | some tombstone => refuse (fenceReceipt env seed tombstone.payload?)
  | none =>
    match volume.profile with
    | .symlink => refuse (seed.repair env.lib "symlinked_profile")
    | .notDirectory => refuse (seed.repair env.lib "profile_is_not_directory")
    | .directory profile =>
      (inspectExisting env seed).within
        (fun profile => { volume with profile := .directory profile }) profile
    | .absent => createProfile env seed

end Materialize

/-! ## A plain environment -/

/-- A digest for trying the model out: the letters as digits of a number, cut to its length. -/
def plainDigest (length : Nat) (letters : List Char) : HexDigest length where
  digits := (List.range length).map fun place =>
    Nat.digitChar (letters.foldl (fun sum letter => (sum * 257 + letter.toNat) % 16 ^ length) 7 /
      16 ^ place % 16)
  size := by simp
  hex := by
    rw [List.all_eq_true]
    intro letter member
    obtain ⟨_, _, rfl⟩ := List.mem_map.mp member
    have small : ∀ digit < 16, isHexDigit (Nat.digitChar digit) = true := by decide
    exact small _ (Nat.mod_lt _ (by decide))

def StoreLibrary.plain : StoreLibrary where
  seedDigest payload := String.ofList (plainDigest 64 ('2' :: payload.spell)).digits
  legacyDigest payload := String.ofList (plainDigest 64 ('1' :: payload.spell)).digits
  receiptDigest parts := plainDigest 32 (parts.flatMap fun part => '\x00' :: part.toList)
  operationDigest operationId := plainDigest 24 operationId.toList
  legacySoulFor soul :=
    match soul.toList with
    | '#' :: ' ' :: name => some (String.ofList ("## ".toList ++ name))
    | _ => none

def StoreEnv.plain : StoreEnv where
  lib := .plain
  seconds _ := none
  resolver reference := some ("value of ".toList ++ reference.toList)
  keyFactory := some "0123456789abcdef".toList
  now := 100
  maxCleanupEntries := 8192
  takes _ := true

end Foundry
