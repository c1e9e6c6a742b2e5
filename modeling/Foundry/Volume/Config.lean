import Foundry.Volume.Seeds

/-!
# The configuration of a profile

What `_profile_config_bytes` renders, and the migrations of the sections that the seed manages.
Texts are given as the mappings they parse to, so a migration is an edit of members.
-/

set_option autoImplicit false

namespace Foundry

def skillsCatalog : String := "/opt/allies/skills"

/-- `SKILLS_CONFIG`. -/
def skillsSection : String × Json :=
  ("skills", .obj [("external_dirs", .arr [.str skillsCatalog])])

abbrev ConfigMembers := List (String × Json)

def ConfigMembers.get (members : ConfigMembers) (name : String) : Option Json :=
  (Json.obj members).get? name

/-- `config[name] = value`: a present key keeps its place. -/
def ConfigMembers.set (name : String) (value : Json) : ConfigMembers → ConfigMembers
  | [] => [(name, value)]
  | member :: rest =>
    if member.1 = name then (name, value) :: rest
    else member :: ConfigMembers.set name value rest

/-! ## Sections -/

/-- The memory section; the mapping that `_memory_config_lines` renders. -/
def MemoryPolicy.section (policy : MemoryPolicy) : Json :=
  .obj [("mnemosyne", .obj [("profile_isolation", .bool true),
      ("shared_surface_read", .bool false), ("storage", .str "mnemosyne")]),
    ("mode", .str policy.mode), ("policy_version", .str defaultMemoryPolicyVersion),
    ("profile_isolation", .bool true), ("provider", .str defaultMemoryProvider),
    ("sync_roles", .arr []), ("tools", policy.toolsJson)]

def compressionSection : Json :=
  .obj [("threshold_tokens", .int defaultCompressionThresholdTokens)]

/-- The model section that `_profile_config_bytes` renders leaves an absent base URL out. -/
def ModelRoute.rendered (route : ModelRoute) : Json :=
  .obj ((match route.baseUrl with
    | none => []
    | some url => [("base_url", .str url)]) ++
      [("default", .str route.model), ("provider", .str route.provider)])

/-- `_profile_config_bytes`. -/
def ProfileSeed.config (seed : ProfileSeed) : ConfigMembers :=
  [("model", seed.route.rendered), ("memory", seed.memory.section),
    ("compression", compressionSection), skillsSection]

/-! ## Migrations -/

inductive ConfigFault where
  | unsupported
  | customSkills
  | flowStyle
  | legacyMemory
  | legacyCompression
  | legacyModel
  | legacyProvider
deriving DecidableEq, Repr

def ConfigFile.members? : ConfigFile → Option ConfigMembers
  | .unsupported => none
  | .flow members | .block members => some members

def listsCatalog (skills : Json) : Bool :=
  let dirs := match skills with
    | .obj _ => (skills.get? "external_dirs").getD (.arr [])
    | _ => .arr []
  match dirs with
  | .str dir => dir == skillsCatalog
  | .arr items => items.contains (.str skillsCatalog)
  | _ => false

/-- `_config_with_catalog`. -/
def configWithCatalog (config : ConfigFile) : Except ConfigFault ConfigFile :=
  match config.members? with
  | none => .error .unsupported
  | some members =>
    match members.get "skills" with
    | some skills => if listsCatalog skills then .ok config else .error .customSkills
    | none =>
      match config with
      | .block members => .ok (.block (members ++ [skillsSection]))
      | _ => .error .flowStyle

/-- A migration of one section: a section that is there already is kept, one that the
migration recognises is replaced, and the file is written in block style. -/
def replaceSection (name : String) (desired : Json) (isLegacy : Option Json → Bool)
    (fault : ConfigFault) (config : ConfigFile) : Except ConfigFault ConfigFile := do
  let config ← configWithCatalog config
  match config.members? with
  | none => .error .unsupported
  | some members =>
    if members.get name = some desired then .ok config
    else if isLegacy (members.get name) then .ok (.block (members.set name desired))
    else .error fault

/-- `_replace_legacy_memory_config`. -/
def replaceLegacyMemoryConfig (seed : ProfileSeed) :=
  replaceSection "memory" seed.memory.section (· == some MemoryPolicy.contextOnly.section)
    .legacyMemory

/-- `_replace_legacy_compression_config`. -/
def replaceLegacyCompressionConfig :=
  replaceSection "compression" compressionSection (· == none) .legacyCompression

/-- `_replace_legacy_model_config`. -/
def replaceLegacyModelConfig (seed : ProfileSeed) :=
  replaceSection "model" seed.route.json (· == some seed.legacyModelRoute.json) .legacyModel

/-- `_replace_legacy_provider_config`. -/
def replaceLegacyProviderConfig (seed : ProfileSeed) :=
  replaceSection "model" seed.route.json
    (· == some (ModelRoute.json { seed.route with provider := legacyProvider })) .legacyProvider

/-! ## Members -/

namespace ConfigMembers

variable (members : ConfigMembers)

end ConfigMembers

end Foundry
