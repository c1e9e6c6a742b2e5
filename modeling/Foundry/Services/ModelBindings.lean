import Foundry.Lib.Raise
import Foundry.Lib.Run
import Foundry.Lib.Table
import Foundry.Model.JsonText

/-!
# Model bindings in Foundry

`set_model_binding`, `clear_model_binding`, `install_provider_key` and `remove_provider_key` of
`services/profiles.py` on one profile, and the key references of `effective_model_selection`.
-/

set_option autoImplicit false

namespace Foundry

open Raise

abbrev KeyRefs := Table String String

def maxBindingKeyRefs : Nat := 32

/-! ## Validation -/

/-- `[a-z]` without regard to case, which in Unicode text holds of four more letters. -/
def isSchemeStart (letter : Char) : Bool :=
  letter.isAlpha || ['\u0130', '\u0131', '\u017f', '\u212a'].contains letter

def isSchemeLetter (letter : Char) : Bool :=
  isSchemeStart letter || letter.isDigit || ['+', '.', '-'].contains letter

/-- `\s` of a Unicode pattern. -/
def isPatternSpace (letter : Char) : Bool :=
  (9 ≤ letter.toNat && letter.toNat ≤ 13) || (28 ≤ letter.toNat && letter.toNat ≤ 32) ||
    (8192 ≤ letter.toNat && letter.toNat ≤ 8202) ||
    [133, 160, 5760, 8232, 8233, 8239, 8287, 12288].contains letter.toNat

/-- `_OPAQUE_REFERENCE`. -/
def isOpaqueReference (reference : String) : Bool :=
  match reference.toList.takeWhile isSchemeLetter, reference.toList.dropWhile isSchemeLetter with
  | first :: others, ':' :: '/' :: '/' :: path =>
    isSchemeStart first && 1 ≤ others.length && others.length ≤ 31 &&
      1 ≤ path.length && path.length ≤ 191 && path.all fun letter => !isPatternSpace letter
  | _, _ => false

/-- `str.lower` of the letters that become ASCII letters. -/
def lowerLetter (letter : Char) : Char :=
  if letter = '\u212a' then 'k' else letter.toLower

def credentialPrefixes : List String :=
  ["bearer ", "token=", "key=", "sk-", "api_key="]

def looksLikeCredential (reference : String) : Bool :=
  credentialPrefixes.any fun start =>
    start.toList.isPrefixOf (reference.toList.map lowerLetter)

/-- The two patterns of `_normalize_env_name`. -/
def isReferenceName (name : String) : Bool :=
  match name.toList with
  | [] => false
  | first :: rest =>
    rest.length ≤ 63 &&
      ((first.isLower &&
          rest.all fun letter => letter.isLower || letter.isDigit || letter == '_' ||
            letter == '-') ||
        (first.isUpper &&
          rest.all fun letter => letter.isUpper || letter.isDigit || letter == '_'))

/-- `name.upper().replace("-", "_")`. -/
def upperName (name : String) : String :=
  String.ofList (name.toList.map fun letter => if letter = '-' then '_' else letter.toUpper)

/-- `_normalize_env_name`. -/
def normalizeEnvName (name field : String) : Except RuntimeError String := do
  require (isReferenceName name = true)
    (validationError (field ++ " must contain opaque references"))
  require (upperName name ≠ "API_SERVER_KEY")
    (validationError (field ++ " must not reserve the runtime API key"))
  return upperName name

/-- One entry of `_normalize_ref_entries`. -/
def normalizeRefEntry (field : String) (refs : KeyRefs) (entry : String × Json) :
    Except RuntimeError KeyRefs :=
  match entry.2 with
  | .str reference => do
      require (isOpaqueReference reference = true)
        (validationError (field ++ " must contain opaque references"))
      require (looksLikeCredential reference = false)
        (validationError (field ++ " must not contain credential values"))
      let name ← normalizeEnvName entry.1 field
      require (refs.lookup name = none)
        (validationError (field ++ " contain colliding environment names"))
      return refs.insert name reference
  | _ => throw (validationError (field ++ " must contain opaque references"))

/-- `_normalize_ref_entries`.  The order of the entries is not read later. -/
def normalizeRefEntries (raw : Json) (field : String) : Except RuntimeError KeyRefs :=
  match raw with
  | .obj members => do
      require (members.length ≤ 32) (validationError (field ++ " exceed the bounded size"))
      members.foldlM (normalizeRefEntry field) ∅
  | _ => throw (validationError (field ++ " must be an object"))

/-- `_seed_text`. -/
def seedText (value : Json) (name : String) (maxLength : Nat) : Except RuntimeError String :=
  match value with
  | .str text => do
      require (text ≠ "" ∧ text.length ≤ maxLength)
        (validationError (name ++ " must be a non-empty string of at most " ++
          toString maxLength ++ " characters"))
      require ('\x00' ∉ text.toList ∧ '\r' ∉ text.toList)
        (validationError (name ++ " contains an invalid control character"))
      return text
  | _ => throw (validationError (name ++ " must be a non-empty string of at most " ++
      toString maxLength ++ " characters"))

/-- A member that is absent or null stays out of the binding. -/
def optionalBindingText (value : Option Json) (name : String) (maxLength : Nat) :
    Except RuntimeError (Option String) :=
  match value with
  | none | some .null => return none
  | some value => some <$> seedText value name maxLength

def optionalReasoning : Option Json → Except RuntimeError (Option String)
  | none | some .null => return none
  | some (.str "high") => return some "high"
  | some (.str "xhigh") => return some "xhigh"
  | some _ => throw (validationError "binding reasoning must be high or xhigh")

/-- The `binding` of `model_override`. -/
structure ModelBinding where
  provider : Option String
  model : Option String
  reasoning : Option String
  keyRefs : KeyRefs

/-- `normalize_model_binding`. -/
def normalizeModelBinding (raw : Json) : Except RuntimeError ModelBinding :=
  match raw with
  | .obj members => do
      let provider ← optionalBindingText (raw.get? "provider") "binding provider" 80
      let model ← optionalBindingText (raw.get? "model") "binding model" 255
      let reasoning ← optionalReasoning (raw.get? "reasoning")
      let keyRefs ← normalizeRefEntries ((raw.get? "key_refs").getD (.obj [])) "binding key_refs"
      require (members.all fun member =>
          ["provider", "model", "reasoning", "key_refs"].contains member.1)
        (validationError "model binding contains unknown fields")
      return ⟨provider, model, reasoning, keyRefs⟩
  | _ => throw (validationError "model binding must be an object")

/-! ## The profile -/

/-- The key references of a stored seed, which `_normalize_seed` let in. -/
structure SeedKeyRefs where
  refs : KeyRefs
  normalized : ∃ raw, normalizeRefEntries raw "credential_refs" = .ok refs

/-- A profile with its seed and its `model_override`. -/
structure BindingProfile where
  lifecycleState : RuntimeProfileLifecycleState
  seed : SeedKeyRefs
  generation : Nat
  binding : ModelBinding

structure ModelBindingReceipt where
  generation : Nat
  binding : ModelBinding

inductive BindingRequest where
  | set (binding : Json)
  | clear
  | install (envName : String) (reference : Json)
  | remove (envName : String)

namespace BindingProfile

variable (profile : BindingProfile)

/-- `len(set(seed_refs) | set(key_refs))`. -/
def unionSize (keyRefs : KeyRefs) : Nat :=
  (keyRefs ∪ profile.seed.refs).entries.length

/-- `_store_binding`. -/
def store (binding : ModelBinding) : ModelBindingReceipt × BindingProfile :=
  (⟨profile.generation + 1, binding⟩,
    { profile with generation := profile.generation + 1, binding := binding })

/-- The binding that `set_model_binding` stores: without key references of its own it keeps the
installed ones. -/
def keepInstalled (raw : Json) (binding : ModelBinding) : ModelBinding :=
  if !raw.has "key_refs" && !profile.binding.keyRefs.entries.isEmpty then
    { binding with keyRefs := profile.binding.keyRefs }
  else binding

def change (request : BindingRequest) : Except RuntimeError ModelBinding :=
  match request with
  | .set raw => do
      let binding ← normalizeModelBinding raw
      return profile.keepInstalled raw binding
  | .clear => return ⟨none, none, none, ∅⟩
  | .install envName reference => do
      let entry ← normalizeRefEntries (.obj [(envName, reference)]) "binding key_refs"
      let merged := entry ∪ profile.binding.keyRefs
      require (profile.unionSize merged ≤ maxBindingKeyRefs)
        (validationError "binding key_refs exceed the bounded size with seed references")
      return { profile.binding with keyRefs := merged }
  | .remove envName => do
      let name ← normalizeEnvName envName "binding key_refs"
      return { profile.binding with keyRefs := profile.binding.keyRefs.erase name }

/-- `_binding_profile` lets the call in. -/
def isMutable : Bool :=
  profile.lifecycleState = .pending || profile.lifecycleState = .active

def apply (request : BindingRequest) (profile : BindingProfile) :
    Except RuntimeError (ModelBindingReceipt × BindingProfile) := do
  require (profile.isMutable = true)
    (validationError "profile binding is not mutable in its state")
  let binding ← profile.change request
  return profile.store binding

/-- `effective_model_selection(profile)["key_refs"]`. -/
def effectiveKeyRefs : KeyRefs :=
  profile.binding.keyRefs ∪ profile.seed.refs

/-- A profile whose `model_override` is `{}`. -/
def unbound (lifecycleState : RuntimeProfileLifecycleState) (seed : SeedKeyRefs) :
    BindingProfile :=
  ⟨lifecycleState, seed, 0, ⟨none, none, none, ∅⟩⟩

end BindingProfile

end Foundry
