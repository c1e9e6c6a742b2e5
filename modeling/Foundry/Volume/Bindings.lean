import Mathlib.Data.List.Sort
import Foundry.Lib.Run
import Foundry.Lib.Table
import Foundry.Volume.Directory

/-!
# Model bindings of a profile

`apply_binding` of `profile_store.py`.  A call reads the server key in one locked section and
rewrites the two files in a second one, so sections of other calls may come between.  Each
file is replaced in one step; the second replacement may fail or be cut off by a crash.
-/

set_option autoImplicit false

namespace Foundry

structure BindingCall where
  generation : Int
  keyRefs : Table String String

inductive BindingApplyStatus where
  | applied
  | current
  | repairRequired (code : String)
deriving DecidableEq, Repr

structure BindingReceipt where
  status : BindingApplyStatus
  generation : Int
deriving DecidableEq, Repr

/-- `_read_json(path) or {}`, then `.get("generation", 0)`. -/
def recordedGeneration : Option JsonFile → Json
  | some (.dict members) => ((Json.obj members).get? "generation").getD (.int 0)
  | _ => .int 0

def ProfileDir.appliedGeneration (profile : ProfileDir) : Option Int :=
  match recordedGeneration profile.binding with
  | .int applied => if applied < 0 then none else some applied
  | _ => none

def resolveRefs (resolver : String → Option (List Char)) :
    List (String × String) → Except String (List (String × List Char))
  | [] => .ok []
  | (name, reference) :: rest =>
    if !isEnvName name then .error "invalid_binding_reference"
    else
      match resolveCredential resolver reference with
      | .error _ => .error "credential_resolution_failed"
      | .ok value => (resolveRefs resolver rest).map fun resolved => (name, value) :: resolved

/-- The lines of `.env`: the server key, then the resolved keys by name. -/
def bindingLines (serverKey : List Char) (resolved : List (String × List Char)) :
    List (List Char) :=
  envLine apiServerKey serverKey ::
    (resolved.insertionSort fun left right => left.1 ≤ right.1).map fun entry =>
      envLine entry.1.toList entry.2

inductive BindingDecision where
  | refuse (code : String)
  | skip (applied : Int)
  | rewrite (resolved : List (String × List Char))
deriving DecidableEq, Repr

def ProfileDir.isComplete (profile : ProfileDir) : Bool :=
  profile.env.isSome &&
    profile.manifest.any fun manifest => manifest.completionState == some (.str "complete")

def ProfileDir.decideBinding (profile : ProfileDir) (call : BindingCall)
    (resolver : String → Option (List Char)) : BindingDecision :=
  if !profile.isComplete then .refuse "incomplete_profile"
  else
    match profile.appliedGeneration with
    | none => .refuse "invalid_binding_state"
    | some applied =>
      if call.generation ≤ applied then .skip applied
      else
        match resolveRefs resolver call.keyRefs.rows with
        | .error code => .refuse code
        | .ok resolved => .rewrite resolved

def ProfileDir.withBinding (profile : ProfileDir) (generation : Int) : ProfileDir :=
  { profile with binding := some (.dict [("generation", .int generation)]) }

/-! ## Runs -/

structure BindingCaller where
  call : BindingCall
  serverKey : List Char

inductive BindingWrites where
  | both
  | envOnly
  | neither
deriving DecidableEq, Repr

/-- The profile with the calls under way.  `written` is the generation whose keys `.env`
carries; the code does not store it. -/
structure BindingWorld where
  profile : ProfileDir
  written : Int
  callers : Table Nat BindingCaller

inductive BindingOperation where
  /-- The checks of the arguments and `read_api_key`. -/
  | read (caller : Nat) (call : BindingCall)
  /-- The second section. -/
  | apply (caller : Nat) (resolver : String → Option (List Char)) (writes : BindingWrites)
  /-- The second section, cut off by a crash between the two replacements. -/
  | interrupt (caller : Nat) (resolver : String → Option (List Char))
  /-- The second section is not entered in time. -/
  | timeOut (caller : Nat)
  | crash

inductive BindingError where
  | profileInput (message : String)
  | noCaller
deriving DecidableEq, Repr

def BindingCall.failed (call : BindingCall) (code : String) : BindingReceipt :=
  ⟨.repairRequired code, call.generation⟩

def BindingWorld.read (caller : Nat) (call : BindingCall) (world : BindingWorld) :
    Except BindingError (Option BindingReceipt × BindingWorld) :=
  if call.generation < 1 then .error (.profileInput "binding generation is invalid")
  else if maxCredentials < call.keyRefs.entries.length then
    .error (.profileInput "binding key references are invalid")
  else
    match world.profile.readApiKey with
    | .error _ => .ok (some (call.failed "incomplete_profile"), world)
    | .ok serverKey =>
      .ok (none, { world with callers := world.callers.insert caller ⟨call, serverKey⟩ })

/-- `.env` with the keys of a call. -/
def BindingWorld.writeEnv (world : BindingWorld) (caller : BindingCaller)
    (resolved : List (String × List Char)) : BindingWorld :=
  { world with
    profile := world.profile.withEnv (joinLines (bindingLines caller.serverKey resolved))
    written := caller.call.generation }

def BindingWorld.writeRecord (world : BindingWorld) (generation : Int) : BindingWorld :=
  { world with profile := world.profile.withBinding generation }

def BindingWorld.finish (caller : BindingCaller) (resolver : String → Option (List Char))
    (writes : BindingWrites) (world : BindingWorld) : BindingReceipt × BindingWorld :=
  match world.profile.decideBinding caller.call resolver with
  | .refuse code => (caller.call.failed code, world)
  | .skip applied => (⟨.current, applied⟩, world)
  | .rewrite resolved =>
    match writes with
    | .neither => (caller.call.failed "profile_store_unavailable", world)
    | .envOnly =>
      (caller.call.failed "profile_store_unavailable", world.writeEnv caller resolved)
    | .both =>
      (⟨.applied, caller.call.generation⟩,
        (world.writeEnv caller resolved).writeRecord caller.call.generation)

def BindingWorld.apply :
    BindingOperation → BindingWorld → Except BindingError (Option BindingReceipt × BindingWorld)
  | .read caller call, world => world.read caller call
  | .apply caller resolver writes, world =>
    match world.callers.lookup caller with
    | none => .error .noCaller
    | some pending =>
      let finished := world.finish pending resolver writes
      .ok (some finished.1,
        { finished.2 with callers := finished.2.callers.erase caller })
  | .interrupt caller resolver, world =>
    match world.callers.lookup caller with
    | none => .error .noCaller
    | some pending =>
      .ok (none, { (world.finish pending resolver .envOnly).2 with callers := ∅ })
  | .timeOut caller, world =>
    match world.callers.lookup caller with
    | none => .error .noCaller
    | some pending =>
      .ok (some (pending.call.failed "lock_timeout"),
        { world with callers := world.callers.erase caller })
  | .crash, world => .ok (none, { world with callers := ∅ })

end Foundry
