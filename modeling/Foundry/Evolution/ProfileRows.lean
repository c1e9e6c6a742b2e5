import Foundry.Evolution.Bindings

/-!
# Profile rows

Where a stored profile comes from: it was there, a step rewrote it, a new generation
made it forget its materialization, or it is new.  An Ally has at most one profile in
a Workspace, and a routine stays the one that was dispatched.
-/

set_option autoImplicit false

namespace Foundry

open Raise

variable {D : Type}

inductive ProfileSource (env : Env D) (call : Call D) (start db next : Db D) (id : Uuid)
    (later : RuntimeProfile D) : Prop
  | kept (stored : db.profiles.lookup id = some later)
  | stepped (profile : RuntimeProfile D) (stored : db.profiles.lookup id = some profile)
      (step : ProfileStep env call start db id profile later)
  | forgotten (profile : RuntimeProfile D) (stored : db.profiles.lookup id = some profile)
      (active : profile.lifecycleState = .active)
      (forgets : later = profile.forgetMaterialization)
  | created (workspace : Uuid) (allyRef key : String) (seed : Option Json) (fingerprint : String)
      (unknown : db.profiles.lookup id = none)
      (undeleted : db.deletedProfiles.lookup id = none)
      (unique : ∀ other row, db.profiles.lookup other = some row → row.workspace = workspace →
        row.allyRef ≠ allyRef)
      (isPending : later = .pending workspace allyRef key seed fingerprint)
      (written : next = db.putProfile id later)

def Db.AlliesUnique (db : Db D) : Prop :=
  ∀ id other profile row, db.profiles.lookup id = some profile →
    db.profiles.lookup other = some row → row.workspace = profile.workspace →
    row.allyRef = profile.allyRef → other = id

def Db.RoutinesFrom (env : Env D) (Known : RoutineDispatch → Prop) (db : Db D) : Prop :=
  ∀ id execution routine, db.executions.lookup id = some execution →
    execution.routine = some routine →
    ∃ command, Known command ∧ execution.DispatchedBy env routine command

section Writes

variable [DecidableEq D] {env : Env D} {call : Call D} {start db next : Db D}

theorem Write.profileSource (write : Write env call start db next) (id : Uuid)
    (later : RuntimeProfile D) (present : next.profiles.lookup id = some later) :
    ProfileSource env call start db next id later := by
  cases write with
  | createProfile _ workspace allyRef key seed fingerprint unknown undeleted unique =>
    simp only [Db.putProfile, Table.lookup_insert_eq] at present
    split at present
    · next isNew =>
      subst isNew
      obtain rfl := Option.some.inj present
      exact .created workspace allyRef key seed fingerprint unknown undeleted unique rfl rfl
    · exact .kept present
  | profile _ given _ stored step =>
    simp only [Db.putProfile, Table.lookup_insert_eq] at present
    split at present
    · next isOther =>
      subst isOther
      obtain rfl := Option.some.inj present
      exact .stepped given stored step
    · exact .kept present
  | forgetMaterializations =>
    simp only [Db.forgetMaterializations, Table.lookup_updateAll, Option.map_eq_some_iff] at present
    obtain ⟨profile, stored, written⟩ := present
    split at written
    · next forgets => exact .forgotten profile stored forgets.2 written.symm
    · subst written
      exact .kept stored
  | decideApproval _ _ _ _ decides =>
    obtain ⟨_, rfl⟩ := recordApprovalDecision_frame decides
    exact .kept present
  | compareAndSet _ _ _ _ _ _ _ sets =>
    obtain ⟨_, rfl⟩ := compareAndSetSession_frame sets
    exact .kept present
  | purge _ _ _ _ _ _ _ _ _ _ purges =>
    obtain ⟨_, _, _, _, _, _, _, profiles⟩ := purgeProfile_eq purges
    rw [profiles] at present
    exact .kept (Table.lookup_of_erase present)
  | _ => exact .kept present

omit [DecidableEq D] in
theorem ProfileSource.same {id : Uuid} {later : RuntimeProfile D}
    (source : ProfileSource env call start db next id later) :
    (∃ profile, db.profiles.lookup id = some profile ∧ later.workspace = profile.workspace ∧
      later.allyRef = profile.allyRef) ∨
    (next = db.putProfile id later ∧ ∀ other row, db.profiles.lookup other = some row →
      row.workspace = later.workspace → row.allyRef ≠ later.allyRef) := by
  cases source with
  | kept stored => exact .inl ⟨later, stored, rfl, rfl⟩
  | stepped profile stored step => exact .inl ⟨profile, stored, step.same⟩
  | forgotten profile stored _ forgets =>
    subst forgets
    exact .inl ⟨profile, stored, rfl, rfl⟩
  | created _ _ _ _ _ _ _ unique isPending written =>
    subst isPending
    exact .inr ⟨written, unique⟩

theorem Write.alliesUnique (write : Write env call start db next) (unique : db.AlliesUnique) :
    next.AlliesUnique := by
  intro id other profile row present written home ally
  rcases (write.profileSource id profile present).same with
    ⟨former, stored, isHome, isAlly⟩ | ⟨isNew, apart⟩
  · rcases (write.profileSource other row written).same with
      ⟨twin, found, twinHome, twinAlly⟩ | ⟨_, apart⟩
    · exact unique id other former twin stored found
        (by rw [← twinHome, home, isHome]) (by rw [← twinAlly, ally, isAlly])
    · exact absurd (isAlly.symm.trans ally.symm) (apart id former stored (by rw [← isHome, home]))
  · rw [isNew, Db.putProfile, Table.lookup_insert_eq] at written
    split at written
    · next same => exact same
    · exact absurd ally (apart other row written home)

theorem Write.routinesFrom (write : Write env call start db next) (Known : RoutineDispatch → Prop)
    (known : ∀ command, call.operation = .acceptRoutineDispatch command → Known command)
    (origin : db.RoutinesFrom env Known) : next.RoutinesFrom env Known := by
  intro id later routine present has
  rcases write.workSource id later present with ⟨execution, stored, same, _⟩ | created
  · cases former : execution.routine with
    | none =>
      rw [same.ordinary former] at has
      cases has
    | some before =>
      obtain ⟨kept, isKept, run⟩ := same.run before former
      obtain rfl : kept = routine := Option.some.inj (isKept.symm.trans has)
      obtain ⟨command, isKnown, made⟩ := origin id execution before stored former
      refine ⟨command, isKnown, ?_, ?_, ?_, ?_⟩
      · rw [same.profile]
        exact made.profile
      · rw [run.dispatched]
        exact made.binding
      · rw [run.dispatched]
        exact made.ally
      · rw [run.dispatched]
        exact made.fingerprint
  · obtain ⟨command, asked, made⟩ := created.dispatched routine has
    exact ⟨command, known command asked, made⟩

end Writes

end Foundry
