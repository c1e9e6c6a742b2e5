import Foundry.Lib.Records
import Foundry.Evolution.Origins
import Foundry.Evolution.RoutineRows

/-!
# Referential integrity

The foreign keys that are not containment: an Execution belongs to a profile of its
own Workspace, a binding to its profile, an approval and an outbox row to an
Execution.  They hold in every reached database, a deleted profile does not come
back, and a row leaves only together with its owner.
-/

set_option autoImplicit false

namespace Foundry

open Population Raise
open Relation (ReflTransGen)

variable {D : Type}

def Db.Removed (db : Db D) (id : Uuid) : Prop :=
  id < db.supply ∧ db.executions.lookup id = none

structure Db.Intact (db : Db D) : Prop where
  numbered : db.population.Numbered
  home : ∀ id execution, db.executions.lookup id = some execution →
    ∃ profile, db.profiles.lookup execution.profile = some profile ∧
      profile.workspace = execution.workspace
  bound : ∀ id binding, db.bindings.lookup id = some binding →
    ∃ profile, db.profiles.lookup id = some profile
  deleted : ∀ id workspace, db.deletedProfiles.lookup id = some workspace →
    db.profiles.lookup id = none
  asked : ∀ request approval, db.approvals.lookup request = some approval →
    ∃ execution, db.executions.lookup approval.attempt.execution = some execution ∧
      approval.profile = execution.profile
  posted : ∀ id row, db.deliveries.lookup id = some row →
    ∃ execution, db.executions.lookup id.1.execution = some execution

theorem Db.intact_empty : (Db.empty : Db D).Intact := by
  constructor <;> intro id row stored <;> simp [Db.empty, Db.population] at stored

section Writes

variable [DecidableEq D] {env : Env D} {call : Call D} {start db next : Db D}

/-! ## The foreign keys -/

theorem Write.keepsHome (write : Write env call start db next) (intact : db.Intact)
    (id : Uuid) (later : Execution D) (present : next.executions.lookup id = some later) :
    ∃ profile, next.profiles.lookup later.profile = some profile ∧
      profile.workspace = later.workspace := by
  rcases write.source id later present with ⟨execution, stored, change⟩ | created
  · obtain ⟨profile, found, home⟩ := intact.home id execution stored
    have sameProfile : later.profile = execution.profile := by
      rcases change with rfl | change
      · rfl
      · exact change.keepsProfile
    have sameWorkspace : later.workspace = execution.workspace := by
      rcases change with rfl | change
      · rfl
      · exact change.keepsWorkspace
    rcases write.profileSurvives found with ⟨kept, held, same⟩ | ⟨purged, _⟩
    · exact ⟨kept, by rw [sameProfile]; exact held, by rw [same, home, sameWorkspace]⟩
    · exact absurd sameProfile (purged later id present)
  · obtain ⟨profile, stored, home⟩ := created.home
    exact ⟨profile, by rw [created.written]; exact stored, home⟩

theorem Write.keepsBound (write : Write env call start db next) (intact : db.Intact)
    (id : Uuid) (later : ConversationBinding) (present : next.bindings.lookup id = some later) :
    ∃ profile, next.profiles.lookup id = some profile := by
  have owned : ∃ profile, db.profiles.lookup id = some profile := by
    cases write.bindingSource present with
    | kept stored => exact intact.bound id later stored
    | rotated binding _ _ stored => exact intact.bound id binding stored
    | reserved profile stored | created profile _ stored => exact ⟨profile, stored⟩
  obtain ⟨profile, stored⟩ := owned
  rcases write.profileSurvives stored with ⟨kept, held, _⟩ | ⟨_, unbound, _⟩
  · exact ⟨kept, held⟩
  · rw [unbound] at present
    cases present

theorem Write.keepsDeleted (write : Write env call start db next) (intact : db.Intact)
    (id workspace : Uuid) (deleted : next.deletedProfiles.lookup id = some workspace) :
    next.profiles.lookup id = none := by
  cases write with
  | createProfile other _ _ _ _ _ _ undeleted =>
    have different : id ≠ other := by
      rintro rfl
      exact absurd (undeleted.symm.trans deleted) nofun
    simp only [Db.putProfile, AList.lookup_insert_ne different]
    exact intact.deleted id workspace deleted
  | profile other _ _ stored =>
    have absent := intact.deleted id workspace deleted
    have different : id ≠ other := by
      rintro rfl
      rw [stored] at absent
      cases absent
    simp only [Db.putProfile, AList.lookup_insert_ne different]
    exact absent
  | forgetMaterializations =>
    simp only [Db.forgetMaterializations, Table.lookup_updateAll,
      intact.deleted id workspace deleted, Option.map_none]
  | decideApproval _ _ _ _ decides =>
    obtain ⟨_, rfl⟩ := recordApprovalDecision_frame decides
    exact intact.deleted id workspace deleted
  | compareAndSet _ _ _ _ _ _ _ sets =>
    obtain ⟨_, rfl⟩ := compareAndSetSession_frame sets
    exact intact.deleted id workspace deleted
  | purge _ profileId _ _ _ _ _ _ _ _ purges =>
    obtain ⟨_, _, _, _, _, _, tombstones, profiles⟩ := purgeProfile_eq purges
    rw [profiles]
    by_cases purged : id = profileId
    · rw [purged]
      exact AList.lookup_erase _ _
    · rw [AList.lookup_erase_ne purged]
      rw [tombstones, AList.lookup_insert_ne purged] at deleted
      exact intact.deleted id workspace deleted
  | _ => exact intact.deleted id workspace deleted

theorem Write.ownerSurvives (write : Write env call start db next) (intact : db.Intact) {id : Uuid}
    {execution : Execution D} (stored : db.executions.lookup id = some execution) :
    (∃ later, next.executions.lookup id = some later ∧ later.profile = execution.profile) ∨
      next.Purged id execution.profile := by
  rcases write.survives stored intact.numbered with
    ⟨later, present, change⟩ | purged
  · refine .inl ⟨later, present, ?_⟩
    rcases change with rfl | change
    · rfl
    · exact change.keepsProfile
  · exact .inr purged

theorem Write.keepsAsked (write : Write env call start db next) (intact : db.Intact)
    (request : Uuid) (later : ApprovalRequest)
    (present : next.approvals.lookup request = some later) :
    ∃ execution, next.executions.lookup later.attempt.execution = some execution ∧
      later.profile = execution.profile := by
  have owned : ∃ execution, db.executions.lookup later.attempt.execution = some execution ∧
      later.profile = execution.profile := by
    rcases write.approvalSource present with
      ⟨approval, stored, step⟩ |
      ⟨execution, _, _, _, _, _, _, stored, _, _, _, opened⟩
    · obtain ⟨execution, found, same⟩ := intact.asked request approval stored
      rcases step with rfl | step
      · exact ⟨execution, found, same⟩
      · have kept := step.keepsRequest
        exact ⟨execution, by rw [kept.attempt]; exact found, kept.profile.trans same⟩
    · exact ⟨execution, stored, congrArg ApprovalRequest.profile opened⟩
  obtain ⟨execution, stored, same⟩ := owned
  rcases write.ownerSurvives intact stored with ⟨kept, found, profile⟩ | purged
  · exact ⟨kept, found, same.trans profile.symm⟩
  · exact absurd same (purged.approvals request later present)

theorem Write.keepsPosted (write : Write env call start db next) (intact : db.Intact)
    (id : DeliveryId) (later : ExecutionEventDelivery)
    (present : next.deliveries.lookup id = some later) :
    ∃ execution, next.executions.lookup id.1.execution = some execution := by
  have owned : ∃ execution, db.executions.lookup id.1.execution = some execution := by
    rcases write.deliverySource present with
      ⟨row, stored, _⟩ | ⟨_, _, execution, _, _, _, _, stored, _⟩
    · exact intact.posted id row stored
    · exact ⟨execution, stored⟩
  obtain ⟨execution, stored⟩ := owned
  rcases write.ownerSurvives intact stored with ⟨kept, found, _⟩ | purged
  · exact ⟨kept, found⟩
  · exact absurd rfl (purged.deliveries id later present)

theorem Write.intact (write : Write env call start db next) (intact : db.Intact) :
    next.Intact where
  numbered := write.units.numbered intact.numbered
  home := write.keepsHome intact
  bound := write.keepsBound intact
  deleted := write.keepsDeleted intact
  asked := write.keepsAsked intact
  posted := write.keepsPosted intact

theorem Write.removed (write : Write env call start db next) (id : Uuid)
    (removed : db.Removed id) : next.Removed id :=
  write.units.removed id removed.1 removed.2

end Writes

/-! ## Along a run -/

section Runs

variable [DecidableEq D] (env : Env D)

/-- An invariant of the database and a relation between two moments of it, along the
writes of every call.  `During` is what holds inside a call, of its start and of the
database now; the condition is on the database before each call. -/
theorem run_carries (Condition : Db D → Call D → Prop) (Invariant : Db D → Prop)
    (During : Call D → Db D → Db D → Prop) (Related : Db D → Db D → Prop)
    (reflexive : ∀ db, Related db db) (transitive : ∀ {first second third},
      Related first second → Related second third → Related first third)
    (enter : ∀ call db, Invariant db → Condition db call → During call db db)
    (write : ∀ call start db next, Write env call start db next → During call start db →
      During call start next ∧ Related db next)
    (leave : ∀ call start db, During call start db → Invariant db)
    (db : Db D) (calls : List (Call D)) (holds : Invariant db)
    (meets : Run.Meets (apply env) Condition db calls) :
    Invariant (run env db calls) ∧ Related db (run env db calls) := by
  refine Run.relates_where Condition Invariant Related reflexive transitive ?_ db calls holds meets
  intro db call answer next condition holds success
  have carried := (apply_evolution env call db next answer success).carries (During call db)
    Related reflexive transitive (write call db) (enter call db holds condition)
  exact ⟨leave call db next carried.1, carried.2⟩

theorem run_keeps (Invariant : Db D → Prop)
    (write : ∀ call start db next, Write env call start db next → Invariant db → Invariant next)
    (db : Db D) (calls : List (Call D)) (holds : Invariant db) : Invariant (run env db calls) :=
  (run_carries env (fun _ _ => True) Invariant (fun _ _ db => Invariant db) (fun _ _ => True)
    (fun _ => trivial) (fun _ _ => trivial) (fun _ _ holds _ => holds)
    (fun call start db next step holds => ⟨write call start db next step holds, trivial⟩)
    (fun _ _ _ holds => holds) db calls holds (Run.meets_of_forall _ (fun _ _ => trivial) db calls)).1

theorem run_intact {db : Db D} (calls : List (Call D)) (intact : db.Intact) :
    (run env db calls).Intact :=
  run_keeps env Db.Intact (fun _ _ _ _ write => write.intact) db calls intact

end Runs

/-! ## The commanded work -/

/-- Two states of one Execution: the command is the same, and so is the run of its
routine, if it has one. -/
structure Execution.SameWork (execution next : Execution D) : Prop where
  command : next = { execution with
    status := next.status, attempts := next.attempts, routine := next.routine }
  ordinary : execution.routine = none → next.routine = none
  run : ∀ routine, execution.routine = some routine →
    ∃ later, next.routine = some later ∧ routine.SameRun later

namespace Execution.SameWork

variable {execution next third : Execution D}

theorem refl (execution : Execution D) : execution.SameWork execution :=
  ⟨rfl, fun ordinary => ordinary, fun routine has => ⟨routine, has, .refl routine⟩⟩

theorem trans (earlier : execution.SameWork next) (later : next.SameWork third) :
    execution.SameWork third where
  command := by
    rw [later.command, earlier.command]
  ordinary := fun ordinary => later.ordinary (earlier.ordinary ordinary)
  run := by
    intro routine has
    obtain ⟨middle, isMiddle, before⟩ := earlier.run routine has
    obtain ⟨last, isLast, after⟩ := later.run middle isMiddle
    exact ⟨last, isLast, before.trans after⟩

theorem workspace (same : execution.SameWork next) : next.workspace = execution.workspace := by
  rw [same.command]

theorem profile (same : execution.SameWork next) : next.profile = execution.profile := by
  rw [same.command]

end Execution.SameWork

variable {call : Call D} {env : Env D}

theorem Change.sameWork [DecidableEq D] {db : Db D} {id : Uuid}
    {execution next : Execution D} (change : Change env call db id execution next) :
    execution.SameWork next :=
  ⟨change.keepsIdentity, change.routine_eq_none_iff.mpr, fun _ has => change.sameRun has⟩

theorem Write.workSource [DecidableEq D] {start db next : Db D}
    (write : Write env call start db next) (id : Uuid) (later : Execution D)
    (present : next.executions.lookup id = some later) :
    (∃ execution, db.executions.lookup id = some execution ∧ execution.SameWork later ∧
      (later.routine = none → execution.routine = none)) ∨
    Created env call db next id later := by
  rcases write.source id later present with ⟨execution, stored, rfl | change⟩ | created
  · exact .inl ⟨later, stored, .refl later, fun ordinary => ordinary⟩
  · exact .inl ⟨execution, stored, change.sameWork, change.routine_eq_none_iff.mp⟩
  · exact .inr created

def workRule [DecidableEq D] (env : Env D) : UnitRule env where
  Condition := fun _ _ _ _ => True
  Holds := fun _ _ => True
  Related := Execution.SameWork
  reflexive := .refl
  transitive := .trans
  birth := fun _ _ _ _ _ => ⟨trivial, trivial⟩
  change := fun _ _ _ _ _ _ _ change => ⟨⟨trivial, trivial⟩, change.sameWork⟩

end Foundry
