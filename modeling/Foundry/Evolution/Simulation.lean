import Foundry.Evolution.Deliveries
import Foundry.Evolution.Lifecycle

/-!
# Runs

Every call that succeeds is an `Evolution`.  A property of Executions that births
have and changes keep therefore holds along every run, and so does a relation
between an Execution now and the same Execution later.  Both may rest on a
condition that the run meets before each call.
-/

set_option autoImplicit false

namespace Foundry

open Population

variable {D : Type} [DecidableEq D]

theorem apply_evolution
    (env : Env D) (call : Call D) (db next : Db D) (answer : Reply D)
    (success : apply env call db = .ok (answer, next)) :
    Evolution env call db db next := by
  obtain ⟨now, operation⟩ := call
  cases operation <;> simp only [apply] at success <;>
    obtain ⟨value, success, _⟩ := (reply_eq_ok _ _ _ _).mp success
  case registerWorkspace => exact registerWorkspace_evolution env _ db db next _ value success
  case claimOrWait => exact claimOrWait_evolution env ⟨now, _⟩ db next _ _ _ value rfl success
  case casPhase => exact casPhase_evolution env ⟨now, _⟩ db db next rfl success
  case bindIdle => exact bindIdle_evolution env ⟨now, _⟩ db next rfl success
  case handleFailure => exact handleFailure_evolution env ⟨now, _⟩ db db next rfl success
  case maintainWorkspace => exact maintainWorkspace_evolution env ⟨now, _⟩ db db next _ _ value rfl success
  case confirmMachineStoppedAndFence =>
    exact confirmMachineStoppedAndFence_evolution env ⟨now, _⟩ db next _ _ _ _ value rfl success
  case ensureRuntimeProfile =>
    exact ensureRuntimeProfile_evolution env ⟨now, _⟩ db db next _ _ _ _ value rfl success
  case requestProfileCleanup =>
    exact requestProfileCleanup_evolution env ⟨now, _⟩ db db next _ _ _ _ _ value rfl success
  case expireProfileCleanup =>
    exact expireProfileCleanup_evolution env ⟨now, _⟩ db next _ value rfl success
  case coordinateProfileDeletion =>
    exact coordinateProfileDeletion_evolution env ⟨now, _⟩ db next _ _ _ _ _ value rfl success
  case createExecution =>
    exact createExecution_evolution env ⟨now, _⟩ db next _ _ _ _ value rfl success
  case createExecutionIntent =>
    exact createExecutionIntent_evolution env ⟨now, _⟩ db next _ value rfl success
  case reconcileExecutionIntent =>
    exact reconcileExecutionIntent_evolution env _ db db next _ _ value success
  case acceptRoutineDispatch =>
    exact acceptRoutineDispatch_evolution env ⟨now, _⟩ db next _ value rfl success
  case decideRoutineApproval =>
    exact decideRoutineApproval_evolution env ⟨now, _⟩ db next _ value rfl success
  case cancelRoutineWait =>
    exact cancelRoutineWait_evolution env ⟨now, _⟩ db next _ value rfl success
  case expireRoutineApproval =>
    exact expireRoutineApproval_evolution env ⟨now, _⟩ db next _ _ value rfl success
  case requestRoutineApproval =>
    exact requestRoutineApproval_evolution env ⟨now, _⟩ db next _ _ value rfl success
  case recordRoutineResult =>
    exact recordRoutineResult_evolution env ⟨now, _⟩ db next _ _ _ value rfl success
  case recordApprovalDecision =>
    exact .single (.decideApproval _ value next rfl success)
  case acceptRuntimeReadiness =>
    exact acceptRuntimeReadiness_evolution env ⟨now, _⟩ db db next _ _ _ _ value rfl success
  case acceptMaterializationReceipt =>
    exact acceptMaterializationReceipt_evolution env ⟨now, _⟩ db next _ _ _ _ _ _ _ value rfl success
  case acceptCleanupReceipt =>
    exact acceptCleanupReceipt_evolution env ⟨now, _⟩ db next _ _ _ _ _ _ _ _ value rfl success
  case claimNextExecution =>
    exact claimNextExecution_evolution env ⟨now, _⟩ db next _ _ _ value rfl success
  case renewLease => exact renewLease_evolution env ⟨now, _⟩ db next _ _ _ value rfl success
  case appendRuntimeEvent =>
    exact appendRuntimeEvent_evolution env ⟨now, _⟩ db next _ _ _ rfl success
  case updateSessionBinding =>
    exact updateSessionBinding_evolution env ⟨now, _⟩ db next _ _ _ rfl success
  case bindRoutineSession =>
    exact bindRoutineSession_evolution env ⟨now, _⟩ db next _ _ _ rfl success
  case compareAndSetSession =>
    exact .single (.compareAndSet _ _ _ _ value next rfl success)
  case acknowledgeStopped =>
    exact acknowledgeStopped_evolution env ⟨now, _⟩ db next _ _ _ _ _ value rfl success
  case completeAttempt =>
    exact completeAttempt_evolution env ⟨now, _⟩ db next _ _ _ _ _ value rfl success
  case failAttempt =>
    exact failAttempt_evolution env ⟨now, _⟩ db next _ _ _ _ _ value rfl success
  case appendRuntimeRoutineResult =>
    exact appendRuntimeRoutineResult_evolution env ⟨now, _⟩ db next rfl rfl nofun rfl success
  case readRuntimeApproval =>
    exact readRuntimeApproval_evolution env ⟨now, _⟩ db next _ _ _ success
  case authorizeAttemptMutation =>
    exact authorizeAttemptMutation_evolution env ⟨now, _⟩ db next _ _ _ _ _ value rfl success
  case claimEventDeliveries =>
    exact claimEventDeliveries_evolution env ⟨now, _⟩ db next _ value rfl success
  case markEventDelivery =>
    exact markEventDelivery_evolution env ⟨now, _⟩ db next _ _ _ _ value rfl success
  case deferForSequenceGap =>
    exact deferForSequenceGap_evolution env ⟨now, _⟩ db next _ value rfl success
  case wakeAttemptSuccessors =>
    exact wakeAttemptSuccessors_evolution env ⟨now, _⟩ db next _ value rfl success
  case redriveEventDeliveries =>
    exact redriveEventDeliveries_evolution env ⟨now, _⟩ db next _ _ _ value rfl success

theorem step_relates (env : Env D) (call : Call D) (db : Db D)
    (Related : Execution D → Execution D → Prop)
    (reflexive : ∀ execution, Related execution execution)
    (transitive : ∀ {first second third},
      Related first second → Related second third → Related first third)
    (change : ∀ id execution next, Change env call db id execution next → Related execution next)
    (numbered : db.population.Numbered) (id : Uuid) (execution later : Execution D)
    (stored : db.executions.lookup id = some execution)
    (present : (step env db call).executions.lookup id = some later) :
    Related execution later := by
  rcases Run.step_cases (apply env) db call with ⟨answer, next, success, same⟩ | same
  · rw [step, same] at present
    obtain ⟨former, found, related⟩ :=
      (apply_evolution env call db next answer success).units.relates (fun _ _ => True)
        (fun _ => Related) (fun _ => reflexive) transitive
        (fun id execution next _ changes => ⟨trivial, change id execution next changes⟩)
        (fun _ _ _ => trivial) id later (numbered id execution stored) present
    have isFormer : execution = former := Option.some.inj (stored.symm.trans found)
    rw [isFormer]
    exact related
  · rw [step, same, stored] at present
    cases present
    exact reflexive execution

/-! ## Rules for Executions along a run -/

section Rules

variable (env : Env D)

abbrev UnitCondition (D : Type) := Call D → Db D → Uuid → Execution D → Prop

/-- The run makes every call in a state whose Executions all meet the condition. -/
def RunMeets (Condition : UnitCondition D) (db : Db D) (calls : List (Call D)) : Prop :=
  Run.Meets (apply env) (fun db call => db.population.All (Condition call db)) db calls

/-- What a later database keeps of the Executions of an earlier one: each of them
is still there, related to what it was, or was removed for good. -/
structure Db.Continues (Related : Execution D → Execution D → Prop) (db later : Db D) : Prop where
  supply : db.supply ≤ later.supply
  related : ∀ id execution, id < db.supply → later.executions.lookup id = some execution →
    ∃ former, db.executions.lookup id = some former ∧ Related former execution

/-- A property of Executions with its proof for single changes: what holds of each
Execution, what relates it to its later self, and the condition on the calls. -/
structure UnitRule where
  Condition : UnitCondition D
  Holds : Uuid → Execution D → Prop
  Related : Execution D → Execution D → Prop
  reflexive : ∀ execution, Related execution execution
  transitive : ∀ {first second third},
    Related first second → Related second third → Related first third
  birth : ∀ call db id execution, Born call execution →
    Holds id execution ∧ Condition call db id execution
  change : ∀ call db id execution next, Holds id execution → Condition call db id execution →
    Change env call db id execution next →
    (Holds id next ∧ Condition call db id next) ∧ Related execution next

namespace UnitRule

variable {env} (rule : UnitRule env)

theorem run_continues (db : Db D) (calls : List (Call D))
    (numbered : db.population.Numbered) (start : db.population.All rule.Holds)
    (meets : RunMeets env rule.Condition db calls) :
    ((run env db calls).population.Numbered ∧ (run env db calls).population.All rule.Holds) ∧
      db.Continues rule.Related (run env db calls) := by
  refine Run.relates_where _
    (fun db => db.population.Numbered ∧ db.population.All rule.Holds)
    (Db.Continues rule.Related) ?_ ?_ ?_ db calls ⟨numbered, start⟩ meets
  · intro db
    exact ⟨Nat.le_refl _, fun _ execution _ stored => ⟨execution, stored, rule.reflexive _⟩⟩
  · intro first second third earlier later
    refine ⟨Nat.le_trans earlier.supply later.supply, ?_⟩
    intro id execution drawn stored
    obtain ⟨middle, found, after⟩ :=
      later.related id execution (Nat.lt_of_lt_of_le drawn earlier.supply) stored
    obtain ⟨former, present, before⟩ := earlier.related id middle drawn found
    exact ⟨former, present, rule.transitive before after⟩
  · intro db call answer next condition invariant success
    have evolution := (apply_evolution env call db next answer success).units
    have both : db.population.All fun id execution =>
        rule.Holds id execution ∧ rule.Condition call db id execution :=
      fun id execution stored =>
        ⟨invariant.2 id execution stored, condition id execution stored⟩
    have kept := evolution.all
      (fun id execution => rule.Holds id execution ∧ rule.Condition call db id execution)
      (fun id execution => rule.birth call db id execution)
      (fun id execution next holds changes =>
        (rule.change call db id execution next holds.1 holds.2 changes).1)
      both
    refine ⟨⟨evolution.numbered invariant.1, fun id execution stored =>
      (kept id execution stored).1⟩, evolution.supply, ?_⟩
    intro id execution drawn stored
    exact evolution.relates
      (fun id execution => rule.Holds id execution ∧ rule.Condition call db id execution)
      (fun _ => rule.Related) (fun _ => rule.reflexive) rule.transitive
      (fun id execution next holds changes =>
        rule.change call db id execution next holds.1 holds.2 changes)
      both id execution drawn stored

omit [DecidableEq D] in
theorem empty_units (Holds : Uuid → Execution D → Prop) :
    (Db.empty : Db D).population.Numbered ∧ (Db.empty : Db D).population.All Holds := by
  constructor <;> intro id execution stored <;> simp [Db.empty, Db.population] at stored

section

variable (calls : List (Call D)) (meets : RunMeets env rule.Condition Db.empty calls)

include meets

theorem run_numbered :
    (run env Db.empty calls).population.Numbered :=
  (rule.run_continues Db.empty calls (empty_units rule.Holds).1 (empty_units rule.Holds).2
    meets).1.1

theorem holds
    (id : Uuid) (execution : Execution D)
    (stored : (run env Db.empty calls).executions.lookup id = some execution) :
    rule.Holds id execution :=
  (rule.run_continues Db.empty calls (empty_units rule.Holds).1 (empty_units rule.Holds).2
    meets).1.2 id execution stored

end

theorem relates (first rest : List (Call D))
    (meets : RunMeets env rule.Condition Db.empty (first ++ rest))
    (id : Uuid) (execution later : Execution D)
    (stored : (run env Db.empty first).executions.lookup id = some execution)
    (present : (run env Db.empty (first ++ rest)).executions.lookup id = some later) :
    rule.Related execution later := by
  have before := rule.run_continues Db.empty first (empty_units rule.Holds).1
    (empty_units rule.Holds).2 meets.append_left
  have after := rule.run_continues (run env Db.empty first) rest before.1.1 before.1.2
    meets.append_right
  have drawn : id < (run env Db.empty first).supply := before.1.1 id execution stored
  have split : run env Db.empty (first ++ rest) = run env (run env Db.empty first) rest :=
    Run.run_append Db.empty first rest
  rw [split] at present
  obtain ⟨former, found, related⟩ := after.2.related id later drawn present
  rw [stored, Option.some.injEq] at found
  exact found ▸ related

end UnitRule

theorem runMeets_of_mem (Condition : UnitCondition D) (db : Db D) (calls : List (Call D))
    (always : ∀ call ∈ calls, ∀ db id execution, Condition call db id execution) :
    RunMeets env Condition db calls :=
  Run.meets_of_mem _ db fun call member db id execution _ =>
    always call member db id execution

theorem RunMeets.imp {Condition Weaker : UnitCondition D} {db : Db D} {calls : List (Call D)}
    (weaker : ∀ call db id execution, Condition call db id execution →
      Weaker call db id execution)
    (meets : RunMeets env Condition db calls) : RunMeets env Weaker db calls :=
  Run.Meets.imp (fun db call all id execution stored =>
    weaker call db id execution (all id execution stored)) meets

theorem runMeets_of_forall (Condition : UnitCondition D)
    (always : ∀ call db id execution, Condition call db id execution)
    (db : Db D) (calls : List (Call D)) : RunMeets env Condition db calls :=
  Run.meets_of_forall _ (fun db call id execution _ => always call db id execution) db calls

end Rules

end Foundry
