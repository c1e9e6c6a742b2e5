import Foundry.Evolution.Simulation

/-!
# Generation fencing

A Workspace's generation never decreases, and a runtime whose credential carries
an earlier generation than the stored one can do nothing: every operation that
takes a runtime context compares the two before it answers or writes.
-/

set_option autoImplicit false

namespace Foundry

open Raise

variable {D : Type}

def Operation.runtimeContext : Operation D → Option RuntimeContext
  | .claimNextExecution context _ _ => some context
  | .renewLease context _ _ => some context
  | .appendRuntimeEvent context _ _ _ => some context
  | .updateSessionBinding context _ _ _ => some context
  | .bindRoutineSession context _ _ _ _ => some context
  | .acknowledgeStopped context _ _ _ _ => some context
  | .completeAttempt context _ _ _ _ => some context
  | .failAttempt context _ _ _ _ => some context
  | .appendRuntimeRoutineResult context _ _ _ => some context
  | .readRuntimeApproval context _ _ _ => some context
  | .acceptRuntimeReadiness context _ _ _ => some context
  | .acceptMaterializationReceipt context _ _ _ _ _ _ => some context
  | .acceptCleanupReceipt context _ _ _ _ _ _ _ => some context
  | _ => none

/-- The credential is of the Workspace's current generation. -/
def RuntimeContext.IsCurrent (context : RuntimeContext) (db : Db D) : Prop :=
  ∃ workspace, db.workspaces.lookup context.workspace = some workspace ∧
    workspace.machineGeneration = context.machineGeneration

variable [DecidableEq D]

section Gates

variable (env : Env D) (now : Instant) (context : RuntimeContext) (db next : Db D)

section

variable (id : AttemptId) (leaseToken : String)

theorem finishAttempt_isCurrent (args : TerminalArgs) (receipt : TerminalReceipt)
    (success : finishAttempt env now context id leaseToken args db = .ok (receipt, next)) :
    context.IsCurrent db := by
  simp only [finishAttempt, bind_eq_ok, orRaise_eq_ok, require_eq_ok] at success
  obtain ⟨_, _, workspace, stored, _, current, _⟩ := success
  exact ⟨workspace, stored, current⟩

theorem appendRuntimeRoutineResult_isCurrent (request : RoutineResultRequest)
    (receipt : RoutineTerminalReceipt)
    (success : appendRuntimeRoutineResult env now context id leaseToken request db =
      .ok (receipt, next)) :
    context.IsCurrent db := by
  simp only [appendRuntimeRoutineResult, bind_eq_ok, orRaise_eq_ok, require_eq_ok] at success
  obtain ⟨_, _, workspace, stored, _, current, _⟩ := success
  exact ⟨workspace, stored, current⟩

theorem completeAttempt_isCurrent (receipt : Json)
    (terminalEvent : Option TerminalEvent) (answer : TerminalReceipt)
    (success : completeAttempt env now context id leaseToken receipt terminalEvent db =
      .ok (answer, next)) :
    context.IsCurrent db := by
  obtain ⟨_, finishes⟩ := completeAttempt_cases env db next now context id leaseToken receipt
    terminalEvent answer success
  exact finishAttempt_isCurrent env now context db next id leaseToken _ answer finishes

theorem failAttempt_isCurrent (failure : Failure)
    (terminalEvent : Option TerminalEvent) (answer : TerminalReceipt)
    (success : failAttempt env now context id leaseToken failure terminalEvent db =
      .ok (answer, next)) :
    context.IsCurrent db := by
  rcases failAttempt_cases env db next now context id leaseToken failure terminalEvent answer
      success with ⟨_, ⟨_, result, _, recorded, _⟩ | ⟨_, _, finishes⟩⟩
  · have current := appendRuntimeRoutineResult_isCurrent env now context _ _ id leaseToken _
      result recorded
    split at current <;> exact current
  · exact finishAttempt_isCurrent env now context db next id leaseToken _ answer finishes

end

end Gates

theorem apply_isCurrent
    (env : Env D) (call : Call D) (db next : Db D) (answer : Reply D) (context : RuntimeContext)
    (carries : call.operation.runtimeContext = some context)
    (success : apply env call db = .ok (answer, next)) :
    context.IsCurrent db := by
  obtain ⟨now, operation⟩ := call
  cases operation <;> simp only [Operation.runtimeContext, Option.some.injEq, reduceCtorEq]
    at carries <;> subst carries <;> simp only [apply] at success <;>
    obtain ⟨value, success, _⟩ := (reply_eq_ok _ _ _ _).mp success
  case completeAttempt =>
    exact completeAttempt_isCurrent env now _ db next _ _ _ _ value success
  case failAttempt =>
    exact failAttempt_isCurrent env now _ db next _ _ _ _ value success
  case appendRuntimeRoutineResult =>
    exact appendRuntimeRoutineResult_isCurrent env now _ db next _ _ _ value success
  case claimNextExecution =>
    simp only [claimNextExecution, claimGates, bind_eq_ok, orRaise_eq_ok, require_eq_ok] at success
    obtain ⟨_, ⟨_, _, workspace, stored, _, current, _⟩, _⟩ := success
    exact ⟨workspace, stored, current⟩
  case renewLease =>
    simp only [renewLease, bind_eq_ok, orRaise_eq_ok, require_eq_ok] at success
    obtain ⟨_, _, workspace, stored, _, current, _⟩ := success
    exact ⟨workspace, stored, current⟩
  case appendRuntimeEvent =>
    simp only [appendRuntimeEvent, bind_eq_ok, orRaise_eq_ok, require_eq_ok] at success
    obtain ⟨_, _, _, _, workspace, stored, _, current, _⟩ := success
    exact ⟨workspace, stored, current⟩
  case updateSessionBinding =>
    simp only [updateSessionBinding, bind_eq_ok, orRaise_eq_ok, require_eq_ok] at success
    obtain ⟨_, _, _, _, _, _, workspace, stored, _, current, _⟩ := success
    exact ⟨workspace, stored, current⟩
  case bindRoutineSession =>
    simp only [bindRoutineSession, bind_eq_ok, orRaise_eq_ok, require_eq_ok] at success
    obtain ⟨_, _, _, _, workspace, stored, _, current, _⟩ := success
    exact ⟨workspace, stored, current⟩
  case acknowledgeStopped =>
    simp only [acknowledgeStopped, bind_eq_ok, orRaise_eq_ok, require_eq_ok] at success
    obtain ⟨_, _, _, _, workspace, stored, _, current, _⟩ := success
    exact ⟨workspace, stored, current⟩
  case readRuntimeApproval =>
    simp only [readRuntimeApproval, bind_eq_ok, orRaise_eq_ok, require_eq_ok] at success
    obtain ⟨_, _, workspace, stored, _, current, _⟩ := success
    exact ⟨workspace, stored, current⟩
  case acceptRuntimeReadiness =>
    simp only [acceptRuntimeReadiness, bind_eq_ok, orRaise_eq_ok, require_eq_ok] at success
    obtain ⟨_, _, workspace, stored, _, current, _⟩ := success
    exact ⟨workspace, stored, current⟩
  case acceptMaterializationReceipt =>
    simp only [acceptMaterializationReceipt, bind_eq_ok, orRaise_eq_ok, require_eq_ok] at success
    obtain ⟨workspace, stored, _, current, _⟩ := success
    exact ⟨workspace, stored, current⟩
  case acceptCleanupReceipt =>
    simp only [acceptCleanupReceipt, bind_eq_ok, orRaise_eq_ok, require_eq_ok] at success
    obtain ⟨workspace, stored, _, current, _⟩ := success
    exact ⟨workspace, stored, current⟩

theorem raises_of_not_current
    (env : Env D) (call : Call D) (db : Db D) (context : RuntimeContext)
    (carries : call.operation.runtimeContext = some context)
    (stale : ¬ context.IsCurrent db) :
    (∃ error, apply env call db = .error error) ∧ step env db call = db := by
  cases result : apply env call db with
  | error error => exact ⟨⟨error, rfl⟩, Run.step_of_error db call error result⟩
  | ok pair =>
    obtain ⟨answer, next⟩ := pair
    exact absurd (apply_isCurrent env call db next answer context carries result) stale

theorem run_generations
    (env : Env D) (db : Db D) (calls : List (Call D)) (numbered : db.WorkspacesNumbered) :
    (run env db calls).WorkspacesNumbered ∧ GenerationsGrow db (run env db calls) := by
  refine Run.relates_where (fun _ _ => True) Db.WorkspacesNumbered GenerationsGrow
    GenerationsGrow.refl GenerationsGrow.trans ?_ db calls numbered
    (Run.meets_of_forall _ (fun _ _ => trivial) db calls)
  intro db call answer next _ numbered success
  have grows := (apply_evolution env call db next answer success).generations
  exact ⟨(grows numbered).1, grows⟩

omit [DecidableEq D] in
theorem empty_workspacesNumbered : (Db.empty : Db D).WorkspacesNumbered := by
  intro id workspace stored
  simp [Db.empty] at stored

/-- Once a Workspace has a generation greater than `g`, it keeps one, and every
runtime operation whose credential carries `g` raises and leaves the database as
it was. -/
theorem stale_generation_is_fenced
    (env : Env D) (first rest : List (Call D)) (id : Uuid) (workspace : Workspace)
    (stored : (run env Db.empty first).workspaces.lookup id = some workspace) :
    (∃ later, (run env Db.empty (first ++ rest)).workspaces.lookup id = some later ∧
        workspace.machineGeneration ≤ later.machineGeneration) ∧
      ∀ call context, call.operation.runtimeContext = some context → context.workspace = id →
        context.machineGeneration < workspace.machineGeneration →
        (∃ error, apply env call (run env Db.empty (first ++ rest)) = .error error) ∧
          step env (run env Db.empty (first ++ rest)) call = run env Db.empty (first ++ rest) := by
  have split : run env Db.empty (first ++ rest) = run env (run env Db.empty first) rest :=
    Run.run_append Db.empty first rest
  have numbered := (run_generations env Db.empty first empty_workspacesNumbered).1
  have grows := (run_generations env (run env Db.empty first) rest numbered).2
  obtain ⟨later, found, grown⟩ := (grows numbered).2 id workspace stored
  rw [split]
  refine ⟨⟨later, found, grown⟩, ?_⟩
  intro call context carries same older
  refine raises_of_not_current env call _ context carries ?_
  rintro ⟨current, isCurrent, generation⟩
  rw [same, found, Option.some.injEq] at isCurrent
  subst isCurrent
  omega

theorem replaced_runtime_is_fenced :
    (∃ error, apply Env.plain ⟨0, .claimNextExecution ⟨0, 1⟩ 60 1⟩
        (run Env.plain Db.empty (bringUp ++ [replaceMachine])) = .error error) ∧
      step Env.plain (run Env.plain Db.empty (bringUp ++ [replaceMachine]))
          ⟨0, .claimNextExecution ⟨0, 1⟩ 60 1⟩ =
        run Env.plain Db.empty (bringUp ++ [replaceMachine]) := by
  have advanced : ((run Env.plain Db.empty (bringUp ++ [replaceMachine])).workspaces.lookup
      0).any (fun workspace => decide (1 < workspace.machineGeneration)) = true := by decide
  obtain ⟨workspace, stored, newer⟩ := (Option.any_eq_true _ _).mp advanced
  have fenced := (stale_generation_is_fenced Env.plain (bringUp ++ [replaceMachine]) [] 0
    workspace stored).2 ⟨0, .claimNextExecution ⟨0, 1⟩ 60 1⟩ ⟨0, 1⟩ rfl rfl
    (of_decide_eq_true newer)
  rw [List.append_nil] at fenced
  exact fenced

end Foundry
