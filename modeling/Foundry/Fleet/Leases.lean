import Foundry.Evolution.ClaimRows
import Foundry.Fleet.Invariants

/-!
# The work of a fleet

The events of the fleet keep the Executions, profiles and leases as the calls of the system
leave them, so what holds of these along the runs of the system holds in the fleet.
-/

set_option autoImplicit false

namespace Foundry

open Raise

variable {D : Type}

/-! ## Live leases -/

/-- An attempt of the Workspace has a lease in ACTIVE or STOPPING. -/
def Db.LiveIn (db : Db D) (workspaceId : Uuid) : Prop :=
  ∃ id execution attempt, db.attempt? id = some (execution, attempt) ∧
    execution.workspace = workspaceId ∧ attempt.hasUnresolvedLease = true

theorem Db.hasLiveLease_iff {db : Db D} (intact : db.Intact) (held : db.ClaimsHeld)
    (workspaceId : Uuid) : db.hasLiveLease workspaceId = true ↔ db.LiveIn workspaceId := by
  constructor
  · intro live
    obtain ⟨⟨id, lease⟩, member, holds⟩ := List.any_eq_true.mp live
    obtain ⟨unresolved, owned⟩ := of_decide_eq_true holds
    obtain ⟨execution, attempt, stored, found, isLease⟩ := (db.mem_leases id lease).mp member
    obtain ⟨_, known, workspace⟩ := (Option.any_eq_true _ _).mp owned
    obtain ⟨_, isHome, sameHome⟩ := intact.home id.execution execution stored
    have same := (held.rows id.execution execution stored).owned id.number attempt lease found isLease
    rw [same.1, isHome, Option.some.injEq] at known
    subst known
    refine ⟨id, execution, attempt, (Db.attempt?_eq_some _ _ _ _).mpr ⟨stored, found⟩, ?_, ?_⟩
    · rw [← sameHome]
      exact of_decide_eq_true workspace
    · simp only [Attempt.hasUnresolvedLease, isLease, Option.any_some]
      exact unresolved
  · rintro ⟨id, execution, attempt, present, workspace, live⟩
    obtain ⟨stored, found⟩ := (Db.attempt?_eq_some _ _ _ _).mp present
    obtain ⟨lease, isLease, unresolved⟩ := (Option.any_eq_true _ _).mp live
    obtain ⟨home, isHome, sameHome⟩ := intact.home id.execution execution stored
    have same := (held.rows id.execution execution stored).owned id.number attempt lease found isLease
    refine List.any_eq_true.mpr ⟨(id, lease), (db.mem_leases id lease).mpr
      ⟨execution, attempt, stored, found, isLease⟩, decide_eq_true ⟨unresolved, ?_⟩⟩
    refine (Option.any_eq_true _ _).mpr ⟨home, by rw [same.1]; exact isHome, decide_eq_true ?_⟩
    rw [sameHome]
    exact workspace

section Writes

variable [DecidableEq D] {env : Env D} {call : Call D} {start db next : Db D}

theorem Write.keepsHomeOf (write : Write env call start db next) (id : AttemptId)
    (later : Execution D) (execution : Execution D) (row attempt : Attempt D)
    (numbered : db.population.Numbered) (present : next.attempt? id = some (later, row))
    (before : db.attempt? id = some (execution, attempt)) :
    later.workspace = execution.workspace := by
  obtain ⟨isLater, _⟩ := (Db.attempt?_eq_some _ _ _ _).mp present
  obtain ⟨stored, _⟩ := (Db.attempt?_eq_some _ _ _ _).mp before
  rcases write.source id.execution later isLater with ⟨_, known, change⟩ | created
  · cases stored.symm.trans known
    rcases change with rfl | change
    · rfl
    · exact change.keepsWorkspace
  · have old : id.execution < db.supply := numbered id.execution execution stored
    exact absurd created.isNew (Nat.ne_of_lt old)

def Operation.claimsFor (operation : Operation D) (id : Uuid) : Prop :=
  ∃ context claimId slots, operation = .claimNextExecution context claimId slots ∧
    context.workspace = id

theorem Write.liveIn (write : Write env call start db next) (intact : db.Intact)
    (held : db.ClaimsHeld) (id : Uuid) (other : ¬ call.operation.claimsFor id)
    (live : next.LiveIn id) : db.LiveIn id := by
  obtain ⟨target, later, row, present, home, unresolved⟩ := live
  obtain ⟨lease, isLease, pending⟩ := (Option.any_eq_true _ _).mp unresolved
  have known : ∀ execution attempt, db.attempt? target = some (execution, attempt) →
      attempt.hasUnresolvedLease = true → db.LiveIn id := by
    intro execution attempt before live
    refine ⟨target, execution, attempt, before, ?_, live⟩
    rw [← write.keepsHomeOf target later execution row attempt intact.numbered present before]
    exact home
  rcases write.claims_cases held.rows with kept |
      ⟨claimId, granted, _, grants, context, slots, asked, within⟩
  · rcases kept target later row present with ⟨execution, attempt, before, keeps⟩ | ⟨_, unleased⟩
    · obtain ⟨former, wasLease, wasPending, _⟩ := keeps.lease lease isLease pending
      exact known execution attempt before ((Option.any_eq_true _ _).mpr ⟨former, wasLease, wasPending⟩)
    · rw [unleased] at isLease
      cases isLease
  · by_cases isGranted : target = granted
    · subst isGranted
      exact absurd ⟨context, claimId, slots, asked, (within later row present).symm.trans home⟩ other
    · obtain ⟨execution, before⟩ := grants.others target later row isGranted present
      exact known execution row before unresolved

structure Db.WorkSound (db : Db D) : Prop where
  intact : db.Intact
  held : db.ClaimsHeld

section

variable (evolution : Evolution env call start db next) (sound : db.WorkSound)

include evolution sound

theorem Evolution.workSound : next.WorkSound := by
  induction evolution with
  | refl => exact sound
  | tail _ write ih => exact ⟨write.intact ih.intact, write.claimsHeld ih.held⟩

theorem Evolution.liveIn
    (id : Uuid) (other : ¬ call.operation.claimsFor id) (live : next.LiveIn id) :
    db.LiveIn id := by
  induction evolution with
  | refl => exact live
  | tail earlier write ih =>
    have between := Evolution.workSound earlier sound
    exact ih (write.liveIn between.intact between.held id other live)

end

omit [DecidableEq D] in
theorem Db.WorkSound.of_rows {workspaces : Table Uuid Workspace} {supply : Nat}
    (sound : db.WorkSound) (grows : db.supply ≤ supply) :
    ({ db with workspaces := workspaces, supply := supply } : Db D).WorkSound := by
  obtain ⟨⟨numbered, home, bound, deleted, asked, posted⟩, held⟩ := sound
  refine ⟨⟨?_, home, bound, deleted, asked, posted⟩, held.rows, held.distinct, held.unique,
    held.leases⟩
  intro id execution stored
  exact Nat.lt_of_lt_of_le (numbered id execution stored) grows

end Writes

/-! ## Claims of a runtime -/

section Claims

variable [DecidableEq D] {env : Env D} {settings : PowerSettings}

theorem claimNextExecution_ready (env : Env D) (now : Instant) (context : RuntimeContext)
    (claimId : Uuid) (slots : Nat) (db next : Db D) (claim : Option Claim)
    (success : claimNextExecution env now context claimId slots db = .ok (claim, next)) :
    ∃ workspace, db.workspaces.lookup context.workspace = some workspace ∧
      isRuntimeReady env now workspace = true := by
  simp only [claimNextExecution, claimGates, requireCurrentRuntimeReadyLocked, bind_eq_ok,
    orRaise_eq_ok, require_eq_ok, pure_eq_ok] at success
  obtain ⟨_, ⟨_, _, workspace, stored, _, _, _, _, _, ready, rfl⟩, _⟩ := success
  obtain ⟨_, _, _, _, isReady⟩ := ready
  exact ⟨workspace, stored, isReady⟩

theorem claimEvent_ready (fleet next : Fleet D) (call : Call D) (context : RuntimeContext)
    (claimId : Uuid) (slots : Nat) (reply : FleetReply D)
    (asked : call.operation = .claimNextExecution context claimId slots)
    (success : applyEvent env settings (.service call) fleet = .ok (reply, next)) :
    ∃ workspace, fleet.store.db.workspaces.lookup context.workspace = some workspace ∧
      isRuntimeReady env call.now workspace = true := by
  obtain ⟨now, _⟩ := call
  simp only at asked
  subst asked
  simp only [applyEvent, commitEvent, bind_eq_ok, pure_eq_ok] at success
  obtain ⟨_, ⟨_, _, ⟨_, _⟩, applied, _⟩, _⟩ := success
  simp only [apply] at applied
  obtain ⟨claim, claims, _⟩ := (reply_eq_ok _ _ _ _).mp applied
  exact claimNextExecution_ready env now context claimId slots _ _ claim claims

end Claims

/-! ## Events -/

section Fleets

variable [DecidableEq D] {env : Env D} {settings : PowerSettings} {event : FleetEvent D}
  {fleet next : Fleet D} {reply : FleetReply D}

theorem serviceEvent_evolution {call : Call D}
    (success : applyEvent env settings (.service call) fleet = .ok (reply, next)) :
    Evolution env call fleet.store.db fleet.store.db next.store.db := by
  simp only [applyEvent, commitEvent, bind_eq_ok, return_eq_ok] at success
  obtain ⟨⟨_, _⟩, ⟨_, _, ⟨answer, db⟩, applied, _, rfl⟩, _, rfl⟩ := success
  exact apply_evolution env call _ db answer applied

omit [DecidableEq D] in
theorem Fleet.Steps.work (steps : fleet.Steps env settings event next)
    (other : ∀ call, event ≠ .service call) :
    next.store.db = { fleet.store.db with
      workspaces := next.store.db.workspaces, supply := next.store.db.supply } := by
  rcases steps.moves.work with ⟨_, acts⟩ | same
  · obtain ⟨call, happens, _⟩ := FleetEvent.actor_eq_caller acts
    exact absurd happens (other call)
  · exact same

section

variable (steps : fleet.Steps env settings event next)
  (success : applyEvent env settings event fleet = .ok (reply, next))
  (sound : fleet.store.db.WorkSound)

include steps success sound

theorem Fleet.workSound_event : next.store.db.WorkSound := by
  by_cases isCall : ∃ call, event = .service call
  · obtain ⟨_, rfl⟩ := isCall
    exact (serviceEvent_evolution success).workSound sound
  · rw [steps.work fun call same => isCall ⟨call, same⟩]
    exact sound.of_rows steps.moves.supply

theorem Fleet.liveIn_event (id : Uuid)
    (other : ∀ call, event = .service call → ¬ call.operation.claimsFor id)
    (live : next.store.db.LiveIn id) : fleet.store.db.LiveIn id := by
  by_cases isCall : ∃ call, event = .service call
  · obtain ⟨call, rfl⟩ := isCall
    exact (serviceEvent_evolution success).liveIn sound id (other call rfl) live
  · rw [steps.work fun call same => isCall ⟨call, same⟩] at live
    exact live

end

end Fleets

end Foundry
