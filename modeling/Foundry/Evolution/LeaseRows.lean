import Foundry.Lib.Log
import Foundry.Evolution.Attempts

/-!
# Leases and their acquisitions

An attempt gets its lease with its first claim and keeps it.  Ordinary work never
changes whose lease it is; a routine's lease is acquired again for each leg, and
every leg leaves an acquisition behind.
-/

set_option autoImplicit false

namespace Foundry

variable {D : Type}

/-! ## Acquisitions -/

/-- What an acquisition becomes: its claim stays, it is retired once, and the session
stored with it stays. -/
structure RoutineLeaseAcquisition.Continues (acquisition later : RoutineLeaseAcquisition D) :
    Prop where
  ordinal : later.ordinal = acquisition.ordinal
  claim : later.claimId = acquisition.claimId
  token : later.tokenDigest = acquisition.tokenDigest
  generation : later.machineGeneration = acquisition.machineGeneration
  retired : acquisition.current = false → later.current = false
  session : acquisition.sessionRequestDigest ≠ none →
    later.sessionRequestDigest = acquisition.sessionRequestDigest ∧
      later.sessionReceipt = acquisition.sessionReceipt
  /-- A session is stored together with the digest of its request. -/
  digested : acquisition.sessionReceipt = none → later.sessionReceipt ≠ none →
    later.sessionRequestDigest ≠ none

namespace RoutineLeaseAcquisition.Continues

theorem of_frame {acquisition later : RoutineLeaseAcquisition D}
    (ordinal : later.ordinal = acquisition.ordinal) (claim : later.claimId = acquisition.claimId)
    (token : later.tokenDigest = acquisition.tokenDigest)
    (generation : later.machineGeneration = acquisition.machineGeneration)
    (retired : acquisition.current = false → later.current = false)
    (digest : later.sessionRequestDigest = acquisition.sessionRequestDigest)
    (receipt : later.sessionReceipt = acquisition.sessionReceipt) :
    acquisition.Continues later where
  ordinal := ordinal
  claim := claim
  token := token
  generation := generation
  retired := retired
  session := fun _ => ⟨digest, receipt⟩
  digested := fun unset set => absurd (receipt.trans unset) set

theorem refl (acquisition : RoutineLeaseAcquisition D) : acquisition.Continues acquisition :=
  of_frame rfl rfl rfl rfl id rfl rfl

theorem trans {first second third : RoutineLeaseAcquisition D}
    (earlier : first.Continues second) (later : second.Continues third) :
    first.Continues third where
  ordinal := later.ordinal.trans earlier.ordinal
  claim := later.claim.trans earlier.claim
  token := later.token.trans earlier.token
  generation := later.generation.trans earlier.generation
  retired := fun retired => later.retired (earlier.retired retired)
  session := by
    intro stored
    have before := earlier.session stored
    have after := later.session (by rw [before.1]; exact stored)
    exact ⟨after.1.trans before.1, after.2.trans before.2⟩
  digested := by
    intro unset set
    by_cases stored : second.sessionReceipt = none
    · exact later.digested stored set
    · have digest := earlier.digested unset stored
      rw [(later.session digest).1]
      exact digest

end RoutineLeaseAcquisition.Continues

/-- The acquisitions of a lease, while it is not acquired again. -/
def AcquisitionsContinue (earlier later : List (RoutineLeaseAcquisition D)) : Prop :=
  Log.Amends RoutineLeaseAcquisition.Continues earlier later

/-! ## One lease -/

structure Lease.Keeps (lease later : Lease D) : Prop where
  profile : later.profile = lease.profile
  scope : later.scopeKey = lease.scopeKey
  token : later.tokenDigest = lease.tokenDigest
  claim : later.claimId = lease.claimId
  generation : later.machineGeneration = lease.machineGeneration
  active : later.state = .active → lease.state = .active
  unresolved : later.state.isUnresolved = true → lease.state.isUnresolved = true
  length : later.acquisitions.length = lease.acquisitions.length
  acquisitions : AcquisitionsContinue lease.acquisitions later.acquisitions

/-- A session is stored with its digest, only the latest acquisition can be current, and
the current one is the lease's own claim. -/
structure Lease.WellFormed (lease : Lease D) : Prop where
  digested : ∀ acquisition ∈ lease.acquisitions, acquisition.sessionReceipt ≠ none →
    acquisition.sessionRequestDigest ≠ none
  last : ∀ (place : Nat) (acquisition : RoutineLeaseAcquisition D),
    lease.acquisitions[place]? = some acquisition → acquisition.current = true →
    place + 1 = lease.acquisitions.length
  own : ∀ acquisition ∈ lease.acquisitions, acquisition.current = true →
    acquisition.tokenDigest = lease.tokenDigest ∧ some acquisition.claimId = lease.claimId ∧
      acquisition.machineGeneration = lease.machineGeneration

namespace Lease.Keeps

variable {lease later : Lease D}

section

variable (lease : Lease D)

theorem of_state (state : LeaseState) (current : Option Nat)
    (expiresAt : Instant) (active : state = .active → lease.state = .active)
    (unresolved : state.isUnresolved = true → lease.state.isUnresolved = true) :
    lease.Keeps
      { lease with state := state, currentAcquisition := current, expiresAt := expiresAt } where
  profile := rfl
  scope := rfl
  token := rfl
  claim := rfl
  generation := rfl
  active := active
  unresolved := unresolved
  length := rfl
  acquisitions := Log.Amends.refl .refl _

theorem refl : lease.Keeps lease :=
  of_state lease lease.state lease.currentAcquisition lease.expiresAt id id

theorem of_resolved (state : LeaseState) (current : Option Nat)
    (resolved : state.isUnresolved = false) :
    lease.Keeps { lease with state := state, currentAcquisition := current } := by
  refine of_state lease state current lease.expiresAt ?_ ?_
  · intro active
    rw [active] at resolved
    cases resolved
  · intro unresolved
    rw [unresolved] at resolved
    cases resolved

theorem of_map (amend : RoutineLeaseAcquisition D → RoutineLeaseAcquisition D)
    (continues : ∀ acquisition ∈ lease.acquisitions, acquisition.Continues (amend acquisition)) :
    lease.Keeps { lease with acquisitions := lease.acquisitions.map amend } where
  profile := rfl
  scope := rfl
  token := rfl
  claim := rfl
  generation := rfl
  active := id
  unresolved := id
  length := List.length_map _
  acquisitions := .map amend _ continues

end

theorem trans {third : Lease D} (earlier : lease.Keeps later) (after : later.Keeps third) :
    lease.Keeps third where
  profile := after.profile.trans earlier.profile
  scope := after.scope.trans earlier.scope
  token := after.token.trans earlier.token
  claim := after.claim.trans earlier.claim
  generation := after.generation.trans earlier.generation
  active := fun active => earlier.active (after.active active)
  unresolved := fun unresolved => earlier.unresolved (after.unresolved unresolved)
  length := after.length.trans earlier.length
  acquisitions := Log.Amends.trans .trans earlier.acquisitions after.acquisitions

theorem wellFormed (keeps : lease.Keeps later) (formed : lease.WellFormed) : later.WellFormed where
  digested := by
    intro acquisition member stored
    obtain ⟨place, found⟩ := List.mem_iff_getElem?.mp member
    obtain ⟨former, isFormer, continues⟩ :=
      Log.Amends.source keeps.acquisitions keeps.length place acquisition found
    by_cases unset : former.sessionReceipt = none
    · exact continues.digested unset stored
    · have digest := formed.digested former (List.mem_of_getElem? isFormer) unset
      rw [(continues.session digest).1]
      exact digest
  last := by
    intro place acquisition found current
    obtain ⟨former, isFormer, continues⟩ :=
      Log.Amends.source keeps.acquisitions keeps.length place acquisition found
    have wasCurrent : former.current = true := by
      by_contra retired
      rw [continues.retired (by simpa using retired)] at current
      cases current
    rw [keeps.length]
    exact formed.last place former isFormer wasCurrent
  own := by
    intro acquisition member current
    obtain ⟨place, found⟩ := List.mem_iff_getElem?.mp member
    obtain ⟨former, isFormer, continues⟩ :=
      Log.Amends.source keeps.acquisitions keeps.length place acquisition found
    have wasCurrent : former.current = true := by
      by_contra retired
      rw [continues.retired (by simpa using retired)] at current
      cases current
    have own := formed.own former (List.mem_of_getElem? isFormer) wasCurrent
    rw [continues.token, continues.claim, continues.generation, keeps.token, keeps.claim,
      keeps.generation]
    exact own

end Lease.Keeps

/-! ## The writes of a lease -/

section Writes

variable (lease : Lease D) (now : Instant)

theorem retireCurrent_keeps : lease.Keeps (lease.retireCurrent now) := by
  refine .of_map lease _ ?_
  intro acquisition _
  split
  · exact .of_frame rfl rfl rfl rfl (fun _ => rfl) rfl rfl
  · exact .refl acquisition

theorem close_keeps (state : LeaseState) (resolved : state.isUnresolved = false) :
    lease.Keeps (lease.close now state) :=
  (retireCurrent_keeps lease now).trans (.of_resolved _ state none resolved)

theorem expire_keeps (isRoutine : Bool) (state : LeaseState)
    (resolved : state.isUnresolved = false) : lease.Keeps (lease.expire now isRoutine state) := by
  cases isRoutine with
  | true => exact close_keeps lease now state resolved
  | false => exact .of_resolved lease state none resolved

theorem seal_keeps [DecidableEq D] (tokenDigest requestDigest : D)
    (receipt : RoutineTerminalReceipt) :
    lease.Keeps
      { lease with
        acquisitions := lease.acquisitions.map fun acquisition =>
          if acquisition.tokenDigest = tokenDigest then
            { acquisition with
              terminalRequestDigest := some requestDigest
              terminalReceipt := some receipt }
          else acquisition } := by
  refine .of_map lease _ ?_
  intro acquisition _
  split
  · exact .of_frame rfl rfl rfl rfl id rfl rfl
  · exact .refl acquisition

theorem Lease.WellFormed.current_unique {lease : Lease D} (formed : lease.WellFormed)
    {first second : RoutineLeaseAcquisition D} (isFirst : first ∈ lease.acquisitions)
    (isSecond : second ∈ lease.acquisitions) (firstCurrent : first.current = true)
    (secondCurrent : second.current = true) : first = second := by
  obtain ⟨place, found⟩ := List.mem_iff_getElem?.mp isFirst
  obtain ⟨other, isOther⟩ := List.mem_iff_getElem?.mp isSecond
  have atEnd := formed.last place first found firstCurrent
  have otherAtEnd := formed.last other second isOther secondCurrent
  have same : place = other := by omega
  rw [same, isOther, Option.some.injEq] at found
  exact found.symm

theorem bindSession_keeps [DecidableEq D] (formed : lease.WellFormed)
    (tokenDigest requestDigest : D) (sessionId : String) (acquisition : RoutineLeaseAcquisition D)
    (bound : lease.acquisitions.find? (fun acquisition =>
      acquisition.current && acquisition.tokenDigest = tokenDigest) = some acquisition)
    (first : acquisition.sessionRequestDigest = none) :
    lease.Keeps (lease.bindSession tokenDigest requestDigest sessionId) := by
  have isCurrent : acquisition.current = true ∧ acquisition.tokenDigest = tokenDigest := by
    simpa using List.find?_some bound
  refine .of_map lease _ ?_
  intro other member
  split
  · next target =>
    have otherCurrent : other.current = true := by
      simp only [Bool.and_eq_true] at target
      exact target.1
    have same : other = acquisition :=
      formed.current_unique member (List.mem_of_find?_eq_some bound) otherCurrent isCurrent.1
    have unset : other.sessionRequestDigest = none := same ▸ first
    exact ⟨rfl, rfl, rfl, rfl, id, fun set => absurd unset set, fun _ _ => nofun⟩
  · exact .refl other

theorem stopping_keeps (active : lease.state = .active) :
    lease.Keeps { lease with state := .stopping } := by
  refine .of_state lease .stopping lease.currentAcquisition lease.expiresAt nofun ?_
  intro _
  rw [active]
  rfl

/-! ## Grants -/

variable (terms : GrantTerms D)

theorem lease_wellFormed (profile : Uuid) (scope : ScopeKey) :
    (terms.lease profile scope).WellFormed := by
  constructor <;> simp [GrantTerms.lease]

theorem acquire_acquisitions (former : Lease D) :
    AcquisitionsContinue former.acquisitions (terms.acquire former).acquisitions :=
  Log.Amends.append .refl _ _

theorem acquire_wellFormed (former : Lease D) (formed : former.WellFormed)
    (retired : ∀ acquisition ∈ former.acquisitions, acquisition.current = false)
    (token : former.tokenDigest = terms.tokenDigest) (claim : former.claimId = some terms.claimId)
    (generation : former.machineGeneration = terms.generation) :
    (terms.acquire former).WellFormed where
  digested := by
    intro acquisition member stored
    rcases List.mem_append.mp member with before | new
    · exact formed.digested acquisition before stored
    · rw [List.mem_singleton.mp new] at stored
      exact absurd rfl stored
  last := by
    intro place acquisition found current
    simp only [GrantTerms.acquire, List.length_append, List.length_singleton] at found ⊢
    by_cases before : place < former.acquisitions.length
    · rw [List.getElem?_append_left before] at found
      rw [retired acquisition (List.mem_of_getElem? found)] at current
      cases current
    · obtain ⟨inside, _⟩ := List.getElem?_eq_some_iff.mp found
      simp only [List.length_append, List.length_singleton] at inside
      omega
  own := by
    intro acquisition member current
    rcases List.mem_append.mp member with before | new
    · rw [retired acquisition before] at current
      cases current
    · rw [List.mem_singleton.mp new]
      exact ⟨token.symm, claim.symm, generation.symm⟩

theorem retireCurrent_retired (acquisition : RoutineLeaseAcquisition D)
    (member : acquisition ∈ (lease.retireCurrent now).acquisitions) :
    acquisition.current = false := by
  simp only [Lease.retireCurrent, List.mem_map] at member
  obtain ⟨_, _, rfl⟩ := member
  split
  · rfl
  · next retired => simpa using retired

theorem renewedLease_wellFormed (formed : lease.WellFormed) :
    (terms.renewedLease lease).WellFormed := by
  have kept := (retireCurrent_keeps lease terms.now).wellFormed formed
  refine ⟨kept.digested, kept.last, ?_⟩
  intro acquisition member current
  rw [retireCurrent_retired lease terms.now acquisition member] at current
  cases current

end Writes

/-! ## The lease of an attempt -/

def Attempt.LeaseKept (attempt later : Attempt D) : Prop :=
  Option.Rel Lease.Keeps attempt.lease later.lease

variable {third : Attempt D}

namespace Attempt.LeaseKept

variable {attempt later : Attempt D}

theorem of_map (amend : Lease D → Lease D) (same : later.lease = attempt.lease.map amend)
    (keeps : ∀ lease, attempt.lease = some lease → lease.Keeps (amend lease)) :
    attempt.LeaseKept later := by
  rw [Attempt.LeaseKept, same]
  cases held : attempt.lease with
  | none => exact .none
  | some lease => exact .some (keeps lease held)

theorem of_eq (same : later.lease = attempt.lease) : attempt.LeaseKept later :=
  of_map id (by rw [same, Option.map_id_fun, id]) fun lease _ => .refl lease

theorem refl (attempt : Attempt D) : attempt.LeaseKept attempt :=
  of_eq rfl

theorem of_held {lease next : Lease D} (held : attempt.lease = some lease)
    (written : later.lease = some next) (keeps : lease.Keeps next) : attempt.LeaseKept later := by
  rw [Attempt.LeaseKept, held, written]
  exact .some keeps

theorem trans (earlier : attempt.LeaseKept later)
    (after : later.LeaseKept third) : attempt.LeaseKept third := by
  simp only [Attempt.LeaseKept] at earlier after ⊢
  generalize attempt.lease = former at earlier
  generalize later.lease = middle at earlier after
  generalize third.lease = last at after
  cases earlier with
  | none =>
    cases after
    exact .none
  | some before =>
    cases after with
    | some next => exact .some (before.trans next)

theorem held (kept : attempt.LeaseKept later) {lease : Lease D}
    (held : attempt.lease = some lease) : ∃ next, later.lease = some next ∧ lease.Keeps next := by
  rw [Attempt.LeaseKept, held] at kept
  generalize later.lease = after at kept
  cases kept with
  | some keeps => exact ⟨_, rfl, keeps⟩

theorem source (kept : attempt.LeaseKept later) {next : Lease D}
    (held : later.lease = some next) : ∃ lease, attempt.lease = some lease ∧ lease.Keeps next := by
  rw [Attempt.LeaseKept, held] at kept
  generalize attempt.lease = before at kept
  cases kept with
  | some keeps => exact ⟨_, rfl, keeps⟩

end Attempt.LeaseKept

section AttemptWrites

variable (attempt : Attempt D) (now : Instant)

theorem applyOption_leaseKept (outcome : Option (Append D)) :
    attempt.LeaseKept (Append.applyOption attempt outcome) := by
  rcases outcome with _ | _ | _ <;> exact .of_eq rfl

theorem endWithResult_leaseKept (outcome : RoutineOutcome) (event : ExecutionEvent D) :
    attempt.LeaseKept (attempt.endWithResult now outcome event) := by
  refine .of_map (fun lease => if lease.state.isUnresolved then lease.close now .released else lease)
    rfl ?_
  intro lease _
  split
  · exact close_keeps lease now .released rfl
  · exact .refl lease

theorem fenceUnresolved_leaseKept : attempt.LeaseKept attempt.fenceUnresolved := by
  refine .of_map (fun lease =>
    if lease.state.isUnresolved then { lease with state := .fenced } else lease) rfl ?_
  intro lease _
  split
  · exact .of_resolved lease .fenced lease.currentAcquisition rfl
  · exact .refl lease

theorem endWait_leaseKept (waitEnd : WaitEnd) (event : ExecutionEvent D) :
    attempt.LeaseKept (attempt.endWait now waitEnd event) := by
  have ended := endWithResult_leaseKept attempt now .failed event
  simp only [Attempt.endWait]
  split
  · exact (ended.trans (.of_eq rfl)).trans (fenceUnresolved_leaseKept _)
  · exact ended.trans (.of_eq rfl)

theorem stopped_leaseKept (requestDigest tokenDigest : D) (receipt : StoppedReceipt)
    (status : AttemptStatus) :
    attempt.LeaseKept (attempt.stopped requestDigest tokenDigest receipt status) :=
  .of_map (fun lease => { lease with state := .released }) rfl
    fun lease _ => .of_resolved lease .released lease.currentAcquisition rfl

section

variable (isRoutine : Bool) (state : LeaseState) (resolved : state.isUnresolved = false)

include resolved

theorem expireLease_leaseKept :
    attempt.LeaseKept (attempt.expireLease now isRoutine state) :=
  .of_map (fun lease => lease.expire now isRoutine state) rfl
    fun lease _ => expire_keeps lease now isRoutine state resolved

theorem retired_leaseKept :
    attempt.LeaseKept (attempt.retired now isRoutine state) :=
  (expireLease_leaseKept attempt now isRoutine state resolved).trans (.of_eq rfl)

end

theorem sealAcquisition_leaseKept [DecidableEq D] (tokenDigest requestDigest : D)
    (receipt : RoutineTerminalReceipt) :
    attempt.LeaseKept (attempt.sealAcquisition tokenDigest requestDigest receipt) :=
  .of_map _ rfl fun lease _ => seal_keeps lease tokenDigest requestDigest receipt

theorem stopLease_leaseKept (profile : Uuid) :
    attempt.LeaseKept (attempt.stopLease profile) := by
  refine .of_map _ rfl ?_
  intro lease _
  split
  · next stops => exact stopping_keeps lease stops.2
  · exact .refl lease

end AttemptWrites

/-! ## Moves -/

structure LegAcquired (terms : GrantTerms D) (profile : Uuid) (routine : RoutineExecution)
    (attempt later : Attempt D) : Prop where
  source : attempt.lease = none ∧
      later.lease = some (terms.acquire (terms.lease profile (.routine routine.routineId))) ∨
    ∃ former, attempt.lease = some former ∧ former.state.isUnresolved = false ∧
      later.lease = some (terms.acquire (terms.renewedLease former))

section Moves

variable [DecidableEq D] {env : Env D} {call : Call D} {db : Db D} {id : Uuid}
  {execution next : Execution D} {number : Nat} {attempt later : Attempt D}
  {status : ExecutionStatus} {routine : Option RoutineExecution}

theorem Move.leaseKept (formed : ∀ lease, attempt.lease = some lease → lease.WellFormed)
    (move : Move env call db id execution number attempt later status routine) :
    attempt.LeaseKept later ∨
      ∃ terms current, call.operation.service = .claimNextExecution ∧
        execution.routineAt number = some current ∧
        LegAcquired terms execution.profile current attempt later := by
  cases move with
  | append | mutate | bindSession | approve | abandon => exact .inl (.of_eq rfl)
  | renew lease expiresAt _ held =>
    exact .inl (.of_held held rfl
      (.of_state lease lease.state lease.currentAcquisition expiresAt (fun same => same)
        fun same => same))
  | bindRoutineSession other lease tokenDigest requestDigest sessionId service current held active
      acquisition bound first =>
    exact .inl (.of_held held rfl (bindSession_keeps lease (formed lease held) tokenDigest
      requestDigest sessionId acquisition bound first))
  | stop _ _ _ _ _ requestDigest tokenDigest receipt =>
    exact .inl (stopped_leaseKept attempt requestDigest tokenDigest receipt .unknown)
  | stopRoutine _ _ _ _ _ _ event requestDigest tokenDigest receipt =>
    exact .inl ((endWithResult_leaseKept attempt call.now .failed event).trans
      (stopped_leaseKept _ requestDigest tokenDigest receipt .failed))
  | finish lease _ _ _ _ _ _ _ held =>
    exact .inl (.of_held held rfl
      (.of_resolved lease .released lease.currentAcquisition rfl))
  | record _ outcome event =>
    exact .inl (endWithResult_leaseKept attempt call.now outcome event)
  | recordSealed _ _ outcome event tokenDigest requestDigest receipt =>
    exact .inl ((endWithResult_leaseKept attempt call.now outcome event).trans
      (sealAcquisition_leaseKept _ tokenDigest requestDigest receipt))
  | sealReplay _ _ _ tokenDigest requestDigest receipt =>
    exact .inl (sealAcquisition_leaseKept attempt tokenDigest requestDigest receipt)
  | requestApproval _ lease _ _ _ _ _ _ held =>
    exact .inl (.of_held held rfl (close_keeps lease call.now .released rfl))
  | endWait _ _ waitEnd event =>
    exact .inl (endWait_leaseKept attempt call.now waitEnd event)
  | fence _ _ _ _ lease _ _ _ held =>
    exact .inl (.of_held held rfl (.of_resolved lease .fenced lease.currentAcquisition rfl))
  | requeue lease _ _ held =>
    exact .inl (.of_held held rfl (expire_keeps lease call.now false .released rfl))
  | requeueRoutine _ lease _ _ held =>
    exact .inl (.of_held held rfl (expire_keeps lease call.now true .released rfl))
  | close _ isRoutine state _ _ _ _ resolved =>
    exact .inl (expireLease_leaseKept attempt call.now isRoutine state resolved)
  | retire _ isRoutine state failure _ _ _ _ _ resolved =>
    exact .inl ((applyOption_leaseKept attempt failure).trans
      (retired_leaseKept _ call.now isRoutine state resolved))
  | retireRoutine _ _ state failure event _ _ _ _ _ resolved =>
    exact .inl (((applyOption_leaseKept attempt failure).trans
      (endWithResult_leaseKept _ call.now .failed event)).trans
      (retired_leaseKept _ call.now true state resolved))
  | cleanup _ _ isRoutine =>
    exact .inl ((expireLease_leaseKept attempt call.now isRoutine .fenced rfl).trans (.of_eq rfl))
  | cleanupRoutine _ _ _ event =>
    exact .inl ((endWithResult_leaseKept attempt call.now .failed event).trans
      (retired_leaseKept _ call.now true .fenced rfl))
  | resume terms other _ service current _ _ source =>
    refine .inr ⟨terms, other, service, current, ⟨?_⟩⟩
    rcases source with ⟨unleased, rfl⟩ | ⟨former, leased, resolved, rfl⟩
    · exact .inl ⟨unleased, rfl⟩
    · exact .inr ⟨former, leased, resolved, rfl⟩

/-! ## Changes -/

def Execution.LeasesFormed (execution : Execution D) : Prop :=
  execution.AllAttempts fun attempt => ∀ lease, attempt.lease = some lease → lease.WellFormed

structure Lease.Continues (lease later : Lease D) : Prop where
  profile : later.profile = lease.profile
  scope : later.scopeKey = lease.scopeKey
  acquisitions : AcquisitionsContinue lease.acquisitions later.acquisitions
  same : lease.Keeps later ∨ lease.acquisitions.length < later.acquisitions.length

omit [DecidableEq D] in
theorem Lease.Keeps.continues {lease later : Lease D} (keeps : lease.Keeps later) :
    lease.Continues later :=
  ⟨keeps.profile, keeps.scope, keeps.acquisitions, .inl keeps⟩

omit [DecidableEq D] in
theorem Lease.Continues.trans {first second third : Lease D} (earlier : first.Continues second)
    (later : second.Continues third) : first.Continues third where
  profile := later.profile.trans earlier.profile
  scope := later.scope.trans earlier.scope
  acquisitions := Log.Amends.trans .trans earlier.acquisitions later.acquisitions
  same := by
    rcases earlier.same, later.same with ⟨before | before, after | after⟩
    · exact .inl (before.trans after)
    · exact .inr (by rw [← before.length]; exact after)
    · exact .inr (by rw [after.length]; exact before)
    · exact .inr (Nat.lt_trans before after)

omit [DecidableEq D] in
theorem renewed_continues (terms : GrantTerms D) (former : Lease D) :
    former.Continues (terms.acquire (terms.renewedLease former)) where
  profile := rfl
  scope := rfl
  acquisitions := Log.Amends.trans .trans (retireCurrent_keeps former terms.now).acquisitions
    (acquire_acquisitions terms (terms.renewedLease former))
  same := by
    refine .inr ?_
    simp [GrantTerms.acquire, GrantTerms.renewedLease, Lease.retireCurrent]

def Attempt.LeaseContinues (attempt later : Attempt D) : Prop :=
  ∀ lease, attempt.lease = some lease → ∃ next, later.lease = some next ∧ lease.Continues next

omit [DecidableEq D] in
theorem Attempt.LeaseContinues.trans (earlier : attempt.LeaseContinues later)
    (after : later.LeaseContinues third) : attempt.LeaseContinues third := by
  intro lease held
  obtain ⟨middle, isMiddle, before⟩ := earlier lease held
  obtain ⟨last, isLast, next⟩ := after middle isMiddle
  exact ⟨last, isLast, before.trans next⟩

omit [DecidableEq D] in
theorem Attempt.LeaseKept.continues (kept : attempt.LeaseKept later) :
    attempt.LeaseContinues later := by
  intro lease held
  obtain ⟨next, isNext, keeps⟩ := kept.held held
  exact ⟨next, isNext, keeps.continues⟩

variable {terms : GrantTerms D} {profile : Uuid}

omit [DecidableEq D] in
theorem LegAcquired.continues
    {routine : RoutineExecution} (acquired : LegAcquired terms profile routine attempt later) :
    attempt.LeaseContinues later := by
  intro lease held
  rcases acquired.source with ⟨unleased, _⟩ | ⟨former, leased, _, written⟩
  · rw [unleased] at held
    cases held
  · rw [leased, Option.some.injEq] at held
    subst held
    exact ⟨_, written, renewed_continues terms former⟩

omit [DecidableEq D] in
theorem LegAcquired.wellFormed
    {routine : RoutineExecution} (acquired : LegAcquired terms profile routine attempt later)
    (formed : ∀ lease, attempt.lease = some lease → lease.WellFormed) (lease : Lease D)
    (held : later.lease = some lease) : lease.WellFormed := by
  rcases acquired.source with ⟨_, written⟩ | ⟨former, leased, _, written⟩
  · cases written.symm.trans held
    exact acquire_wellFormed terms _ (lease_wellFormed terms _ _) (by simp [GrantTerms.lease])
      rfl rfl rfl
  · cases written.symm.trans held
    exact acquire_wellFormed terms _ (renewedLease_wellFormed former terms (formed former leased))
      (retireCurrent_retired former terms.now) rfl rfl rfl

theorem Move.leaseFormed (formed : ∀ lease, attempt.lease = some lease → lease.WellFormed)
    (move : Move env call db id execution number attempt later status routine) (lease : Lease D)
    (held : later.lease = some lease) : lease.WellFormed := by
  rcases move.leaseKept formed with kept | ⟨_, _, _, _, acquired⟩
  · obtain ⟨former, isFormer, keeps⟩ := kept.source held
    exact keeps.wellFormed (formed former isFormer)
  · exact acquired.wellFormed formed lease held

theorem Change.leasesFormed (change : Change env call db id execution next)
    (formed : execution.LeasesFormed) : next.LeasesFormed := by
  refine change.allAttempts _ ?_ ?_ ?_ formed
  · intro attempt new lease held
    rcases new.leased with unleased | ⟨terms, profile, scope, leased | leased⟩
    · rw [unleased] at held
      cases held
    · rw [leased, Option.some.injEq] at held
      exact held ▸ lease_wellFormed terms profile scope
    · cases leased.symm.trans held
      exact acquire_wellFormed terms _ (lease_wellFormed terms profile scope)
        (by simp [GrantTerms.lease]) rfl rfl rfl
  · intro attempt profile formed lease held
    obtain ⟨former, isFormer, keeps⟩ := (stopLease_leaseKept attempt profile).source held
    exact keeps.wellFormed (formed former isFormer)
  · intro number attempt later status routine _ move formed
    exact move.leaseFormed formed

omit [DecidableEq D] in
theorem Born.leasesFormed (born : Born call execution) : execution.LeasesFormed := by
  cases born with
  | ordinary _ unclaimed =>
    intro number attempt found
    simp [unclaimed] at found
  | routine _ _ _ only =>
    intro number attempt found lease held
    rw [only number] at found
    split at found
    · cases found
      cases held
    · cases found

structure Execution.LeasesContinue (execution next : Execution D) : Prop where
  attempts : execution.AttemptsContinue Attempt.LeaseContinues next
  /-- Ordinary work is never claimed twice on one attempt. -/
  ordinary : execution.routine = none → execution.AttemptsContinue Attempt.LeaseKept next
  kind : execution.routine = none → next.routine = none

theorem Change.leasesContinue (change : Change env call db id execution next)
    (formed : execution.LeasesFormed) : execution.LeasesContinue next where
  attempts := by
    refine change.attemptsContinue _ (fun attempt => (Attempt.LeaseKept.refl attempt).continues)
      (fun attempt profile => (stopLease_leaseKept attempt profile).continues) ?_
    intro number attempt later status routine found move
    rcases move.leaseKept (formed number attempt found) with kept | ⟨_, _, _, _, acquired⟩
    · exact kept.continues
    · exact acquired.continues
  ordinary := by
    intro ordinary
    refine change.attemptsContinue _ .refl stopLease_leaseKept ?_
    intro number attempt later status routine found move
    rcases move.leaseKept (formed number attempt found) with kept | ⟨_, _, _, has, _⟩
    · exact kept
    · rw [Execution.routineAt_of_none execution number ordinary] at has
      cases has
  kind := change.routine_eq_none_iff.mpr

end Moves

def leaseRowsRule [DecidableEq D] (env : Env D) : UnitRule env where
  Condition := fun _ _ _ _ => True
  Holds := fun _ execution => execution.LeasesFormed
  Related := Execution.LeasesContinue
  reflexive := fun execution =>
    ⟨.refl (fun attempt => (Attempt.LeaseKept.refl attempt).continues) execution,
      fun _ => .refl .refl execution, fun ordinary => ordinary⟩
  transitive := fun earlier later =>
    ⟨Execution.AttemptsContinue.trans .trans earlier.attempts later.attempts,
      fun ordinary => Execution.AttemptsContinue.trans .trans (earlier.ordinary ordinary)
        (later.ordinary (earlier.kind ordinary)),
      fun ordinary => later.kind (earlier.kind ordinary)⟩
  birth := fun _ _ _ _ born => ⟨born.leasesFormed, trivial⟩
  change := fun _ _ _ _ _ formed _ change =>
    ⟨⟨change.leasesFormed formed, trivial⟩, change.leasesContinue formed⟩

end Foundry
