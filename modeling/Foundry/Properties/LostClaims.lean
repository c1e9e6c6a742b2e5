import Foundry.Worker.Loop
import Foundry.Lib.Run

/-!
# Lost claims

A claim whose response was lost is kept as ambiguous, and its id is to be sent again.  The loop
counts it against its slots, so that the replay needs a slot beside the one that it holds.
-/

set_option autoImplicit false

namespace Foundry

/-! ## Runs -/

inductive LoopEvent where
  | resumes (draw : LoopDraw) (input : LoopInput)
  | taskDone
  | stop
deriving DecidableEq, Repr

namespace WorkerLoop

def apply (config : LoopConfig) (event : LoopEvent) (loop : WorkerLoop) :
    Except Unit (Unit × WorkerLoop) :=
  match event with
  | .resumes draw input =>
    match loop.resume config draw input with
    | some next => .ok ((), next)
    | none => .error ()
  | .taskDone => .ok ((), loop.taskDone)
  | .stop => .ok ((), loop.stop)

def run (config : LoopConfig) (draw : LoopDraw) (waitEnabled : Bool) (events : List LoopEvent) :
    WorkerLoop :=
  Run.run (apply config) (start config draw waitEnabled) events

/-! ## Passes -/

def topPass (config : LoopConfig) (draw : LoopDraw) (loop : WorkerLoop) : Option WorkerLoop :=
  if loop.stopping = true ∨ config.maxTurns.any (· ≤ loop.results) then none
  else if loop.isReconciled config draw then some { loop with reconciliationRetries := 0 }
  else none

def reconciledPass (config : LoopConfig) (draw : LoopDraw) (loop : WorkerLoop) (force : Bool) :
    Option WorkerLoop :=
  if force then topPass config draw { loop with reconciliationRetries := 0 }
  else some { loop with reconciliationRetries := 0 }

def initializationPass (config : LoopConfig) (draw : LoopDraw) (loop : WorkerLoop) :
    Option WorkerLoop :=
  if loop.stopping = true then loop.topPass config draw
  else if config.hasReconciler = false then
    topPass config draw { loop with reconciliationRetries := 0 }
  else none

/-- The profiles are reconciled, and the receipt is not due. -/
def profilesPass (config : LoopConfig) (draw : LoopDraw) (loop : WorkerLoop) (force : Bool)
    (started : Instant) (materialized : Bool) (snapshot : Option LoopSnapshot) :
    Option WorkerLoop :=
  if snapshot.any LoopSnapshot.hasStartEpoch ∧ (force = true ∨
      loop.lastReadinessReport.all (config.heartbeatInterval ≤ started - ·)) then none
  else
    reconciledPass config draw
      { loop with
        fastPolls := if materialized then postMaterializationFastPolls else loop.fastPolls
        profilesReconciled := true
        lastReconciliation := some draw.now
        activityRevision := max loop.activityRevision
          ((snapshot.map LoopSnapshot.activityRevision).getD 0) } force

def pass? (config : LoopConfig) (draw : LoopDraw) (input : LoopInput) (loop : WorkerLoop) :
    Option WorkerLoop :=
  match input, loop.point with
  | .profilesDone materialized snapshot, .reconciling force started =>
    loop.profilesPass config draw force started materialized snapshot
  | .reported, .reporting force =>
    reconciledPass config draw { loop with lastReadinessReport := some draw.now } force
  | .joined done, .joining =>
    if done = 0 then loop.topPass config draw
    else
      topPass config draw (delaysReset config
        { loop with
          results := loop.results + min done loop.active
          active := loop.active - done
          empty := 0 })
  | .waited true revision, .waiting =>
    topPass config draw (delaysReset config
      { loop with
        activityRevision := max loop.activityRevision revision
        profilesReconciled := false
        empty := 0 })
  | .woke, .sleeping => loop.topPass config draw
  | .woke, .retrying true => loop.initializationPass config draw
  | .woke, .retrying false => loop.topPass config draw
  | _, _ => none

variable {config : LoopConfig} {draw : LoopDraw} {input : LoopInput} {loop pass next : WorkerLoop}

theorem top_of_pass (enters : loop.topPass config draw = some pass) :
    loop.top config draw = pass.round config draw := by
  unfold topPass at enters
  unfold top
  split at enters
  · cases enters
  · next goesOn =>
    rw [if_neg goesOn]
    split at enters
    · next isReconciled =>
      rw [if_pos isReconciled, ← Option.some.inj enters]
    · cases enters

variable {force : Bool}

theorem reconciled_of_pass (enters : loop.reconciledPass config draw force = some pass) :
    loop.reconciled config draw force = pass.round config draw := by
  cases force with
  | true => exact top_of_pass enters
  | false =>
    rw [← Option.some.inj enters]
    rfl

theorem initialization_of_pass (enters : loop.initializationPass config draw = some pass) :
    loop.initialization config draw = pass.round config draw := by
  unfold initializationPass at enters
  unfold initialization
  split at enters
  · next stopping =>
    rw [if_pos stopping]
    exact top_of_pass enters
  · next running =>
    rw [if_neg running]
    split at enters
    · next none =>
      rw [if_pos none]
      exact top_of_pass enters
    · cases enters

theorem profilesDone_of_pass {materialized : Bool} {started : Instant}
    {snapshot : Option LoopSnapshot}
    (enters : loop.profilesPass config draw force started materialized snapshot = some pass) :
    loop.profilesDone config draw force started materialized snapshot =
      pass.round config draw := by
  unfold profilesPass at enters
  split at enters
  · cases enters
  · next notDue =>
    rw [profilesDone, if_neg notDue]
    exact reconciled_of_pass enters

theorem resume_of_pass (enters : loop.pass? config draw input = some pass) :
    loop.resume config draw input = some (pass.round config draw) := by
  unfold pass? at enters
  split at enters
  · next materialized snapshot force started point =>
    have resumed : loop.resume config draw (.profilesDone materialized snapshot) =
        some (loop.profilesDone config draw force started materialized snapshot) := by
      simp only [resume, point]
    rw [resumed, profilesDone_of_pass enters]
  · next force point =>
    have resumed : loop.resume config draw .reported = some (reconciled config draw
        { loop with lastReadinessReport := some draw.now } force) := by
      simp only [resume, point]
    rw [resumed, reconciled_of_pass enters]
  · next done point =>
    have resumed : loop.resume config draw (.joined done) =
        some (loop.joined config draw done) := by
      simp only [resume, point]
    rw [resumed, joined]
    split at enters
    · next none =>
      rw [if_pos none, top_of_pass enters]
    · next some =>
      rw [if_neg some, top_of_pass enters]
  · next revision point =>
    have resumed : loop.resume config draw (.waited true revision) =
        some (loop.waited config draw true revision) := by
      simp only [resume, point]
    rw [resumed]
    exact congrArg some (top_of_pass enters)
  · next point =>
    have resumed : loop.resume config draw .woke = some (loop.top config draw) := by
      simp only [resume, point]
    rw [resumed, top_of_pass enters]
  · next point =>
    have resumed : loop.resume config draw .woke = some (loop.initialization config draw) := by
      simp only [resume, point]
    rw [resumed, initialization_of_pass enters]
  · next point =>
    have resumed : loop.resume config draw .woke = some (loop.top config draw) := by
      simp only [resume, point]
    rw [resumed, top_of_pass enters]
  · cases enters

/-! ## What a pass may claim -/

structure Fits (config : LoopConfig) (loop : WorkerLoop) : Prop where
  ambiguous : loop.ambiguousClaims.length ≤ 1
  running : loop.active ≤ config.slots

/-- A request keeps a slot free beside the ambiguous claims, and is for one of them if there is
one. -/
structure Bounded (config : LoopConfig) (loop : WorkerLoop) : Prop extends Fits config loop where
  free : ∀ claimId, loop.point = .claiming claimId →
    loop.active + loop.ambiguousClaims.length < config.slots
  replays : ∀ claimId, loop.point = .claiming claimId →
    ∀ claim ∈ loop.ambiguousClaims, claim.1 = claimId

theorem Fits.bounded (fits : loop.Fits config) (waits : ∀ claimId, loop.point ≠ .claiming claimId) :
    loop.Bounded config where
  toFits := fits
  free := fun claimId point => absurd point (waits claimId)
  replays := fun claimId point => absurd point (waits claimId)

def mayClaim (config : LoopConfig) (loop : WorkerLoop) : Bool :=
  !loop.stopping && config.maxTurns.all (loop.results + loop.active < ·)

theorem mayClaim_eq_true : loop.mayClaim config = true ↔
    loop.stopping = false ∧ config.maxTurns.all (loop.results + loop.active < ·) = true := by
  rw [mayClaim, Bool.and_eq_true, Bool.not_eq_true']

theorem afterClaims_kept :
    (loop.afterClaims config).ambiguousClaims = loop.ambiguousClaims ∧
      (loop.afterClaims config).active = loop.active ∧
      ∀ claimId, (loop.afterClaims config).point ≠ .claiming claimId := by
  unfold afterClaims
  repeat' split
  all_goals
    refine ⟨rfl, rfl, ?_⟩
    rintro _ ⟨⟩

section

variable (fits : loop.Fits config)

include fits

theorem Fits.afterClaims : (loop.afterClaims config).Bounded config := by
  obtain ⟨claims, active, waits⟩ := @afterClaims_kept config loop
  refine bounded ⟨?_, ?_⟩ waits
  · rw [claims]
    exact fits.ambiguous
  · rw [active]
    exact fits.running

theorem Fits.head (other : Uuid) (claim : Uuid × Instant) (member : claim ∈ loop.ambiguousClaims) :
    claim.1 = (loop.ambiguousClaims.head?.map Prod.fst).getD other := by
  have few := fits.ambiguous
  cases ambiguous : loop.ambiguousClaims with
  | nil =>
    rw [ambiguous] at member
    cases member
  | cons _ rest =>
    rw [ambiguous, List.length_cons] at few
    have alone : rest = [] := List.length_eq_zero_iff.mp (by omega)
    rw [ambiguous, alone, List.mem_singleton] at member
    rw [member]
    rfl

theorem Fits.claims : (loop.claims config draw).Bounded config := by
  unfold WorkerLoop.claims
  split
  · next gate =>
    refine ⟨⟨fits.ambiguous, fits.running⟩, ?_, ?_⟩
    · exact fun _ _ => gate.2.1
    · intro claimId point claim member
      rw [← LoopPoint.claiming.inj point]
      exact fits.head draw.claimId claim member
  · exact fits.afterClaims

theorem Fits.round : (loop.round config draw).Bounded config := by
  refine @claims config draw _ ⟨?_, fits.running⟩
  exact Nat.le_trans (List.length_filter_le ..) fits.ambiguous

theorem Fits.top : (loop.top config draw).Bounded config := by
  unfold WorkerLoop.top
  split
  · split
    all_goals exact bounded ⟨fits.ambiguous, fits.running⟩ (by rintro claimId ⟨⟩)
  split
  · exact round ⟨fits.ambiguous, fits.running⟩
  · exact bounded ⟨fits.ambiguous, fits.running⟩ (by rintro claimId ⟨⟩)

theorem Fits.reconciled (force : Bool) :
    (loop.reconciled config draw force).Bounded config := by
  unfold WorkerLoop.reconciled
  split
  · exact top ⟨fits.ambiguous, fits.running⟩
  · exact round ⟨fits.ambiguous, fits.running⟩

theorem Fits.initialization :
    (loop.initialization config draw).Bounded config := by
  unfold WorkerLoop.initialization
  split
  · exact fits.top
  split
  · exact top ⟨fits.ambiguous, fits.running⟩
  · exact bounded ⟨fits.ambiguous, fits.running⟩ (by rintro claimId ⟨⟩)

theorem Fits.profilesDone (force : Bool) (started : Instant)
    (materialized : Bool) (snapshot : Option LoopSnapshot) :
    (loop.profilesDone config draw force started materialized snapshot).Bounded config := by
  rw [WorkerLoop.profilesDone]
  by_cases due : snapshot.any LoopSnapshot.hasStartEpoch ∧ (force = true ∨
      loop.lastReadinessReport.all (config.heartbeatInterval ≤ started - ·))
  · rw [if_pos due]
    exact bounded ⟨fits.ambiguous, fits.running⟩ (by rintro claimId ⟨⟩)
  · rw [if_neg due]
    refine reconciled ?_ force
    exact ⟨fits.ambiguous, fits.running⟩

section

variable (force : Bool) (error : FoundryError)

theorem Fits.reconciliationFailed :
    (loop.reconciliationFailed force error).Bounded config := by
  unfold WorkerLoop.reconciliationFailed
  split
  all_goals exact bounded ⟨fits.ambiguous, fits.running⟩ (by rintro claimId ⟨⟩)

theorem Fits.reportFailed :
    (loop.reportFailed force error).Bounded config := by
  unfold WorkerLoop.reportFailed
  split
  · refine reconciliationFailed ?_ force _
    exact ⟨fits.ambiguous, fits.running⟩
  · exact fits.reconciliationFailed force error

end

end

/-! ## Answers to a claim -/

theorem Fits.answeredClaim (fits : loop.Fits config) (claimId : Uuid) :
    (loop.answeredClaim config claimId).Fits config where
  ambiguous := Nat.le_trans (List.length_filter_le ..) fits.ambiguous
  running := fits.running

theorem Fits.claimEmpty (fits : loop.Fits config) (claimId : Uuid) :
    (loop.claimEmpty config draw claimId).Bounded config := by
  have answered := fits.answeredClaim claimId
  rw [WorkerLoop.claimEmpty]
  split
  all_goals exact afterClaims ⟨answered.ambiguous, answered.running⟩

variable {claimId : Uuid}

theorem Bounded.claimed (bounded : loop.Bounded config) (point : loop.point = .claiming claimId) :
    (loop.claimed config draw claimId).Bounded config := by
  have answered := bounded.toFits.answeredClaim claimId
  refine @Fits.claims config draw _ ⟨answered.ambiguous, ?_⟩
  exact Nat.succ_le_of_lt (Nat.lt_of_le_of_lt (Nat.le_add_right ..) (bounded.free claimId point))

theorem Fits.claimRetried (fits : loop.Fits config) :
    (loop.claimRetried config draw).Bounded config :=
  afterClaims ⟨fits.ambiguous, fits.running⟩

section

variable (bounded : loop.Bounded config) {claimId : Uuid} (point : loop.point = .claiming claimId)

include bounded point

theorem Bounded.responseLost (now : Instant) :
    (if loop.ambiguousClaims.any fun claim => claim.1 = claimId then loop.ambiguousClaims
      else loop.ambiguousClaims ++ [(claimId, now)]).length ≤ 1 := by
  split
  · exact bounded.ambiguous
  · next fresh =>
    have none : loop.ambiguousClaims = [] := by
      refine List.eq_nil_iff_forall_not_mem.mpr fun claim member => fresh ?_
      rw [List.any_eq_true]
      exact ⟨claim, member, decide_eq_true (bounded.replays claimId point claim member)⟩
    rw [none]
    exact Nat.le_refl 1

theorem Bounded.claimFailed (error : FoundryError) :
    (loop.claimFailed config draw claimId error).Bounded config := by
  have fits := bounded.toFits
  unfold WorkerLoop.claimFailed
  split
  · exact Fits.claimRetried ⟨bounded.responseLost point draw.now, fits.running⟩
  · exact Fits.afterClaims ⟨fits.ambiguous, fits.running⟩
  · exact Fits.afterClaims ⟨fits.ambiguous, fits.running⟩
  · exact Fits.claimRetried ⟨fits.ambiguous, fits.running⟩
  · exact fits.claimRetried
  · exact fits.claimRetried
  all_goals exact Fits.bounded ⟨fits.ambiguous, fits.running⟩ (by rintro claimId ⟨⟩)

end

/-! ## Steps -/

section

variable (fits : loop.Fits config)

include fits

theorem Fits.joined (done : Nat) :
    (loop.joined config draw done).Bounded config := by
  unfold WorkerLoop.joined
  split
  · exact fits.top
  · exact top ⟨fits.ambiguous, Nat.le_trans (Nat.sub_le ..) fits.running⟩

theorem Fits.waited (changed : Bool) (revision : Nat) :
    (loop.waited config draw changed revision).Bounded config := by
  cases changed with
  | true => exact top ⟨fits.ambiguous, fits.running⟩
  | false => exact bounded ⟨fits.ambiguous, fits.running⟩ (by rintro claimId ⟨⟩)

theorem Fits.waitFailed (error : FoundryError) :
    (loop.waitFailed config draw error).Bounded config := by
  unfold WorkerLoop.waitFailed
  split
  · exact bounded ⟨fits.ambiguous, fits.running⟩ (by rintro claimId ⟨⟩)
  split
  · exact bounded ⟨fits.ambiguous, fits.running⟩ (by rintro claimId ⟨⟩)
  split
  · exact top ⟨fits.ambiguous, fits.running⟩
  · exact top ⟨fits.ambiguous, fits.running⟩
  all_goals exact bounded ⟨fits.ambiguous, fits.running⟩ (by rintro claimId ⟨⟩)

end

section

variable (bounded : loop.Bounded config)

include bounded

theorem Bounded.resume
    (resumed : loop.resume config draw input = some next) : next.Bounded config := by
  have fits := bounded.toFits
  unfold WorkerLoop.resume at resumed
  split at resumed
  · exact Option.some.inj resumed ▸ fits.profilesDone _ _ _ _
  · exact Option.some.inj resumed ▸ fits.reconciliationFailed _ _
  · refine Option.some.inj resumed ▸ Fits.reconciled ?_ _
    exact ⟨fits.ambiguous, fits.running⟩
  · exact Option.some.inj resumed ▸ fits.reportFailed _ _
  · exact Option.some.inj resumed ▸ fits.claimEmpty _
  · next point => exact Option.some.inj resumed ▸ bounded.claimed point
  · next point => exact Option.some.inj resumed ▸ bounded.claimFailed point _
  · exact Option.some.inj resumed ▸ fits.joined _
  · exact Option.some.inj resumed ▸
      Fits.bounded ⟨fits.ambiguous, Nat.zero_le _⟩ (by rintro claimId ⟨⟩)
  · exact Option.some.inj resumed ▸ fits.waited _ _
  · exact Option.some.inj resumed ▸ fits.waitFailed _
  · exact Option.some.inj resumed ▸ fits.top
  · exact Option.some.inj resumed ▸ fits.initialization
  · exact Option.some.inj resumed ▸ fits.top
  · cases resumed

theorem Bounded.taskDone : loop.taskDone.Bounded config := by
  unfold WorkerLoop.taskDone
  split
  · exact bounded
  · refine ⟨⟨bounded.ambiguous, Nat.le_trans (Nat.sub_le ..) bounded.running⟩, ?_, bounded.replays⟩
    intro claimId point
    exact Nat.lt_of_le_of_lt (Nat.add_le_add_right (Nat.sub_le ..) _) (bounded.free claimId point)

theorem Bounded.stop : loop.stop.Bounded config := by
  refine ⟨⟨bounded.ambiguous, Nat.zero_le _⟩, ?_, bounded.replays⟩
  intro claimId point
  exact Nat.lt_of_le_of_lt (Nat.add_le_add_right (Nat.zero_le _) _) (bounded.free claimId point)

end

theorem Bounded.apply {event : LoopEvent} (bounded : loop.Bounded config)
    (success : apply config event loop = .ok ((), next)) : next.Bounded config := by
  cases event with
  | resumes =>
    simp only [WorkerLoop.apply] at success
    split at success
    · next resumed =>
      cases success
      exact bounded.resume resumed
    · cases success
  | taskDone =>
    cases success
    exact bounded.taskDone
  | stop =>
    cases success
    exact bounded.stop

theorem bounded_run (config : LoopConfig) (draw : LoopDraw) (waitEnabled : Bool)
    (events : List LoopEvent) : (run config draw waitEnabled events).Bounded config :=
  Run.invariant (Bounded config) (fun _ _ _ _ bounded success => bounded.apply success) _ events
    (Fits.initialization ⟨Nat.zero_le 1, Nat.zero_le _⟩)

/-! ## Replays -/

theorem fits_of_topPass (enters : loop.topPass config draw = some pass)
    (fits : loop.Fits config) : pass.Fits config := by
  unfold topPass at enters
  split at enters
  · cases enters
  split at enters
  · exact Option.some.inj enters ▸ ⟨fits.ambiguous, fits.running⟩
  · cases enters

theorem fits_of_reconciledPass (enters : loop.reconciledPass config draw force = some pass)
    (fits : loop.Fits config) : pass.Fits config := by
  cases force with
  | true => exact fits_of_topPass enters ⟨fits.ambiguous, fits.running⟩
  | false => exact Option.some.inj enters ▸ ⟨fits.ambiguous, fits.running⟩

theorem fits_of_initializationPass (enters : loop.initializationPass config draw = some pass)
    (fits : loop.Fits config) : pass.Fits config := by
  unfold initializationPass at enters
  split at enters
  · exact fits_of_topPass enters fits
  split at enters
  · exact fits_of_topPass enters ⟨fits.ambiguous, fits.running⟩
  · cases enters

theorem fits_of_pass (enters : loop.pass? config draw input = some pass)
    (fits : loop.Fits config) : pass.Fits config := by
  unfold pass? at enters
  split at enters
  · unfold profilesPass at enters
    split at enters
    · cases enters
    · exact fits_of_reconciledPass enters ⟨fits.ambiguous, fits.running⟩
  · exact fits_of_reconciledPass enters ⟨fits.ambiguous, fits.running⟩
  · split at enters
    · exact fits_of_topPass enters fits
    · exact fits_of_topPass enters
        ⟨fits.ambiguous, Nat.le_trans (Nat.sub_le ..) fits.running⟩
  · exact fits_of_topPass enters ⟨fits.ambiguous, fits.running⟩
  · exact fits_of_topPass enters fits
  · exact fits_of_initializationPass enters fits
  · exact fits_of_topPass enters fits
  · cases enters

theorem Fits.round_replays (fits : loop.Fits config) {lost : Instant}
    (isAmbiguous : (claimId, lost) ∈ loop.ambiguousClaims)
    (unexpired : draw.now - lost < config.leaseSeconds) :
    ((loop.round config draw).point = .claiming claimId ↔
        loop.mayClaim config = true ∧ loop.active + 1 < config.slots) ∧
      ∀ other, (loop.round config draw).point = .claiming other → other = claimId := by
  have alone : loop.ambiguousClaims = [(claimId, lost)] := by
    have few := fits.ambiguous
    cases ambiguous : loop.ambiguousClaims with
    | nil =>
      rw [ambiguous] at isAmbiguous
      cases isAmbiguous
    | cons _ rest =>
      rw [ambiguous, List.length_cons] at few
      have none : rest = [] := List.length_eq_zero_iff.mp (by omega)
      rw [ambiguous, none, List.mem_singleton] at isAmbiguous
      rw [none, isAmbiguous]
  have kept : (loop.ambiguousClaims.filter fun claim =>
      draw.now - claim.2 < config.leaseSeconds) = [(claimId, lost)] := by
    rw [alone]
    exact List.filter_cons_of_pos (decide_eq_true unexpired)
  rw [mayClaim_eq_true, WorkerLoop.round, kept, WorkerLoop.claims]
  by_cases gate : loop.stopping = false ∧ loop.active + [(claimId, lost)].length < config.slots ∧
      config.maxTurns.all (loop.results + loop.active < ·)
  · rw [if_pos gate]
    obtain ⟨running, free, within⟩ := gate
    refine ⟨⟨fun _ => ⟨⟨running, within⟩, free⟩, fun _ => rfl⟩, ?_⟩
    intro other point
    exact (LoopPoint.claiming.inj point).symm
  · rw [if_neg gate]
    obtain ⟨_, _, waits⟩ := @afterClaims_kept config
      { loop with ambiguousClaims := [(claimId, lost)] }
    refine ⟨⟨fun point => absurd point (waits claimId), ?_⟩, fun other point =>
      absurd point (waits other)⟩
    rintro ⟨⟨running, within⟩, free⟩
    exact absurd ⟨running, free, within⟩ gate

/-- In every run at most one claim is ambiguous, at most `slots` tasks run, and no other id is sent
beside an ambiguous one; and a pass with an unexpired ambiguous claim that may claim at all replays
it exactly if two slots are free. -/
theorem lost_claims_replay_with_two_free_slots (config : LoopConfig) (draw : LoopDraw)
    (waitEnabled : Bool) (events : List LoopEvent) :
    (run config draw waitEnabled events).ambiguousClaims.length ≤ 1 ∧
    (run config draw waitEnabled events).active ≤ config.slots ∧
    (∀ claimId, (run config draw waitEnabled events).point = .claiming claimId →
      ∀ claim ∈ (run config draw waitEnabled events).ambiguousClaims, claim.1 = claimId) ∧
    ∀ (draws : LoopDraw) (input : LoopInput) (pass : WorkerLoop) (claimId : Uuid) (lost : Instant),
      (run config draw waitEnabled events).pass? config draws input = some pass →
      (claimId, lost) ∈ pass.ambiguousClaims → draws.now - lost < config.leaseSeconds →
      ∃ next, (run config draw waitEnabled events).resume config draws input = some next ∧
        (next.point = .claiming claimId ↔
          pass.mayClaim config = true ∧ pass.active + 1 < config.slots) ∧
        ∀ other, next.point = .claiming other → other = claimId := by
  have bounded := bounded_run config draw waitEnabled events
  refine ⟨bounded.ambiguous, bounded.running, bounded.replays, ?_⟩
  intro draws input pass claimId lost enters isAmbiguous unexpired
  exact ⟨_, resume_of_pass enters,
    (fits_of_pass enters bounded.toFits).round_replays isAmbiguous unexpired⟩

/-! ## A claim that is lost beside a task -/

def loopConfig (slots : Nat) (slotsBounded : 2 ≤ slots ∧ slots ≤ 8) : LoopConfig where
  slots := slots
  slotsBounded := slotsBounded
  maxTurns := none
  idleCycles := none
  idleDelay := seconds 1
  leaseSeconds := seconds 60
  hasReconciler := false
  reconcileInterval := seconds 30
  heartbeatInterval := seconds 15

def drawAt (now : Instant) (claimId : Uuid) : LoopDraw := ⟨now, 0, claimId⟩

/-- The first claim is run, and the response to the second is lost. -/
def secondClaimLost : List LoopEvent :=
  [.resumes (drawAt 0 2) .claimed,
    .resumes (drawAt 0 2) (.claimFailed ⟨.responseLoss, 0, "RESPONSE_LOST"⟩)]

theorem lost_claim_is_replayed_with_three_slots :
    ∃ next, (run (loopConfig 3 (by decide)) (drawAt 0 1) false secondClaimLost).resume
        (loopConfig 3 (by decide)) (drawAt (seconds 1) 3) (.joined 0) = some next ∧
      next.point = .claiming 2 := by
  have law := (lost_claims_replay_with_two_free_slots (loopConfig 3 (by decide)) (drawAt 0 1)
    false secondClaimLost).2.2.2
  have entered : ∃ pass, (run (loopConfig 3 (by decide)) (drawAt 0 1) false
      secondClaimLost).pass? (loopConfig 3 (by decide)) (drawAt (seconds 1) 3) (.joined 0) =
        some pass ∧ pass.ambiguousClaims = [(2, 0)] ∧
        pass.mayClaim (loopConfig 3 (by decide)) = true ∧ pass.active = 1 :=
    ⟨_, rfl, by decide +kernel, by decide +kernel, by decide +kernel⟩
  obtain ⟨pass, enters, isAmbiguous, may, active⟩ := entered
  obtain ⟨next, resumed, replays, _⟩ := law (drawAt (seconds 1) 3) (.joined 0) pass 2 0 enters
    (by rw [isAmbiguous]; exact List.mem_singleton.mpr rfl) (by decide)
  exact ⟨next, resumed, replays.mpr ⟨may, by rw [active]; decide⟩⟩

/-- With two slots the passes beside the task send nothing, until the id expires and a fresh one is
sent. -/
theorem lost_claim_beside_a_task_expires :
    (run (loopConfig 2 (by decide)) (drawAt 0 1) false secondClaimLost).active = 1 ∧
    (run (loopConfig 2 (by decide)) (drawAt 0 1) false secondClaimLost).ambiguousClaims =
      [(2, 0)] ∧
    ((run (loopConfig 2 (by decide)) (drawAt 0 1) false secondClaimLost).pass?
      (loopConfig 2 (by decide)) (drawAt (seconds 1) 3) (.joined 0)).isSome = true ∧
    (run (loopConfig 2 (by decide)) (drawAt 0 1) false
      (secondClaimLost ++ [.resumes (drawAt (seconds 1) 3) (.joined 0)])).point = .joining ∧
    (run (loopConfig 2 (by decide)) (drawAt 0 1) false
      (secondClaimLost ++ [.resumes (drawAt (seconds 1) 3) (.joined 0),
        .resumes (drawAt (seconds 60) 3) (.joined 0)])).point = .claiming 3 := by
  decide +kernel

end WorkerLoop

end Foundry
