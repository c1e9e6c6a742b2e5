import Foundry.Lib.Log
import Foundry.Worker.Activity

/-!
# Activity waits

Between what the worker knows of the activity revision and the wait it starts on it there
is an empty claim pass, and a wait returns without a change only if nothing advanced since
that pass began.
-/

set_option autoImplicit false

namespace Foundry

/-! ## Where the loop may go -/

namespace WorkerLoop

variable {config : LoopConfig} {draw : LoopDraw} {loop next : WorkerLoop}

@[simp] theorem afterClaims_activityRevision :
    (loop.afterClaims config).activityRevision = loop.activityRevision := by
  unfold afterClaims
  repeat' split
  all_goals rfl

@[simp] theorem claims_activityRevision :
    (loop.claims config draw).activityRevision = loop.activityRevision := by
  unfold claims
  split
  · rfl
  · exact afterClaims_activityRevision

@[simp] theorem round_activityRevision :
    (loop.round config draw).activityRevision = loop.activityRevision := by
  simp [round]

@[simp] theorem top_activityRevision :
    (loop.top config draw).activityRevision = loop.activityRevision := by
  unfold top
  repeat' split
  all_goals simp

@[simp] theorem initialization_activityRevision :
    (loop.initialization config draw).activityRevision = loop.activityRevision := by
  unfold initialization
  repeat' split
  all_goals simp

@[simp] theorem reconciled_activityRevision (force : Bool) :
    (loop.reconciled config draw force).activityRevision = loop.activityRevision := by
  unfold reconciled
  split <;> simp

theorem of_afterClaims_waiting (waits : (loop.afterClaims config).point = .waiting) :
    loop.active = 0 ∧ loop.ambiguousClaims = [] ∧ loop.stopping = false ∧
      loop.retryPending = false := by
  unfold afterClaims at waits
  split at waits
  · cases waits
  next idle =>
  split at waits
  · cases waits
  next certain =>
  split at waits
  · cases waits
  next open_loop =>
  split at waits
  · next ready =>
    simp only [not_or, Bool.not_eq_true] at open_loop
    exact ⟨not_not.mp idle, not_not.mp certain, open_loop.2, ready.2.1⟩
  · cases waits

theorem claims_ne_waiting (left : config.maxTurns.all (loop.results < ·) = true ∨ loop.active ≠ 0) :
    (loop.claims config draw).point ≠ .waiting := by
  intro waits
  unfold claims at waits
  split at waits
  · cases waits
  · next none_claimed =>
    obtain ⟨idle, certain, running, _⟩ := of_afterClaims_waiting waits
    have bounded := config.slotsBounded
    rcases left with left | busy
    · apply none_claimed
      refine ⟨running, ?_, ?_⟩
      · rw [idle, certain]
        simp
        omega
      · rw [idle]
        exact left
    · exact busy idle

theorem round_ne_waiting (left : config.maxTurns.all (loop.results < ·) = true) :
    (loop.round config draw).point ≠ .waiting :=
  claims_ne_waiting (Or.inl left)

theorem top_ne_waiting : (loop.top config draw).point ≠ .waiting := by
  unfold top
  split
  · split <;> simp
  · next goes_on =>
    split
    · apply round_ne_waiting
      simp only [not_or] at goes_on
      cases turns : config.maxTurns with
      | none => rfl
      | some => simpa [turns] using goes_on.2
    · simp

theorem initialization_ne_waiting : (loop.initialization config draw).point ≠ .waiting := by
  unfold initialization
  split
  · exact top_ne_waiting
  split
  · exact top_ne_waiting
  · simp

theorem claimRetried_ne_waiting : (loop.claimRetried config draw).point ≠ .waiting := by
  intro waits
  have retried := (of_afterClaims_waiting waits).2.2.2
  simp at retried

def isPreparing (loop : WorkerLoop) : Bool :=
  match loop.point with
  | .reconciling false _ | .reporting false => true
  | _ => false

def HasTurn (config : LoopConfig) (loop : WorkerLoop) : Prop :=
  loop.isPreparing = true → config.maxTurns.all (loop.results < ·) = true

theorem afterClaims_isPreparing : (loop.afterClaims config).isPreparing = false := by
  unfold afterClaims
  repeat' split
  all_goals rfl

theorem claims_isPreparing : (loop.claims config draw).isPreparing = false := by
  unfold claims
  split
  · rfl
  · exact afterClaims_isPreparing

theorem hasTurn_of_not_preparing (other : loop.isPreparing = false) : loop.HasTurn config := by
  intro preparing
  rw [other] at preparing
  cases preparing

theorem top_hasTurn : (loop.top config draw).HasTurn config := by
  unfold top
  split
  · split <;> exact hasTurn_of_not_preparing rfl
  · next goes_on =>
    split
    · exact hasTurn_of_not_preparing claims_isPreparing
    · intro _
      simp only [not_or] at goes_on
      cases turns : config.maxTurns with
      | none => rfl
      | some => simpa [turns] using goes_on.2

theorem initialization_hasTurn : (loop.initialization config draw).HasTurn config := by
  unfold initialization
  split
  · exact top_hasTurn
  split
  · exact top_hasTurn
  · exact hasTurn_of_not_preparing rfl

theorem reconciled_hasTurn (force : Bool) :
    (loop.reconciled config draw force).HasTurn config := by
  unfold reconciled
  split
  · exact top_hasTurn
  · exact hasTurn_of_not_preparing claims_isPreparing

theorem reconciled_ne_waiting (force : Bool)
    (left : force = false → config.maxTurns.all (loop.results < ·) = true) :
    (loop.reconciled config draw force).point ≠ .waiting := by
  unfold reconciled
  cases force with
  | true => exact top_ne_waiting
  | false => exact round_ne_waiting (left rfl)

end WorkerLoop

def LoopInput.revision : LoopInput → Nat
  | .profilesDone _ snapshot => (snapshot.map LoopSnapshot.activityRevision).getD 0
  | .waited _ revision => revision
  | _ => 0

namespace WorkerLoop

/-- What an answer does: only an empty claim leads to a wait, and only a snapshot or a wait
result changes the known revision. -/
structure Resumes (config : LoopConfig) (loop : WorkerLoop) (input : LoopInput)
    (next : WorkerLoop) : Prop where
  hasTurn : next.HasTurn config
  waits : next.point = .waiting → input = .claimEmpty ∧ ∃ claimId, loop.point = .claiming claimId
  known : next.activityRevision = max loop.activityRevision input.revision

variable {config : LoopConfig} {draw : LoopDraw} {loop next : WorkerLoop} {input : LoopInput}

theorem resumes_of_point (other : next.isPreparing = false) (elsewhere : next.point ≠ .waiting)
    (known : next.activityRevision = max loop.activityRevision input.revision) :
    Resumes config loop input next :=
  ⟨hasTurn_of_not_preparing other, fun waits => absurd waits elsewhere, known⟩

theorem resumes_of_top (known : next.activityRevision = max loop.activityRevision input.revision) :
    Resumes config loop input (next.top config draw) :=
  ⟨top_hasTurn, fun waits => absurd waits top_ne_waiting, by rw [top_activityRevision, known]⟩

variable {force : Bool}

theorem resumes_of_reconciled (left : force = false → config.maxTurns.all (next.results < ·) = true)
    (known : next.activityRevision = max loop.activityRevision input.revision) :
    Resumes config loop input (next.reconciled config draw force) :=
  ⟨reconciled_hasTurn force, fun waits => absurd waits (reconciled_ne_waiting force left),
    by rw [reconciled_activityRevision, known]⟩

theorem resumes_of_failed {error : FoundryError}
    (known : next.activityRevision = max loop.activityRevision input.revision) :
    Resumes config loop input (next.reconciliationFailed force error) := by
  unfold reconciliationFailed
  split
  · exact resumes_of_point rfl (by simp) known
  · exact resumes_of_point rfl (by simp) known

theorem profilesDone_resumes {started : Instant} {materialized : Bool}
    {snapshot : Option LoopSnapshot} (point : loop.point = .reconciling force started)
    (turn : loop.HasTurn config) :
    Resumes config loop (.profilesDone materialized snapshot)
      (loop.profilesDone config draw force started materialized snapshot) := by
  have left : force = false → config.maxTurns.all (loop.results < ·) = true := by
    rintro rfl
    exact turn (by simp [isPreparing, point])
  unfold profilesDone
  dsimp only
  split
  · refine ⟨?_, by simp, rfl⟩
    intro preparing
    cases force with
    | true => simp [isPreparing] at preparing
    | false => exact left rfl
  · exact resumes_of_reconciled left rfl

theorem claimRetried_resumes (known : next.activityRevision = max loop.activityRevision
    input.revision) : Resumes config loop input (next.claimRetried config draw) := by
  refine resumes_of_point ?_ claimRetried_ne_waiting ?_
  · exact afterClaims_isPreparing
  · rw [claimRetried, afterClaims_activityRevision]
    exact known

theorem claimFailed_resumes (claimId : Uuid) (error : FoundryError) :
    Resumes config loop (.claimFailed error) (loop.claimFailed config draw claimId error) := by
  have stops : Resumes config loop (.claimFailed error)
      (afterClaims config { loop with stopping := true }) := by
    refine resumes_of_point afterClaims_isPreparing ?_ ?_
    · intro waits
      have running := (of_afterClaims_waiting waits).2.2.1
      simp at running
    · simp [LoopInput.revision]
  unfold claimFailed
  split
  · exact claimRetried_resumes (by simp [LoopInput.revision])
  · exact stops
  · exact stops
  · exact claimRetried_resumes (by simp [LoopInput.revision])
  · exact claimRetried_resumes (by simp [LoopInput.revision])
  · exact claimRetried_resumes (by simp [LoopInput.revision])
  all_goals exact resumes_of_point rfl (by simp) (by simp [LoopInput.revision])

theorem claimed_resumes (claimId : Uuid) :
    Resumes config loop .claimed (loop.claimed config draw claimId) := by
  refine resumes_of_point claims_isPreparing ?_ ?_
  · exact claims_ne_waiting (Or.inr (by simp [delaysReset]))
  · simp [claimed, delaysReset, answeredClaim, LoopInput.revision]

theorem claimEmpty_resumes {claimId : Uuid} (point : loop.point = .claiming claimId) :
    Resumes config loop .claimEmpty (loop.claimEmpty config draw claimId) := by
  refine ⟨hasTurn_of_not_preparing ?_, fun _ => ⟨rfl, claimId, point⟩, ?_⟩
  · unfold claimEmpty
    dsimp only
    split <;> exact afterClaims_isPreparing
  · unfold claimEmpty
    dsimp only
    split <;> simp [delaysReset, backedOff, answeredClaim, LoopInput.revision]

theorem waited_resumes (changed : Bool) (revision : Nat) :
    Resumes config loop (.waited changed revision) (loop.waited config draw changed revision) := by
  unfold waited
  dsimp only
  split
  · exact resumes_of_top rfl
  · exact resumes_of_point rfl (by simp) rfl

theorem waitFailed_resumes (error : FoundryError) :
    Resumes config loop (.waitFailed error) (loop.waitFailed config draw error) := by
  have known : loop.activityRevision =
      max loop.activityRevision (LoopInput.waitFailed error).revision := by
    simp [LoopInput.revision]
  unfold waitFailed
  split
  · exact resumes_of_point rfl (by simp) known
  split
  · exact resumes_of_point rfl (by simp) known
  split
  · exact resumes_of_top known
  · exact resumes_of_top known
  all_goals exact resumes_of_point rfl (by simp) known

theorem joined_resumes (done : Nat) :
    Resumes config loop (.joined done) (loop.joined config draw done) := by
  unfold joined
  split
  · exact resumes_of_top (by simp [LoopInput.revision])
  · exact resumes_of_top (by simp [delaysReset, LoopInput.revision])

theorem initialization_resumes :
    Resumes config loop .woke (loop.initialization config draw) := by
  refine ⟨initialization_hasTurn, ?_, ?_⟩
  · intro waits
    exact absurd waits initialization_ne_waiting
  · simp [LoopInput.revision]

theorem resume_resumes (turn : loop.HasTurn config)
    (answered : loop.resume config draw input = some next) :
    Resumes config loop input next := by
  unfold resume at answered
  split at answered <;> simp only [Option.some.injEq, reduceCtorEq] at answered <;>
    subst answered
  · next point => exact profilesDone_resumes point turn
  · exact resumes_of_failed (by simp [LoopInput.revision])
  · next point =>
    refine resumes_of_reconciled ?_ (by simp [LoopInput.revision])
    rintro rfl
    exact turn (by simp [isPreparing, point])
  · unfold reportFailed
    split <;> exact resumes_of_failed (by simp [LoopInput.revision])
  · next point => exact claimEmpty_resumes point
  · exact claimed_resumes _
  · exact claimFailed_resumes _ _
  · exact joined_resumes _
  · exact resumes_of_point rfl (by simp) (by simp [LoopInput.revision])
  · exact waited_resumes _ _
  · exact waitFailed_resumes _
  · exact resumes_of_top (by simp [LoopInput.revision])
  · exact initialization_resumes
  · exact resumes_of_top (by simp [LoopInput.revision])

end WorkerLoop

/-! ## What the log says -/

def revisionAfter (start : Nat) (log : List ActivityHappening) : Nat :=
  start + log.countP (· = .advanced)

def knownAfter (log : List ActivityHappening) : Nat :=
  log.foldl (fun known happening =>
    match happening with
    | .learned revision => revision
    | _ => known) 0

def ActivityHappening.isAdvance : ActivityHappening → Bool
  | .advanced => true
  | _ => false

/-- Foundry's side only: advances and the reads of the wait. -/
def ActivityHappening.isRemote : ActivityHappening → Bool
  | .advanced | .waitRead _ => true
  | _ => false

@[simp] theorem revisionAfter_append (start : Nat) (first second : List ActivityHappening) :
    revisionAfter start (first ++ second) =
      revisionAfter start first + second.countP (· = .advanced) := by
  simp [revisionAfter, List.countP_append, Nat.add_assoc]

theorem revisionAfter_le_append (start : Nat) (first second : List ActivityHappening) :
    revisionAfter start first ≤ revisionAfter start (first ++ second) := by
  rw [revisionAfter_append]
  exact Nat.le_add_right _ _

@[simp] theorem knownAfter_snoc (log : List ActivityHappening) (happening : ActivityHappening) :
    knownAfter (log ++ [happening]) =
      match happening with
      | .learned revision => revision
      | _ => knownAfter log := by
  simp [knownAfter]

theorem knownAfter_append_of_remote (log added : List ActivityHappening)
    (remote : ∀ happening ∈ added, happening.isRemote = true) :
    knownAfter (log ++ added) = knownAfter log := by
  induction added generalizing log with
  | nil => simp
  | cons happening rest ih =>
    have first := remote happening (List.mem_cons_self ..)
    have others : ∀ other ∈ rest, other.isRemote = true :=
      fun other listed => remote other (List.mem_cons_of_mem _ listed)
    rw [List.append_cons, ih _ others, knownAfter_snoc]
    cases happening <;> simp_all [ActivityHappening.isRemote]

/-- The pass before a wait: empty, and begun when the worker knew what it waits on. -/
def PassBefore (start : Nat) (before : List ActivityHappening) (known : Nat) : Prop :=
  ∃ early during, before = early ++ .passBegan :: during ++ [.passEmpty] ∧
    (∀ happening ∈ during, happening.isAdvance = true) ∧
    knownAfter early = known ∧ known ≤ revisionAfter start early

/-- The wait before its return: the last read, and whether it exceeded what was known. -/
def ReadBefore (start : Nat) (before : List ActivityHappening) (changed : Bool) : Prop :=
  ∃ earlier known during read late,
    before = earlier ++ .waitBegan known :: during ++ .waitRead read :: late ∧
      (∀ happening ∈ during, happening.isRemote = true) ∧
      (∀ happening ∈ late, happening.isAdvance = true) ∧
      read = revisionAfter start (earlier ++ .waitBegan known :: during) ∧
      changed = decide (known < read)

def ActivityLaw (start : Nat) (before : List ActivityHappening) : ActivityHappening → Prop
  | .waitBegan known => PassBefore start before known
  | .waitReturned changed => ReadBefore start before changed
  | _ => True

/-! ## The invariant -/

/-- The happenings of the wait so far, for each place `_wait_postgres` may stand. -/
def WaitPhase.Explained (start known : Nat) (earlier during : List ActivityHappening) :
    WaitPhase → Prop
  | .requested => True
  | .listening => True
  | .answered changed revision => ∃ reads read late, during = reads ++ .waitRead read :: late ∧
      (∀ happening ∈ late, happening.isAdvance = true) ∧
      read = revisionAfter start (earlier ++ .waitBegan known :: reads) ∧
      revision = read ∧ changed = decide (known < read)

namespace ActivityState

structure Sound (config : LoopConfig) (start : Nat) (state : ActivityState) : Prop where
  revision : state.revision = revisionAfter start state.log
  known : state.loop.activityRevision = knownAfter state.log
  known_le : state.loop.activityRevision ≤ state.revision
  snapshot : ∀ snapshot, state.snapshot = some snapshot →
    snapshot.activityRevision ≤ state.revision
  turn : state.loop.HasTurn config
  claiming : ∀ claimId, state.loop.point = .claiming claimId →
    ∃ early during, state.log = early ++ .passBegan :: during ∧
      (∀ happening ∈ during, happening.isAdvance = true) ∧
      state.loop.activityRevision ≤ revisionAfter start early
  waiting : ∀ phase, state.wait = some phase → state.loop.point = .waiting ∧
    ∃ earlier during, state.log = earlier ++ .waitBegan state.loop.activityRevision :: during ∧
      (∀ happening ∈ during, happening.isRemote = true) ∧
      phase.Explained start state.loop.activityRevision earlier during
  justified : Log.Justified (ActivityLaw start) state.log

variable {config : LoopConfig} {start : Nat} {state : ActivityState}

variable {happening : ActivityHappening}

theorem isRemote_of_isAdvance
    (advance : happening.isAdvance = true) : happening.isRemote = true := by
  cases happening <;> simp_all [ActivityHappening.isAdvance, ActivityHappening.isRemote]

variable {log : List ActivityHappening}

theorem forall_mem_snoc {Holds : ActivityHappening → Prop} (all : ∀ other ∈ log, Holds other) (last : Holds happening) :
    ∀ other ∈ log ++ [happening], Holds other := by
  intro other listed
  rcases List.mem_append.mp listed with listed | listed
  · exact all other listed
  · rw [List.mem_singleton.mp listed]
    exact last

theorem Sound.advance (sound : state.Sound config start) :
    (state.step config .advance).Sound config start := by
  refine
    { revision := ?_, known := ?_, known_le := ?_, snapshot := ?_, turn := sound.turn,
      claiming := ?_, waiting := ?_, justified := ?_ }
  · simp [step, sound.revision]
  · rw [step, knownAfter_snoc]
    exact sound.known
  · exact Nat.le_succ_of_le sound.known_le
  · intro snapshot found
    exact Nat.le_succ_of_le (sound.snapshot snapshot found)
  · intro claimId point
    obtain ⟨early, during, split, advances, bound⟩ := sound.claiming claimId point
    refine ⟨early, during ++ [.advanced], ?_, forall_mem_snoc advances rfl, bound⟩
    simp [step, split]
  · intro phase waits
    obtain ⟨point, earlier, during, split, remote, explained⟩ := sound.waiting phase waits
    refine ⟨point, earlier, during ++ [.advanced], ?_, forall_mem_snoc remote rfl, ?_⟩
    · simp [step, split]
    · cases phase with
      | requested => trivial
      | listening => trivial
      | answered =>
        obtain ⟨reads, read, late, found, advances, current, isRead, excess⟩ := explained
        refine ⟨reads, read, late ++ [.advanced], ?_, forall_mem_snoc advances rfl, current,
          isRead, excess⟩
        simp [found]
  · exact sound.justified.snoc trivial

theorem Sound.reads (sound : state.Sound config start) {phase : WaitPhase} (last : Bool)
    (waits : state.wait = some phase) :
    Sound config start
      { state with
        wait := some (waitRead state.loop.activityRevision state.revision last)
        log := state.log ++ [.waitRead state.revision] } := by
  obtain ⟨point, earlier, during, split, remote, _⟩ := sound.waiting phase waits
  have current : state.revision =
      revisionAfter start (earlier ++ .waitBegan state.loop.activityRevision :: during) := by
    rw [← split]
    exact sound.revision
  refine
    { revision := ?_, known := ?_, known_le := sound.known_le, snapshot := sound.snapshot,
      turn := sound.turn, claiming := ?_, waiting := ?_, justified := ?_ }
  · simp [sound.revision]
  · rw [knownAfter_snoc]
    exact sound.known
  · intro claimId claims
    rw [point] at claims
    cases claims
  · intro next isNext
    rw [Option.some.injEq] at isNext
    refine ⟨point, earlier, during ++ [.waitRead state.revision], ?_, forall_mem_snoc remote rfl,
      ?_⟩
    · simp [split]
    · rw [← isNext, waitRead]
      split
      · next excess =>
        exact ⟨during, state.revision, [], rfl, by simp, current, rfl, by simp [excess]⟩
      · next same =>
        split
        · exact ⟨during, state.revision, [], rfl, by simp, current, rfl, by simp [same]⟩
        · trivial
  · exact sound.justified.snoc trivial

variable {loop : WorkerLoop}

theorem begins_eq_of_waiting (waits : loop.point = .waiting) :
    begins loop = [.waitBegan loop.activityRevision] := by
  simp [begins, waits]

theorem countP_begins (loop : WorkerLoop) : (begins loop).countP (· = .advanced) = 0 := by
  unfold begins
  split <;> simp

theorem countP_tells (loop : WorkerLoop) (input : LoopInput) :
    (tells loop input).countP (· = .advanced) = 0 := by
  cases input <;> simp [tells]

theorem knownAfter_begins (log : List ActivityHappening) (loop : WorkerLoop) :
    knownAfter (log ++ begins loop) = knownAfter log := by
  unfold begins
  split
  · simp
  · simp
  · simp

theorem knownAfter_tells (log : List ActivityHappening) (before next : WorkerLoop)
    (input : LoopInput) (known : before.activityRevision = knownAfter log)
    (learns : next.activityRevision = max before.activityRevision input.revision) :
    knownAfter (log ++ tells next input) = next.activityRevision := by
  cases input with
  | profilesDone => simp [tells]
  | waited =>
    rw [tells, List.append_cons, knownAfter_snoc]
  | claimEmpty =>
    rw [tells, knownAfter_snoc, learns, ← known]
    simp [LoopInput.revision]
  | _ =>
    simp only [tells, List.append_nil]
    rw [learns, ← known]
    simp [LoopInput.revision]

theorem justified_begins (justified : Log.Justified (ActivityLaw start) log)
    (pass : loop.point = .waiting → PassBefore start log loop.activityRevision) :
    Log.Justified (ActivityLaw start) (log ++ begins loop) := by
  unfold begins
  split
  · exact justified.snoc trivial
  · next point => exact justified.snoc (pass point)
  · rw [List.append_nil]
    exact justified

section

variable (sound : state.Sound config start)

include sound

theorem Sound.resumes (draw : LoopDraw) (input : LoopInput)
    (known : input.revision ≤ state.revision)
    (returned : ∀ changed revision, input = .waited changed revision →
      state.wait = some (.answered changed revision)) :
    (state.resumes config draw input).Sound config start := by
  unfold ActivityState.resumes
  split
  · exact sound
  next loop answered =>
  have resumes := WorkerLoop.resume_resumes sound.turn answered
  have told := knownAfter_tells state.log state.loop loop input sound.known resumes.known
  have bound : loop.activityRevision ≤ state.revision := by
    rw [resumes.known]
    exact max_le sound.known_le known
  have justifiedTells : Log.Justified (ActivityLaw start) (state.log ++ tells loop input) := by
    cases input with
    | profilesDone | claimEmpty => exact sound.justified.snoc trivial
    | waited changed revision =>
      rw [tells, List.append_cons]
      refine Log.Justified.snoc (Log.Justified.snoc sound.justified ?_) trivial
      obtain ⟨_, earlier, _, split, remote, reads, read, late, found, advances, current, _,
        excess⟩ := sound.waiting _ (returned changed revision rfl)
      refine ⟨earlier, state.loop.activityRevision, reads, read, late, ?_, ?_, advances, current,
        excess⟩
      · rw [split, found]
        simp
      · intro happening listed
        apply remote
        rw [found]
        simp [listed]
    | _ =>
      simp only [tells, List.append_nil]
      exact sound.justified
  refine
    { revision := ?_, known := ?_, known_le := bound, snapshot := sound.snapshot,
      turn := resumes.hasTurn, claiming := ?_, waiting := ?_, justified := ?_ }
  · rw [revisionAfter_append, revisionAfter_append, countP_begins, countP_tells, ← sound.revision]
    rfl
  · rw [knownAfter_begins, told]
  · intro claimId point
    dsimp only at point
    refine ⟨state.log ++ tells loop input, [], ?_, by simp, ?_⟩
    · simp [begins, point]
    · rw [revisionAfter_append, countP_tells, ← sound.revision]
      exact bound
  · intro phase waits
    dsimp only at waits
    split at waits
    · next point =>
      rw [Option.some.injEq] at waits
      refine ⟨point, state.log ++ tells loop input, [], ?_, by simp, ?_⟩
      · rw [begins_eq_of_waiting point]
      · rw [← waits]
        trivial
    · cases waits
  · refine justified_begins justifiedTells ?_
    intro point
    obtain ⟨rfl, claimId, claims⟩ := resumes.waits point
    obtain ⟨early, during, split, advances, least⟩ := sound.claiming claimId claims
    have same : loop.activityRevision = state.loop.activityRevision := by
      rw [resumes.known]
      simp [LoopInput.revision]
    refine ⟨early, during, ?_, advances, ?_, ?_⟩
    · rw [split]
      rfl
    · rw [same, sound.known, split, List.append_cons, knownAfter_append_of_remote,
        knownAfter_snoc]
      exact fun happening listed => isRemote_of_isAdvance (advances happening listed)
    · rw [same]
      exact least

theorem Sound.taskDone :
    (state.step config .taskDone).Sound config start := by
  have point : state.loop.taskDone.point = state.loop.point := by
    unfold WorkerLoop.taskDone
    split <;> rfl
  have known : state.loop.taskDone.activityRevision = state.loop.activityRevision := by
    unfold WorkerLoop.taskDone
    split <;> rfl
  have results : state.loop.taskDone.results = state.loop.results := by
    unfold WorkerLoop.taskDone
    split <;> rfl
  refine
    { revision := sound.revision, known := known.trans sound.known,
      known_le := known.symm ▸ sound.known_le, snapshot := sound.snapshot, turn := ?_,
      claiming := ?_, waiting := ?_, justified := sound.justified }
  · intro preparing
    have before : state.loop.isPreparing = true := by
      unfold WorkerLoop.isPreparing at preparing ⊢
      rw [← point]
      exact preparing
    have left := sound.turn before
    simpa [step, results] using left
  · intro claimId claims
    simpa [step, known] using sound.claiming claimId (point.symm.trans claims)
  · intro phase waits
    obtain ⟨isWaiting, rest⟩ := sound.waiting phase waits
    exact ⟨point.trans isWaiting, by simpa [step, known] using rest⟩

theorem Sound.stop :
    (state.step config .stop).Sound config start :=
  { revision := sound.revision, known := sound.known, known_le := sound.known_le,
    snapshot := sound.snapshot, turn := sound.turn, claiming := sound.claiming,
    waiting := sound.waiting, justified := sound.justified }

theorem Sound.step (event : ActivityEvent) :
    (state.step config event).Sound config start := by
  cases event with
  | advance => exact sound.advance
  | fetchSnapshot =>
    refine { sound with snapshot := ?_ }
    rintro _ ⟨⟩
    exact Nat.le_refl _
  | profilesDone draw =>
    refine sound.resumes draw _ ?_ (by simp)
    cases found : state.snapshot with
    | none => exact Nat.zero_le _
    | some snapshot => exact sound.snapshot snapshot found
  | waitReads =>
    unfold ActivityState.step
    dsimp only
    split
    · next waits => exact sound.reads false waits
    · exact sound
  | waitEnds =>
    unfold ActivityState.step
    dsimp only
    split
    · next waits => exact sound.reads true waits
    · exact sound
  | waitReplies draw =>
    unfold ActivityState.step
    dsimp only
    split
    · next waits =>
      refine sound.resumes draw _ ?_ ?_
      · obtain ⟨_, earlier, _, split, _, reads, read, late, found, _, current, isRead, _⟩ :=
          sound.waiting _ waits
        have least := revisionAfter_le_append start
          (earlier ++ .waitBegan state.loop.activityRevision :: reads) (.waitRead read :: late)
        simp only [LoopInput.revision]
        rw [isRead, current, sound.revision, split, found]
        rw [List.append_assoc] at least
        exact least
      · rintro _ _ ⟨⟩
        exact waits
    · exact sound
  | answer draw input =>
    unfold ActivityState.step
    dsimp only
    split
    · next free =>
      refine sound.resumes draw input ?_ ?_
      · cases input <;> simp_all [isFree, LoopInput.revision]
      · rintro _ _ rfl
        cases free
    · exact sound
  | taskDone => exact sound.taskDone
  | stop => exact sound.stop

theorem Sound.run (events : List ActivityEvent) :
    (state.run config events).Sound config start := by
  induction events generalizing state with
  | nil => exact sound
  | cons event _ ih => exact ih (sound.step event)

end

theorem started_sound (config : LoopConfig) (draw : LoopDraw) (waitEnabled : Bool)
    (start : Nat) : (started config draw waitEnabled start).Sound config start := by
  have known : (WorkerLoop.start config draw waitEnabled).activityRevision = 0 := by
    simp [WorkerLoop.start]
  have empty : knownAfter (begins (WorkerLoop.start config draw waitEnabled)) = 0 :=
    knownAfter_begins [] _
  refine
    { revision := ?_, known := ?_, known_le := ?_, snapshot := by simp [started],
      turn := WorkerLoop.initialization_hasTurn, claiming := ?_, waiting := by simp [started],
      justified := ?_ }
  · simp [started, revisionAfter, countP_begins]
  · rw [started, known, empty]
  · rw [started, known]
    exact Nat.zero_le _
  · intro claimId point
    have claims : (WorkerLoop.start config draw waitEnabled).point = .claiming claimId := point
    refine ⟨[], [], by simp [started, begins, claims], by simp, ?_⟩
    rw [started, known]
    exact Nat.zero_le _
  · refine @justified_begins _ [] _ Log.Justified.nil ?_
    intro waits
    exact absurd waits WorkerLoop.initialization_ne_waiting

end ActivityState

/-- A wait before its return, from the pass before it to its last read: it reports a change
if the revision exceeded the known one at any point up to that read, and without a change
nothing advanced from the beginning of the pass to that read. -/
def WaitExplained (start : Nat) (before : List ActivityHappening) (changed : Bool) : Prop :=
  ∃ early pass known reads read late,
    before = (early ++ .passBegan :: pass ++ [.passEmpty]) ++ .waitBegan known :: reads ++
        .waitRead read :: late ∧
      (∀ happening ∈ late, happening.isAdvance = true) ∧
      (∀ cut rest, (early ++ .passBegan :: pass ++ [.passEmpty]) ++ .waitBegan known :: reads =
          cut ++ rest → known < revisionAfter start cut → changed = true) ∧
      (changed = false → ∀ happening ∈ pass ++ reads, happening.isAdvance = false)

theorem ReadBefore.explained {start : Nat} {before : List ActivityHappening} {changed : Bool}
    (read : ReadBefore start before changed)
    (passes : ∀ earlier known after, before = earlier ++ .waitBegan known :: after →
      PassBefore start earlier known) :
    WaitExplained start before changed := by
  obtain ⟨earlier, known, reads, last, late, split, _, advances, current, excess⟩ := read
  obtain ⟨early, pass, same, _⟩ :=
    passes earlier known (reads ++ .waitRead last :: late) (by rw [split]; simp)
  subst same
  refine ⟨early, pass, known, reads, last, late, split, advances, ?_, ?_⟩
  · intro cut rest cuts exceeds
    have later := revisionAfter_le_append start cut rest
    rw [← cuts, ← current] at later
    rw [excess, decide_eq_true_eq]
    omega
  · intro unchanged happening listed
    rw [excess, decide_eq_false_iff_not, Nat.not_lt] at unchanged
    have total : last = revisionAfter start early + pass.countP (· = .advanced) +
        reads.countP (· = .advanced) := by
      rw [current]
      simp only [revisionAfter_append, List.countP_cons, List.countP_nil]
      simp
    have none_counted : (pass ++ reads).countP (· = .advanced) = 0 := by
      rw [List.countP_append]
      omega
    rw [List.countP_eq_zero] at none_counted
    have other := none_counted happening listed
    cases happening <;> simp_all [ActivityHappening.isAdvance]

/-- Every wait of every run follows an empty pass begun with the revision it waits on known,
and its return tells of every advance since. -/
theorem activity_waits_lose_no_wake (config : LoopConfig) (draw : LoopDraw) (waitEnabled : Bool)
    (start : Nat) (events : List ActivityEvent) :
    let log := (ActivityState.run config
      (ActivityState.started config draw waitEnabled start) events).log
    (∀ before known after, log = before ++ .waitBegan known :: after →
        PassBefore start before known) ∧
      ∀ before changed after, log = before ++ .waitReturned changed :: after →
        WaitExplained start before changed := by
  intro log
  have justified : Log.Justified (ActivityLaw start) log :=
    ((ActivityState.started_sound config draw waitEnabled start).run events).justified
  constructor
  · intro before known after split
    exact justified before (.waitBegan known) after split
  · intro before changed after split
    have read : ReadBefore start before changed :=
      justified before (.waitReturned changed) after split
    refine read.explained ?_
    intro earlier known rest found
    refine justified earlier (.waitBegan known) (rest ++ .waitReturned changed :: after) ?_
    rw [split, found]
    simp

end Foundry
