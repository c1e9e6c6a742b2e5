import Foundry.Lib.Run
import Foundry.Worker.Loop

/-!
# The worker loop against an advancing Workspace

The activity revision of Foundry, `_wait_postgres` reading it, and the loop between the two.
The log keeps what happened, oldest first.
-/

set_option autoImplicit false

namespace Foundry

inductive ActivityHappening where
  /-- Foundry committed an advance. -/
  | advanced
  /-- The known revision of the worker after a snapshot or a wait result. -/
  | learned (revision : Nat)
  | passBegan
  | passEmpty
  | waitBegan (known : Nat)
  /-- The wait read the revision. -/
  | waitRead (revision : Nat)
  | waitReturned (changed : Bool)
deriving DecidableEq, Repr

/-- Where `_wait_postgres` stands for the wait of the worker. -/
inductive WaitPhase where
  | requested
  | listening
  | answered (changed : Bool) (revision : Nat)
deriving DecidableEq, Repr

structure ActivityState where
  revision : Nat
  loop : WorkerLoop
  /-- `last_reconciliation_snapshot`. -/
  snapshot : Option LoopSnapshot
  wait : Option WaitPhase
  log : List ActivityHappening
deriving DecidableEq, Repr

inductive ActivityEvent where
  | advance
  /-- The client keeps the snapshot it fetched. -/
  | fetchSnapshot (hasStartEpoch : Bool)
  | profilesDone (draw : LoopDraw) (materialized : Bool)
  /-- The read before the notifications. -/
  | waitReads
  /-- A notification or the timeout, and the last read. -/
  | waitEnds
  | waitReplies (draw : LoopDraw)
  /-- Any other answer, a failed or lost one included. -/
  | answer (draw : LoopDraw) (input : LoopInput)
  | taskDone
  | stop
deriving DecidableEq, Repr

namespace ActivityState

/-- `_wait_postgres` after a read: an excess is an answer. -/
def waitRead (known revision : Nat) (last : Bool) : WaitPhase :=
  if known < revision then .answered true revision
  else if last then .answered false revision
  else .listening

def begins (loop : WorkerLoop) : List ActivityHappening :=
  match loop.point with
  | .claiming _ => [.passBegan]
  | .waiting => [.waitBegan loop.activityRevision]
  | _ => []

def tells (loop : WorkerLoop) : LoopInput → List ActivityHappening
  | .profilesDone _ _ => [.learned loop.activityRevision]
  | .claimEmpty => [.passEmpty]
  | .waited changed _ => [.waitReturned changed, .learned loop.activityRevision]
  | _ => []

def resumes (config : LoopConfig) (draw : LoopDraw) (input : LoopInput) (state : ActivityState) :
    ActivityState :=
  match state.loop.resume config draw input with
  | none => state
  | some loop =>
    { state with
      loop := loop
      wait := if loop.point = .waiting then some .requested else none
      log := state.log ++ tells loop input ++ begins loop }

/-- Answers that come with what Foundry said are events of their own. -/
def isFree : LoopInput → Bool
  | .profilesDone _ _ | .waited _ _ => false
  | _ => true

def step (config : LoopConfig) (state : ActivityState) : ActivityEvent → ActivityState
  | .advance =>
    { state with
      revision := state.revision + 1
      log := state.log ++ [.advanced] }
  | .fetchSnapshot hasStartEpoch =>
    { state with snapshot := some ⟨state.revision, hasStartEpoch⟩ }
  | .profilesDone draw materialized =>
    state.resumes config draw (.profilesDone materialized state.snapshot)
  | .waitReads =>
    if state.wait = some .requested then
      { state with
        wait := some (waitRead state.loop.activityRevision state.revision false)
        log := state.log ++ [.waitRead state.revision] }
    else state
  | .waitEnds =>
    if state.wait = some .listening then
      { state with
        wait := some (waitRead state.loop.activityRevision state.revision true)
        log := state.log ++ [.waitRead state.revision] }
    else state
  | .waitReplies draw =>
    match state.wait with
    | some (.answered changed revision) => state.resumes config draw (.waited changed revision)
    | _ => state
  | .answer draw input => if isFree input then state.resumes config draw input else state
  | .taskDone => { state with loop := state.loop.taskDone }
  | .stop => { state with loop := state.loop.stop }

def run (config : LoopConfig) (state : ActivityState) (events : List ActivityEvent) :
    ActivityState :=
  events.foldl (step config) state

def started (config : LoopConfig) (draw : LoopDraw) (waitEnabled : Bool) (revision : Nat) :
    ActivityState where
  revision := revision
  loop := WorkerLoop.start config draw waitEnabled
  snapshot := none
  wait := none
  log := begins (WorkerLoop.start config draw waitEnabled)

end ActivityState

end Foundry
