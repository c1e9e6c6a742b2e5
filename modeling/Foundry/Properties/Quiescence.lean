import Foundry.Hermes.Deletion
import Foundry.Lib.Totals

/-!
# The quiescence proof of Hermes

Once a tombstone stands no request, run or agent of its profile is admitted, so what a closing task
has seen to be gone stays gone: its phases are a ladder whose last step is a quiet profile.
-/

set_option autoImplicit false

namespace Foundry

namespace Quiescence

/-! ## Quiet profiles -/

variable {state : HermesState}

namespace HermesState

structure IsFenced (state : HermesState) : Prop where
  ally : isAllyKey state.key = true
  fence : state.marker.isSome = true

structure IsIdle (state : HermesState) : Prop where
  requests : state.requests = ∅
  runs : state.runs = 0
  threads : state.threads = ∅

structure IsStopped (state : HermesState) : Prop extends IsIdle state where
  process : state.process = none

structure IsQuiet (state : HermesState) : Prop extends IsStopped state where
  agents : state.agents = []

theorem IsFenced.not_admitted (fenced : state.IsFenced) :
    isAdmitted state.key state.marker = false := by
  obtain ⟨file, stands⟩ := Option.isSome_iff_exists.mp fenced.fence
  rw [isAdmitted, if_pos fenced.ally, stands, readMarker, fenced.ally]
  cases read : file.payload? with
  | none => rfl
  | some payload =>
    simp only [Bool.not_true, Bool.false_eq_true, if_false]
    by_cases named : payload.get "profile_key" = some (.str state.key)
    · rw [if_pos named]
    · rw [if_neg named]

end HermesState

/-! ## One event -/

@[simp] theorem eventWhere_eq_ok (condition : Bool) (after next : HermesState)
    (reply : HermesReply) :
    eventWhere condition after = .ok (reply, next) ↔
      condition = true ∧ reply = .done ∧ next = after := by
  cases condition
  · simp [eventWhere]
  · simp [eventWhere, eq_comm]

/-- The endpoint answers, or notes a call and a closing task. -/
structure KeepsWork (state next : HermesState) : Prop where
  key : next.key = state.key
  marker : next.marker = state.marker
  requests : next.requests = state.requests
  runs : next.runs = state.runs
  threads : next.threads = state.threads
  agents : next.agents = state.agents
  process : next.process = state.process
  started : state.started ≤ next.started

theorem KeepsWork.refl (state : HermesState) : KeepsWork state state :=
  ⟨rfl, rfl, rfl, rfl, rfl, rfl, rfl, Nat.le_refl _⟩

theorem endpoint_keepsWork (state : HermesState) (request : QuiesceRequest) :
    KeepsWork state (state.endpoint request).2 := by
  unfold HermesState.endpoint
  split
  · exact .refl state
  · split
    · exact .refl state
    · split
      · exact .refl state
      · split
        · exact .refl state
        · exact .refl state
        · split
          · exact ⟨rfl, rfl, rfl, rfl, rfl, rfl, rfl, Nat.le_add_right _ 2⟩
          · split
            · exact ⟨rfl, rfl, rfl, rfl, rfl, rfl, rfl, Nat.le_add_right _ 1⟩
            · split
              · exact ⟨rfl, rfl, rfl, rfl, rfl, rfl, rfl, Nat.le_add_right _ 2⟩
              · exact .refl state

variable {reply : HermesReply} {next : HermesState} {call : Nat}

theorem answerCall_keepsWork
    (success : state.answerCall call = .ok (reply, next)) : KeepsWork state next := by
  unfold HermesState.answerCall at success
  split at success
  · cases success
  · split at success
    · cases success
      exact ⟨rfl, rfl, rfl, rfl, rfl, rfl, rfl, Nat.le_refl _⟩
    · cases success
      exact ⟨rfl, rfl, rfl, rfl, rfl, rfl, rfl, Nat.le_refl _⟩
    · cases success
      exact ⟨rfl, rfl, rfl, rfl, rfl, rfl, rfl, Nat.le_refl _⟩

/-! ## One step of a closing task -/

def HermesEvent.closingJob : HermesEvent → Option Nat
  | .beginStop job | .lockStop job | .stopProcess job | .failStop job | .interruptAgents job _
  | .drained job | .retired job | .timeOut job | .closeResources job _ => some job
  | _ => none

/-- What a step from one phase to another has seen, and the worker that it leaves. -/
inductive ClosePhase.Advances (state : HermesState) :
    ClosePhase → ClosePhase → Option SandboxProcess → Prop where
  | begin (again : Bool) : Advances state (.stopping again) (.locking again) state.process
  | lock (again : Bool) : Advances state (.locking again) (.terminating again) state.process
  | stop (again : Bool) : Advances state (.terminating again) (.afterStop again) none
  | interrupt : Advances state .interrupting .draining state.process
  | drain (runs : state.runs = 0) (requests : state.requests = ∅) :
      Advances state .draining (.stopping true) state.process
  | retire (agents : state.agents = []) : Advances state .retiring .releasing state.process
  | release : Advances state .releasing (.done .quiesced) state.process
  | giveUp (phase : ClosePhase) (result : CloseResult) (unclosed : result ≠ .quiesced) :
      Advances state phase (.done result) state.process

/-- A closing task moves its own phase, and of the work it stops the worker at most. -/
structure ClosingStep (state next : HermesState) (job : Nat) (before after : ClosePhase) :
    Prop where
  found : state.closes.lookup job = some before
  advances : ClosePhase.Advances state before after next.process
  closes : next.closes = state.closes.insert job after
  key : next.key = state.key
  marker : next.marker = state.marker
  requests : next.requests = state.requests
  runs : next.runs = state.runs
  threads : next.threads = state.threads
  agents : next.agents = state.agents
  started : next.started = state.started

variable {event : HermesEvent} {job : Nat}

theorem closing_step (isStep : event.closingJob = some job)
    (success : HermesState.apply event state = .ok (reply, next)) :
    ∃ before after, ClosingStep state next job before after := by
  cases event with
  | beginStop =>
    cases isStep
    simp only [HermesState.apply] at success
    split at success
    · next again found =>
      cases success
      exact ⟨_, _, found, .begin again, rfl, rfl, rfl, rfl, rfl, rfl, rfl, rfl⟩
    · cases success
  | lockStop =>
    cases isStep
    simp only [HermesState.apply] at success
    split at success
    · next again found =>
      obtain ⟨-, -, rfl⟩ := (eventWhere_eq_ok ..).mp success
      exact ⟨_, _, found, .lock again, rfl, rfl, rfl, rfl, rfl, rfl, rfl, rfl⟩
    · cases success
  | stopProcess =>
    cases isStep
    simp only [HermesState.apply] at success
    split at success
    · next again found =>
      obtain ⟨-, -, rfl⟩ := (eventWhere_eq_ok ..).mp success
      exact ⟨_, _, found, .stop again, rfl, rfl, rfl, rfl, rfl, rfl, rfl, rfl⟩
    · cases success
  | failStop | timeOut =>
    cases isStep
    simp only [HermesState.apply] at success
    split at success
    · next found =>
      cases success
      exact ⟨_, _, found, .giveUp _ _ (by rintro ⟨⟩), rfl, rfl, rfl, rfl, rfl, rfl, rfl, rfl⟩
    · next found =>
      cases success
      exact ⟨_, _, found, .giveUp _ _ (by rintro ⟨⟩), rfl, rfl, rfl, rfl, rfl, rfl, rfl, rfl⟩
    · cases success
  | interruptAgents _ interrupted =>
    cases isStep
    obtain ⟨condition, -, rfl⟩ := (eventWhere_eq_ok ..).mp success
    have found := of_decide_eq_true condition
    cases interrupted with
    | false =>
      exact ⟨_, _, found, .giveUp _ _ (by rintro ⟨⟩), rfl, rfl, rfl, rfl, rfl, rfl, rfl, rfl⟩
    | true => exact ⟨_, _, found, .interrupt, rfl, rfl, rfl, rfl, rfl, rfl, rfl, rfl⟩
  | drained =>
    cases isStep
    simp only [HermesState.apply, eventWhere_eq_ok, Bool.and_eq_true, decide_eq_true_eq,
      List.isEmpty_iff] at success
    obtain ⟨⟨⟨found, runs⟩, requests⟩, -, rfl⟩ := success
    exact ⟨_, _, found, .drain runs (AList.ext requests), rfl, rfl, rfl, rfl, rfl, rfl, rfl, rfl⟩
  | retired =>
    cases isStep
    simp only [HermesState.apply, eventWhere_eq_ok, Bool.and_eq_true, decide_eq_true_eq,
      List.isEmpty_iff] at success
    obtain ⟨⟨found, agents⟩, -, rfl⟩ := success
    exact ⟨_, _, found, .retire agents, rfl, rfl, rfl, rfl, rfl, rfl, rfl, rfl⟩
  | closeResources _ closed =>
    cases isStep
    obtain ⟨condition, -, rfl⟩ := (eventWhere_eq_ok ..).mp success
    have found := of_decide_eq_true condition
    cases closed with
    | false =>
      exact ⟨_, _, found, .giveUp _ _ (by rintro ⟨⟩), rfl, rfl, rfl, rfl, rfl, rfl, rfl, rfl⟩
    | true => exact ⟨_, _, found, .release, rfl, rfl, rfl, rfl, rfl, rfl, rfl, rfl⟩
  | _ => cases isStep

/-! ## Work under a fence -/

structure Calms (state next : HermesState) : Prop where
  fenced : next.IsFenced
  idle : state.IsIdle → next.IsIdle
  process : state.IsIdle → state.process = none → next.process = none
  agents : state.IsIdle → state.agents = [] → next.agents = []

theorem KeepsWork.calms (keeps : KeepsWork state next)
    (fenced : state.IsFenced) : Calms state next where
  fenced := ⟨by rw [keeps.key]; exact fenced.ally, by rw [keeps.marker]; exact fenced.fence⟩
  idle idle := ⟨by rw [keeps.requests]; exact idle.requests, by rw [keeps.runs]; exact idle.runs,
    by rw [keeps.threads]; exact idle.threads⟩
  process _ none := by rw [keeps.process]; exact none
  agents _ none := by rw [keeps.agents]; exact none

variable {before after : ClosePhase}

theorem ClosePhase.Advances.process
    {process : Option SandboxProcess} (advances : ClosePhase.Advances state before after process) :
    process = state.process ∨ process = none := by
  cases advances with
  | stop => exact .inr rfl
  | _ => exact .inl rfl

theorem ClosingStep.calms
    (closing : ClosingStep state next job before after) (fenced : state.IsFenced) :
    Calms state next where
  fenced := ⟨by rw [closing.key]; exact fenced.ally, by rw [closing.marker]; exact fenced.fence⟩
  idle idle := ⟨by rw [closing.requests]; exact idle.requests,
    by rw [closing.runs]; exact idle.runs, by rw [closing.threads]; exact idle.threads⟩
  process _ none := by
    rcases closing.advances.process with same | stopped
    · rw [same]
      exact none
    · exact stopped
  agents _ none := by rw [closing.agents]; exact none

theorem calms_of_busy (fenced : state.IsFenced)
    (key : next.key = state.key) (marker : next.marker = state.marker) (busy : ¬ state.IsIdle) :
    Calms state next where
  fenced := ⟨by rw [key]; exact fenced.ally, by rw [marker]; exact fenced.fence⟩
  idle idle := absurd idle busy
  process idle _ := absurd idle busy
  agents idle _ := absurd idle busy

theorem busy_of_request {task : Nat} {phase : RequestPhase}
    (found : state.requests.lookup task = some phase) : ¬ state.IsIdle := by
  intro idle
  rw [idle.requests] at found
  cases found

theorem busy_of_run {thread : Nat} {phase : RunPhase}
    (found : state.threads.lookup thread = some phase) : ¬ state.IsIdle := by
  intro idle
  rw [idle.threads] at found
  cases found

theorem busy_of_builder {builder : Builder} {building : Bool}
    (isAt : state.isAt builder building = true) : ¬ state.IsIdle := by
  cases builder with
  | request => exact busy_of_request (of_decide_eq_true isAt)
  | run => exact busy_of_run (of_decide_eq_true isAt)

theorem apply_calms
    (fenced : state.IsFenced) (success : HermesState.apply event state = .ok (reply, next)) :
    Calms state next := by
  cases event with
  | writeMarker =>
    cases success
    exact ⟨⟨fenced.ally, rfl⟩, fun idle => ⟨idle.requests, idle.runs, idle.threads⟩,
      fun _ none => none, fun _ none => none⟩
  | startRequest | startRun =>
    simp only [HermesState.apply, fenced.not_admitted, Bool.false_eq_true, if_false] at success
    cases success
    exact (KeepsWork.refl state).calms fenced
  | finishRequest | forgetRequest =>
    simp only [HermesState.apply, eventWhere_eq_ok, decide_eq_true_eq] at success
    obtain ⟨found, -, rfl⟩ := success
    exact calms_of_busy fenced rfl rfl (busy_of_request found)
  | finishRun =>
    simp only [HermesState.apply, eventWhere_eq_ok, decide_eq_true_eq] at success
    obtain ⟨found, -, rfl⟩ := success
    exact calms_of_busy fenced rfl rfl (busy_of_run found)
  | checkHome =>
    simp only [HermesState.apply, fenced.not_admitted, Bool.and_false, Bool.false_eq_true,
      if_false] at success
    cases success
    exact (KeepsWork.refl state).calms fenced
  | trackAgent builder | abandonAgent builder =>
    simp only [HermesState.apply, eventWhere_eq_ok] at success
    obtain ⟨isAt, -, rfl⟩ := success
    cases builder with
    | request | run => exact calms_of_busy fenced rfl rfl (busy_of_builder isAt)
  | retireAgent _ closed =>
    cases success
    cases closed with
    | false => exact (KeepsWork.refl state).calms fenced
    | true =>
      exact ⟨⟨fenced.ally, fenced.fence⟩,
        fun idle => ⟨idle.requests, idle.runs, idle.threads⟩, fun _ none => none,
        fun _ none => by simp [none]⟩
  | lockLaunch | spawnProcess | processReady | dropProcess =>
    simp only [HermesState.apply, eventWhere_eq_ok, Bool.and_eq_true, decide_eq_true_eq] at success
    obtain ⟨⟨found, -⟩, -, rfl⟩ := success
    exact calms_of_busy fenced rfl rfl (busy_of_request found)
  | reuseProcess =>
    simp only [HermesState.apply, eventWhere_eq_ok, Bool.and_eq_true, decide_eq_true_eq] at success
    obtain ⟨⟨⟨found, -⟩, -⟩, -, rfl⟩ := success
    exact calms_of_busy fenced rfl rfl (busy_of_request found)
  | failLaunch =>
    simp only [HermesState.apply] at success
    split at success
    · next found =>
      cases success
      exact calms_of_busy fenced rfl rfl (busy_of_request found)
    · next found =>
      cases success
      exact calms_of_busy fenced rfl rfl (busy_of_request found)
    · cases success
  | exitProcess =>
    cases success
    exact ⟨⟨fenced.ally, fenced.fence⟩, fun idle => ⟨idle.requests, idle.runs, idle.threads⟩,
      fun _ none => by simp [none], fun _ none => none⟩
  | reapProcess =>
    simp only [HermesState.apply, eventWhere_eq_ok] at success
    obtain ⟨-, -, rfl⟩ := success
    exact ⟨⟨fenced.ally, fenced.fence⟩, fun idle => ⟨idle.requests, idle.runs, idle.threads⟩,
      fun _ _ => rfl, fun _ none => none⟩
  | quiesce request =>
    have same : (state.endpoint request).2 = next := congrArg Prod.snd (Except.ok.inj success)
    rw [← same]
    exact (endpoint_keepsWork state request).calms fenced
  | answer => exact (answerCall_keepsWork success).calms fenced
  | _ =>
    obtain ⟨_, _, closing⟩ := closing_step rfl success
    exact closing.calms fenced

/-! ## The counter of runs -/

/-- The counter of the runs agrees with the threads, whose names were all given out. -/
structure IsCounted (state : HermesState) : Prop where
  runs : state.runs = state.threads.total fun _ => 1
  fresh : ∀ thread, state.started ≤ thread → state.threads.lookup thread = none

theorem IsCounted.of_same (counted : IsCounted state)
    (runs : next.runs = state.runs) (threads : next.threads = state.threads)
    (started : state.started ≤ next.started) : IsCounted next where
  runs := by rw [runs, threads]; exact counted.runs
  fresh thread after := by
    rw [threads]
    exact counted.fresh thread (started.trans after)

section

variable {state : HermesState} (counted : IsCounted state)

include counted

theorem IsCounted.setRun (thread : Nat)
    (old phase : RunPhase) (found : state.threads.lookup thread = some old) :
    IsCounted (state.setRun thread phase) where
  runs := by
    have replaced := @Table.total_insert_of_some _ _ _ (fun _ => 1) _ phase _ _ found
    have same := counted.runs
    change state.runs = Table.total (fun _ => 1) (state.threads.insert thread phase)
    omega
  fresh other after := by
    change AList.lookup other (state.threads.insert thread phase) = none
    have absent := counted.fresh other after
    have different : other ≠ thread := by
      rintro rfl
      rw [absent] at found
      cases found
    rw [AList.lookup_insert_ne different]
    exact absent

theorem IsCounted.setBuilding (builder : Builder)
    (was building : Bool) (isAt : state.isAt builder was = true) :
    IsCounted (state.setBuilding builder building) := by
  cases builder with
  | request => exact counted.of_same rfl rfl (Nat.le_refl _)
  | run thread => exact counted.setRun thread _ _ (of_decide_eq_true isAt)

theorem IsCounted.no_threads (none : state.runs = 0) : state.threads = ∅ := by
  apply AList.ext
  have ones := counted.runs
  rw [none, Table.total, Table.sum_ones, Table.rows, List.length_map] at ones
  exact List.length_eq_zero_iff.mp ones.symm

end

theorem apply_counted
    (counted : IsCounted state) (success : HermesState.apply event state = .ok (reply, next)) :
    IsCounted next := by
  have same := Nat.le_refl state.started
  cases event with
  | startRun =>
    simp only [HermesState.apply] at success
    split at success
    · cases success
      refine ⟨?_, ?_⟩
      · have absent := counted.fresh state.started same
        have inserted :=
          @Table.total_insert_of_none _ _ _ (fun _ => 1) _ RunPhase.running _ absent
        exact (congrArg (· + 1) counted.runs).trans inserted.symm
      · intro thread after
        change AList.lookup thread (state.threads.insert state.started .running) = none
        have after : state.started + 1 ≤ thread := after
        rw [AList.lookup_insert_ne (by omega)]
        exact counted.fresh thread (by omega)
    · cases success
      exact counted
  | finishRun thread =>
    simp only [HermesState.apply, eventWhere_eq_ok, decide_eq_true_eq] at success
    obtain ⟨found, -, rfl⟩ := success
    refine ⟨?_, ?_⟩
    · have erased := @Table.total_erase_of_some _ _ _ (fun _ => 1) _ _ _ found
      have runs := counted.runs
      change state.runs - 1 = Table.total (fun _ => 1) (state.threads.erase thread)
      omega
    · intro other after
      change AList.lookup other (state.threads.erase thread) = none
      by_cases own : other = thread
      · rw [own]
        exact AList.lookup_erase ..
      · rw [AList.lookup_erase_ne own]
        exact counted.fresh other after
  | checkHome builder =>
    simp only [HermesState.apply] at success
    split at success
    · next condition =>
      cases success
      exact counted.setBuilding builder false true ((Bool.and_eq_true _ _).mp condition).1
    · cases success
      exact counted
  | trackAgent builder =>
    simp only [HermesState.apply, eventWhere_eq_ok] at success
    obtain ⟨isAt, -, rfl⟩ := success
    exact (counted.setBuilding builder true false isAt).of_same rfl rfl (Nat.le_refl _)
  | abandonAgent builder =>
    simp only [HermesState.apply, eventWhere_eq_ok] at success
    obtain ⟨isAt, -, rfl⟩ := success
    exact counted.setBuilding builder true false isAt
  | startRequest =>
    simp only [HermesState.apply] at success
    split at success
    · cases success
      exact counted.of_same rfl rfl (Nat.le_succ _)
    · cases success
      exact counted
  | failLaunch =>
    simp only [HermesState.apply] at success
    split at success
    · cases success
      exact counted.of_same rfl rfl same
    · cases success
      exact counted.of_same rfl rfl same
    · cases success
  | retireAgent _ closed =>
    cases success
    cases closed with
    | false => exact counted
    | true => exact counted.of_same rfl rfl same
  | quiesce request =>
    have same : (state.endpoint request).2 = next := congrArg Prod.snd (Except.ok.inj success)
    have keeps := endpoint_keepsWork state request
    rw [same] at keeps
    exact counted.of_same keeps.runs keeps.threads keeps.started
  | answer =>
    have keeps := answerCall_keepsWork success
    exact counted.of_same keeps.runs keeps.threads keeps.started
  | writeMarker | exitProcess =>
    cases success
    exact counted.of_same rfl rfl same
  | finishRequest task | forgetRequest task | lockLaunch task | reuseProcess task
  | spawnProcess task | processReady task | dropProcess task | reapProcess =>
    obtain ⟨-, -, rfl⟩ := (eventWhere_eq_ok ..).mp success
    exact counted.of_same rfl rfl same
  | _ =>
    obtain ⟨_, _, closing⟩ := closing_step rfl success
    exact counted.of_same closing.runs closing.threads (Nat.le_of_eq closing.started.symm)

/-! ## The ladder of a closing task -/

def ClosePhase.Holds (state : HermesState) : ClosePhase → Prop
  | .stopping true | .locking true | .terminating true => state.IsIdle
  | .retiring => state.IsStopped
  | .releasing | .done .quiesced => state.IsQuiet
  | _ => True

structure IsClosing (state : HermesState) : Prop where
  fenced : ∀ job phase, state.closes.lookup job = some phase → state.IsFenced
  holds : ∀ job phase, state.closes.lookup job = some phase → phase.Holds state

section

variable {state next : HermesState}

theorem Calms.stopped (calms : Calms state next) (stopped : state.IsStopped) : next.IsStopped :=
  ⟨calms.idle stopped.toIsIdle, calms.process stopped.toIsIdle stopped.process⟩

theorem Calms.quiet (calms : Calms state next) (quiet : state.IsQuiet) : next.IsQuiet :=
  ⟨calms.stopped quiet.toIsStopped, calms.agents quiet.toIsIdle quiet.agents⟩

theorem Calms.holds {phase : ClosePhase} (calms : Calms state next)
    (holds : phase.Holds state) : phase.Holds next := by
  cases phase with
  | stopping again | locking again | terminating again =>
    cases again with
    | false => trivial
    | true => exact calms.idle holds
  | retiring => exact calms.stopped holds
  | releasing => exact calms.quiet holds
  | done result =>
    cases result with
    | quiesced => exact calms.quiet holds
    | _ => trivial
  | _ => trivial

theorem ClosingStep.holds
    (closing : ClosingStep state next job before after) (counted : IsCounted state)
    (calms : Calms state next) (holds : before.Holds state) : after.Holds next := by
  have advances := closing.advances
  generalize sameProcess : next.process = process at advances
  cases advances with
  | begin again | lock again =>
    cases again with
    | false => trivial
    | true => exact calms.idle holds
  | stop again =>
    cases again with
    | false => trivial
    | true => exact ⟨calms.idle holds, sameProcess⟩
  | interrupt => trivial
  | drain runs requests => exact calms.idle ⟨requests, runs, counted.no_threads runs⟩
  | retire agents => exact calms.quiet ⟨holds, agents⟩
  | release => exact calms.quiet holds
  | giveUp _ result unclosed =>
    cases result with
    | quiesced => exact absurd rfl unclosed
    | _ => trivial

end

theorem readMarker_some {key : String} {file : Option TombstoneFile} {marker : TombstonePayload}
    (read : readMarker key file = .ok (some marker)) :
    isAllyKey key = true ∧ file.isSome = true := by
  unfold readMarker at read
  split at read
  · cases read
  · next ally =>
    refine ⟨by simpa using ally, ?_⟩
    cases file with
    | none => cases read
    | some => rfl

variable {body : QuiesceBody} {homeExists : Bool} {clock : Clock}

theorem fenced_of_validateRequest
    (valid : validateRequest state.key state.instanceId state.marker homeExists clock body =
      .ok ()) : state.IsFenced := by
  unfold validateRequest at valid
  split at valid
  · cases valid
  · split at valid
    · cases valid
    · split at valid
      · cases valid
      · cases valid
      · next read => exact ⟨(readMarker_some read).1, (readMarker_some read).2⟩

theorem endpoint_closes (state : HermesState) (request : QuiesceRequest) :
    (state.endpoint request).2.closes = state.closes ∨
      state.IsFenced ∧ (state.endpoint request).2.closes =
        state.closes.insert state.started (.stopping false) := by
  unfold HermesState.endpoint
  split
  · exact .inl rfl
  · split
    · exact .inl rfl
    · split
      · exact .inl rfl
      · split
        · exact .inl rfl
        · exact .inl rfl
        · next valid =>
          have fenced := fenced_of_validateRequest valid
          split
          · exact .inr ⟨fenced, rfl⟩
          · split
            · exact .inl rfl
            · split
              · exact .inr ⟨fenced, rfl⟩
              · exact .inl rfl

theorem answerCall_closes
    (success : state.answerCall call = .ok (reply, next)) : next.closes = state.closes := by
  unfold HermesState.answerCall at success
  split at success
  · cases success
  · split at success
    · cases success
      rfl
    · cases success
      rfl
    · cases success
      rfl

theorem setBuilding_closes (state : HermesState) (builder : Builder) (building : Bool) :
    (state.setBuilding builder building).closes = state.closes := by
  cases builder with
  | request => rfl
  | run => rfl

section

variable {state next : HermesState}

theorem apply_closes (success : HermesState.apply event state = .ok (reply, next)) :
    next.closes = state.closes ∨
      (state.IsFenced ∧ next.closes = state.closes.insert state.started (.stopping false)) ∨
      ∃ job before after, ClosingStep state next job before after := by
  cases event with
  | quiesce request =>
    have same : (state.endpoint request).2 = next := congrArg Prod.snd (Except.ok.inj success)
    rw [← same]
    rcases endpoint_closes state request with kept | created
    · exact .inl kept
    · exact .inr (.inl created)
  | answer => exact .inl (answerCall_closes success)
  | startRequest | startRun =>
    simp only [HermesState.apply] at success
    split at success
    · cases success
      exact .inl rfl
    · cases success
      exact .inl rfl
  | checkHome builder =>
    simp only [HermesState.apply] at success
    split at success
    · cases success
      exact .inl (setBuilding_closes state builder true)
    · cases success
      exact .inl rfl
  | trackAgent builder | abandonAgent builder =>
    obtain ⟨-, -, rfl⟩ := (eventWhere_eq_ok ..).mp success
    exact .inl (setBuilding_closes state builder false)
  | failLaunch =>
    simp only [HermesState.apply] at success
    split at success
    · cases success
      exact .inl rfl
    · cases success
      exact .inl rfl
    · cases success
  | retireAgent _ closed =>
    cases success
    cases closed with
    | false => exact .inl rfl
    | true => exact .inl rfl
  | writeMarker | exitProcess =>
    cases success
    exact .inl rfl
  | finishRequest task | forgetRequest task | finishRun thread | lockLaunch task
  | reuseProcess task | spawnProcess task | processReady task | dropProcess task
  | reapProcess =>
    obtain ⟨-, -, rfl⟩ := (eventWhere_eq_ok ..).mp success
    exact .inl rfl
  | _ =>
    obtain ⟨before, after, closing⟩ := closing_step rfl success
    exact .inr (.inr ⟨_, before, after, closing⟩)

theorem IsClosing.of_closes (closing : IsClosing state)
    (calms : state.IsFenced → Calms state next) (job : Nat) (after : ClosePhase)
    (closes : next.closes = state.closes.insert job after) (fenced : state.IsFenced)
    (holds : after.Holds next) : IsClosing next := by
  have calmed := calms fenced
  refine ⟨fun _ _ _ => calmed.fenced, ?_⟩
  intro other phase found
  rw [closes] at found
  obtain ⟨_, rfl⟩ | ⟨_, found⟩ := Table.cases_insert found
  · exact holds
  · exact calmed.holds (closing.holds other phase found)

theorem apply_closing (counted : IsCounted state) (closing : IsClosing state)
    (success : HermesState.apply event state = .ok (reply, next)) : IsClosing next := by
  have calms (fenced : state.IsFenced) : Calms state next := apply_calms fenced success
  rcases apply_closes success with kept | ⟨fenced, created⟩ | ⟨job, before, after, moved⟩
  · refine ⟨?_, ?_⟩
    · intro job phase found
      rw [kept] at found
      exact (calms (closing.fenced job phase found)).fenced
    · intro job phase found
      rw [kept] at found
      exact (calms (closing.fenced job phase found)).holds (closing.holds job phase found)
  · exact closing.of_closes calms state.started _ created fenced trivial
  · have fenced := closing.fenced job before moved.found
    have holds := moved.holds counted (calms fenced) (closing.holds job before moved.found)
    exact closing.of_closes calms job after moved.closes fenced holds

end

/-! ## Runs -/

theorem counted_and_closing (key instanceId : String) (marker : Option TombstoneFile)
    (events : List HermesEvent) :
    IsCounted (HermesState.run (.initial key instanceId marker) events) ∧
      IsClosing (HermesState.run (.initial key instanceId marker) events) := by
  apply Run.invariant fun state : HermesState => IsCounted state ∧ IsClosing state
  · intro state event reply next holds success
    exact ⟨apply_counted holds.1 success, apply_closing holds.1 holds.2 success⟩
  · refine ⟨⟨rfl, fun _ _ => rfl⟩, ?_, ?_⟩
    · intro job phase found
      cases found
    · intro job phase found
      cases found

theorem quiet_run (state : HermesState) (events : List HermesEvent) (fenced : state.IsFenced)
    (quiet : state.IsQuiet) :
    (HermesState.run state events).IsFenced ∧ (HermesState.run state events).IsQuiet := by
  apply Run.invariant fun state : HermesState => state.IsFenced ∧ state.IsQuiet
  · intro state event reply next holds success
    have calms := apply_calms holds.1 success
    exact ⟨calms.fenced, calms.quiet holds.2⟩
  · exact ⟨fenced, quiet⟩

/-! ## The proof that is answered -/

theorem CloseResult.eq_quiesced {result : CloseResult} (quiesced : result.state = "quiesced") :
    result = .quiesced := by
  cases result with
  | quiesced => rfl
  | quiescing | repairRequired => simp [CloseResult.state] at quiesced

variable {proof : QuiescenceProof} {request : QuiesceRequest} {status : Nat}

theorem endpoint_proof (answered : (state.endpoint request).1 = .proof status proof) :
    proof.state = "quiescing" := by
  unfold HermesState.endpoint at answered
  split at answered
  · cases answered
  · split at answered
    · cases answered
    · split at answered
      · cases answered
      · split at answered
        · cases answered
        · cases answered
        · split at answered
          · cases answered
          · split at answered
            · cases answered
            · split at answered
              · cases answered
              · cases answered
                rfl

theorem answerCall_proof (answered : state.answerCall call = .ok (.proof status proof, next))
    (quiesced : proof.state = "quiesced") :
    ∃ job, state.closes.lookup job = some (.done .quiesced) := by
  unfold HermesState.answerCall at answered
  split at answered
  · cases answered
  · split at answered
    · cases answered
      exact absurd quiesced (by simp [CloseResult.state])
    · next found =>
      cases answered
      rw [CloseResult.eq_quiesced quiesced] at found
      exact ⟨_, found⟩
    · cases answered
      exact absurd quiesced (by simp [CloseResult.state])

theorem apply_proof (answered : HermesState.apply event state = .ok (.proof status proof, next))
    (quiesced : proof.state = "quiesced") :
    ∃ job, state.closes.lookup job = some (.done .quiesced) := by
  cases event with
  | quiesce =>
    have same := congrArg Prod.fst (Except.ok.inj answered)
    rw [endpoint_proof same] at quiesced
    simp at quiesced
  | answer => exact answerCall_proof answered quiesced
  | writeMarker | retireAgent | exitProcess => cases answered
  | startRequest | startRun | checkHome | beginStop =>
    simp only [HermesState.apply] at answered
    split at answered
    · cases answered
    · cases answered
  | failLaunch | failStop | timeOut =>
    simp only [HermesState.apply] at answered
    split at answered
    · cases answered
    · cases answered
    · cases answered
  | finishRequest task | forgetRequest task | finishRun thread | trackAgent builder agent
  | abandonAgent builder | lockLaunch task | reuseProcess task | spawnProcess task
  | processReady task | dropProcess task | reapProcess | drained job | retired job
  | interruptAgents job interrupted | closeResources job closed =>
    obtain ⟨-, isDone, -⟩ := (eventWhere_eq_ok ..).mp answered
    cases isDone
  | lockStop | stopProcess =>
    simp only [HermesState.apply] at answered
    split at answered
    · obtain ⟨-, isDone, -⟩ := (eventWhere_eq_ok ..).mp answered
      cases isDone
    · cases answered

/-! ## Stale calls -/

/-- The call names another instance, or not the attempt that a pending tombstone names. -/
def HermesState.IsStale (state : HermesState) (clock : Clock) (body : QuiesceBody) : Prop :=
  body.get "hermes_instance_id" ≠ some (.str state.instanceId) ∨
    ∃ marker, readMarker state.key state.marker = .ok (some marker) ∧
      marker.get "deleted" ≠ some (.bool true) ∧
      ∃ name ∈ attemptNames, sameValue clock (marker.get name) (body.get name) = false

theorem stale_not_valid (stale : state.IsStale clock body) :
    validateRequest state.key state.instanceId state.marker homeExists clock body ≠ .ok () := by
  unfold validateRequest
  split
  · simp
  · split
    · simp
    · next own =>
      rcases stale with other | ⟨_, read, _, name, listed, differs⟩
      · exact absurd other own
      · rw [read]
        dsimp only
        split
        · simp
        · split
          · simp
          · rw [if_pos (List.any_eq_true.mpr ⟨name, listed, by rw [differs]; rfl⟩)]
            simp

theorem endpoint_of_not_valid (given : request.body = some body)
    (refused : validateRequest state.key state.instanceId state.marker request.homeExists
      request.clock body ≠ .ok ()) :
    ∃ status code, state.endpoint request = (.refused status code, state) := by
  unfold HermesState.endpoint
  split
  · exact ⟨_, _, rfl⟩
  · split
    · exact ⟨_, _, rfl⟩
    · rw [given]
      dsimp only
      split
      · exact ⟨_, _, rfl⟩
      · exact ⟨_, _, rfl⟩
      · next valid => exact absurd valid refused

/-! ## The two guarantees -/

/-- What Hermes proves is gone stays gone; a stale call is refused and changes nothing. -/
theorem quiescence_proof_is_sound :
    (∀ key instanceId marker events event status proof next later,
      HermesState.apply event (HermesState.run (.initial key instanceId marker) events) =
          .ok (.proof status proof, next) →
        proof.state = "quiesced" →
        (HermesState.run (.initial key instanceId marker) events).IsQuiet ∧
          (HermesState.run next later).IsQuiet) ∧
      ∀ (state : HermesState) (request : QuiesceRequest) (body : QuiesceBody),
        request.body = some body → state.IsStale request.clock body →
        ∃ status code,
          HermesState.apply (.quiesce request) state = .ok (.refused status code, state) := by
  refine ⟨?_, ?_⟩
  · intro key instanceId marker events event status proof next later answered quiesced
    have holds := (counted_and_closing key instanceId marker events).2
    obtain ⟨job, found⟩ := apply_proof answered quiesced
    have fenced := holds.fenced job _ found
    have quiet : HermesState.IsQuiet (HermesState.run (.initial key instanceId marker) events) :=
      holds.holds job _ found
    have calms := apply_calms fenced answered
    exact ⟨quiet, (quiet_run next later calms.fenced (calms.quiet quiet)).2⟩
  · intro state request body given stale
    obtain ⟨status, code, same⟩ := endpoint_of_not_valid given (stale_not_valid stale)
    exact ⟨status, code, congrArg Except.ok same⟩

def allyKey : String := "ally-v1-00000000000000000000000000000001"

def instanceUuid : String := "00000000-0000-0000-0000-000000000009"

/-- A call of the first or the second attempt of one cleanup. -/
def attemptBody (attempt : String) : QuiesceBody :=
  [("version", .int 1), ("operation_id", .str "00000000-0000-0000-0000-000000000003"),
    ("attempt_id", .str attempt), ("lifecycle_epoch", .int 4),
    ("request_digest", .str "0000000000000000000000000000000000000000000000000000000000000005"),
    ("machine_generation", .int 1), ("runtime_start_epoch", .int 0),
    ("hermes_instance_id", .str instanceUuid)]

def firstAttempt : QuiesceBody := attemptBody "00000000-0000-0000-0000-000000000001"

def secondAttempt : QuiesceBody := attemptBody "00000000-0000-0000-0000-000000000002"

def attemptCall (body : QuiesceBody) : QuiesceRequest :=
  ⟨true, some 512, some body, false, ⟨0, fun _ => false, fun _ _ => false⟩⟩

def pendingMarker : TombstoneFile :=
  .file (.dict (secondAttempt ++ [("schema", .str manifestSchema),
    ("schema_version", .int manifestVersion), ("profile_key", .str allyKey),
    ("status", .str "CLEANUP_PENDING"), ("expires_at", .int 100)]))

def terminalMarker : TombstoneFile :=
  .file (.dict [("schema", .str manifestSchema), ("schema_version", .int manifestVersion),
    ("profile_key", .str allyKey), ("status", .str "DEPROVISIONED"), ("deleted", .bool true)])

/-- A request starts a worker and ends, while the first call of a cleanup waits. -/
def closingEvents : List HermesEvent :=
  [.startRequest, .lockLaunch 0, .writeMarker pendingMarker, .quiesce (attemptCall secondAttempt),
    .spawnProcess 0, .processReady 0, .finishRequest 0, .forgetRequest 0, .beginStop 1, .lockStop 1,
    .exitProcess, .stopProcess 1, .interruptAgents 1 true, .drained 1, .beginStop 1, .lockStop 1,
    .stopProcess 1, .retired 1, .closeResources 1 true]

def quietProof : QuiescenceProof := ⟨secondAttempt, allyKey, "quiesced", "", 0, 0, 0, 0⟩

/-- The state after these events, of a Hermes that started without a tombstone. -/
def closedState : HermesState := HermesState.run (.initial allyKey instanceUuid none) closingEvents

theorem quiet_profile_is_proved_quiet :
    (∃ next,
      HermesState.apply (.answer 2) closedState = .ok (.proof 200 quietProof, next) ∧
      (HermesState.run next [.startRequest, .startRun, .reapProcess]).IsQuiet) ∧
    ∃ status code,
      HermesState.apply (.quiesce (attemptCall firstAttempt))
          (.initial allyKey instanceUuid (some pendingMarker)) =
        .ok (.refused status code, .initial allyKey instanceUuid (some pendingMarker)) := by
  refine ⟨?_, ?_⟩
  · have reply : (HermesState.apply (.answer 2) closedState).toOption.map Prod.fst =
        some (.proof 200 quietProof) := by decide +kernel
    cases answered : HermesState.apply (.answer 2) closedState with
    | error =>
      rw [answered] at reply
      cases reply
    | ok pair =>
      obtain ⟨own, next⟩ := pair
      rw [answered] at reply
      obtain rfl : own = .proof 200 quietProof := Option.some.inj reply
      exact ⟨next, rfl, (quiescence_proof_is_sound.1 allyKey instanceUuid none closingEvents
        (.answer 2) 200 quietProof next [.startRequest, .startRun, .reapProcess] answered rfl).2⟩
  · refine quiescence_proof_is_sound.2 _ (attemptCall firstAttempt) firstAttempt rfl (.inr ?_)
    exact ⟨_, rfl, by decide +kernel, "attempt_id", by decide +kernel, by decide +kernel⟩

/-- Once the profile is deleted its tombstone names no attempt: the call of the first attempt,
stale while the second is pending, then starts a closing task that replaces the other. -/
theorem stale_attempt_is_accepted_after_deletion :
    let pending := closedState
    let deleted := Run.step HermesState.apply pending (.writeMarker terminalMarker)
    let call := HermesEvent.quiesce (attemptCall firstAttempt)
    (HermesState.apply call pending).toOption.map Prod.fst =
        some (.refused 409 "stale_cleanup_attempt") ∧
      (HermesState.apply call deleted).toOption.map Prod.fst = some (.waiting 4) ∧
      (Run.step HermesState.apply deleted call).jobs = some (firstAttempt.identity, 3) ∧
      deleted.jobs = some (secondAttempt.identity, 1) := by
  intro pending deleted call
  exact ⟨by decide +kernel, by decide +kernel, by decide +kernel, by decide +kernel⟩

end Quiescence

end Foundry
