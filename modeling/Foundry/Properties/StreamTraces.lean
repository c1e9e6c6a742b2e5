import Foundry.Hermes.Traces

/-!
# Traces of a Hermes stream

The events a stream yields are a well formed trace, whatever the server sends: each field
of the stream that carries the law agrees with what the yielded events have left open.
-/

set_option autoImplicit false

namespace Foundry

/-! ## What is open -/

/-- The open activities and approval of a stream are those its events left open. -/
structure StreamCore.Balanced (core : StreamCore) (state : TraceState) : Prop where
  activities : ∀ activity, activity ∈ state.activities ↔
    ∃ call, core.activeActivityCalls.lookup call = some activity
  apart : state.activities.Pairwise fun first second => first.id ≠ second.id
  calls : ∀ first second activity other,
    core.activeActivityCalls.lookup first = some activity →
    core.activeActivityCalls.lookup second = some other →
    activity.id = other.id → first = second
  legacy : ∃ tools : List String, tools.length = state.legacyActivities ∧
    ∀ tool, (core.legacyActivityCounts.lookup tool).getD 0 = tools.count tool
  approval : state.approval = core.pendingApprovalId
  incomplete : state.completed = false
  settled : core.state = .runCompleted → core.activeActivityCalls.rows = [] ∧
    core.legacyActivityCounts.rows = [] ∧ core.pendingApprovalId = none

variable {event : Option HermesEvent}

namespace StreamCore.Balanced

variable {core : StreamCore} {state : TraceState}

section

variable (balanced : core.Balanced state)

include balanced

theorem filter_id_eq {activity : ActivityRef} (member : activity ∈ state.activities) :
    state.activities.filter (fun active => active.id = activity.id) = [activity] := by
  have apart := balanced.apart
  generalize state.activities = activities at member apart
  induction activities with
  | nil => cases member
  | cons head rest ih =>
    rw [List.pairwise_cons] at apart
    obtain ⟨others, apart⟩ := apart
    rcases List.mem_cons.mp member with rfl | member
    · have none_left : rest.filter (fun active => active.id = activity.id) = [] := by
        rw [List.filter_eq_nil_iff]
        intro active listed
        simpa using (others active listed).symm
      rw [List.filter_cons_of_pos (by simp), none_left]
    · have distinct : head.id ≠ activity.id := others activity member
      rw [List.filter_cons_of_neg (by simpa using distinct)]
      exact ih member apart

theorem legacy_eq_zero
    (empty : core.legacyActivityCounts.rows = []) : state.legacyActivities = 0 := by
  obtain ⟨tools, length, counts⟩ := balanced.legacy
  have unused : tools = [] := by
    apply List.eq_nil_iff_forall_not_mem.mpr
    intro tool listed
    have positive := List.count_pos_iff.mpr listed
    rw [← counts tool, Table.lookup_of_rows_nil empty] at positive
    simp at positive
  rw [← length, unused]
  rfl

theorem activities_eq_nil (empty : core.activeActivityCalls.rows = []) : state.activities = [] := by
  apply List.eq_nil_iff_forall_not_mem.mpr
  intro activity listed
  obtain ⟨_, active⟩ := (balanced.activities activity).mp listed
  rw [Table.lookup_of_rows_nil empty] at active
  cases active

theorem settled_state (completed : core.state = .runCompleted) :
    state = { activities := [], legacyActivities := 0, approval := none, completed := false } := by
  obtain ⟨noActivity, noLegacy, noApproval⟩ := balanced.settled completed
  have activities := balanced.activities_eq_nil noActivity
  have legacy := balanced.legacy_eq_zero noLegacy
  have approval := balanced.approval.trans noApproval
  have incomplete := balanced.incomplete
  cases state
  simp_all

end

variable {lib : PyLibrary} {raw : RawEvent} {next : StreamCore}

section

variable (balanced : core.Balanced state)

include balanced

theorem admits {event : HermesEvent}
    (kept : ∀ terminal, core.terminalEvent = some terminal → terminal.payload.isCompletion = true)
    (step : StreamStep lib raw core (some event) next) : state.Admits event.payload := by
  cases step with
  | spoke | legacyStarted => exact balanced.incomplete
  | activityStarted _ _ _ _ _ apart =>
    refine ⟨balanced.incomplete, ?_⟩
    intro active listed
    obtain ⟨other, found⟩ := (balanced.activities active).mp listed
    exact apart (other, active) ((Table.mem_rows _ _ _).mpr found)
  | activityCompleted call activity _ _ _ _ active =>
    refine ⟨balanced.incomplete, ?_⟩
    exact balanced.filter_id_eq ((balanced.activities activity).mpr ⟨call, active⟩)
  | legacyCompleted tool _ started =>
    refine ⟨balanced.incomplete, ?_⟩
    obtain ⟨_, length, counts⟩ := balanced.legacy
    rw [counts tool, List.count_pos_iff] at started
    rw [← length]
    exact List.length_pos_of_mem started
  | approvalRequested _ _ _ _ _ _ free | approvalAnswered _ _ _ free =>
    exact ⟨balanced.incomplete, balanced.approval.trans free⟩
  | finished _ _ completed found =>
    have completion := kept event found
    cases payload : event.payload with
    | executionCompleted => exact balanced.settled_state completed
    | _ => simp [payload, HermesPayload.isCompletion] at completion

section

variable (running : core.state = .running)

include running

section

variable (call : String) (activity : ActivityRef)

theorem activityStarted (subject : Option String)
    (fresh : core.activeActivityCalls.lookup call = none)
    (apart : ∀ active ∈ core.activeActivityCalls.rows, active.2.id ≠ activity.id) :
    StreamCore.Balanced
      { core.counted with
        activeActivityCalls := core.activeActivityCalls.insert call activity
        seenActivityCalls := call :: core.seenActivityCalls }
      (state.next (.activityStarted (some activity) subject)) := by
  have others : ∀ key found, core.activeActivityCalls.lookup key = some found →
      found.id ≠ activity.id := by
    intro key found active
    exact apart (key, found) ((Table.mem_rows _ _ _).mpr active)
  refine
    { activities := ?_, apart := ?_, calls := ?_, legacy := balanced.legacy,
      approval := balanced.approval, incomplete := balanced.incomplete, settled := ?_ }
  · intro found
    simp only [TraceState.next, List.mem_cons, Table.lookup_insert_eq]
    constructor
    · intro listed
      rcases listed with rfl | listed
      · exact ⟨call, by simp⟩
      · obtain ⟨key, active⟩ := (balanced.activities found).mp listed
        refine ⟨key, ?_⟩
        rw [if_neg]
        · exact active
        · rintro rfl
          rw [fresh] at active
          cases active
    · rintro ⟨key, active⟩
      split at active
      · exact Or.inl (Option.some.inj active).symm
      · exact Or.inr ((balanced.activities found).mpr ⟨key, active⟩)
  · simp only [TraceState.next, List.pairwise_cons]
    refine ⟨?_, balanced.apart⟩
    intro found listed
    obtain ⟨key, active⟩ := (balanced.activities found).mp listed
    exact (others key found active).symm
  · intro first second one other firstActive secondActive same
    simp only [Table.lookup_insert_eq] at firstActive secondActive
    split at firstActive <;> split at secondActive
    · next firstIs secondIs => exact firstIs.trans secondIs.symm
    · rw [Option.some.injEq] at firstActive
      subst firstActive
      exact absurd same.symm (others second other secondActive)
    · rw [Option.some.injEq] at secondActive
      subst secondActive
      exact absurd same (others first one firstActive)
    · exact balanced.calls first second one other firstActive secondActive same
  · intro completed
    exact absurd (running.symm.trans completed) (by decide)

theorem activityCompleted (failed : Bool) (duration : Option Nat)
    (subject : Option String) (active : core.activeActivityCalls.lookup call = some activity) :
    StreamCore.Balanced
      { core.counted with activeActivityCalls := core.activeActivityCalls.erase call }
      (state.next (.activityCompleted (some activity) failed duration subject)) := by
  have erased : ∀ key found, (core.activeActivityCalls.erase call).lookup key = some found ↔
      key ≠ call ∧ core.activeActivityCalls.lookup key = some found := by
    intro key found
    by_cases same : key = call
    · subst same
      simp [AList.lookup_erase]
    · simp [AList.lookup_erase_ne same, same]
  refine
    { activities := ?_, apart := ?_, calls := ?_, legacy := balanced.legacy,
      approval := balanced.approval, incomplete := balanced.incomplete, settled := ?_ }
  · intro found
    simp only [TraceState.next, List.mem_filter, decide_eq_true_eq, erased]
    constructor
    · rintro ⟨listed, distinct⟩
      obtain ⟨key, live⟩ := (balanced.activities found).mp listed
      refine ⟨key, ?_, live⟩
      rintro rfl
      rw [active, Option.some.injEq] at live
      exact distinct (by rw [live])
    · rintro ⟨key, other, live⟩
      refine ⟨(balanced.activities found).mpr ⟨key, live⟩, ?_⟩
      intro same
      exact other (balanced.calls key call found activity live active same)
  · exact balanced.apart.filter _
  · intro first second one other firstActive secondActive same
    exact balanced.calls first second one other ((erased first one).mp firstActive).2
      ((erased second other).mp secondActive).2 same
  · intro completed
    exact absurd (running.symm.trans completed) (by decide)

end

theorem legacyStarted (tool : String) :
    StreamCore.Balanced
      { core.counted with
        legacyActivityCounts := core.legacyActivityCounts.insert tool
          ((core.legacyActivityCounts.lookup tool).getD 0 + 1) }
      (state.next (.activityStarted none none)) := by
  refine
    { activities := balanced.activities, apart := balanced.apart, calls := balanced.calls,
      legacy := ?_, approval := balanced.approval, incomplete := balanced.incomplete,
      settled := ?_ }
  · obtain ⟨tools, length, counts⟩ := balanced.legacy
    refine ⟨tool :: tools, by simp [TraceState.next, length], ?_⟩
    intro other
    simp only [Table.lookup_insert_eq, List.count_cons, beq_iff_eq]
    by_cases same : other = tool
    · subst same
      simp [counts other]
    · rw [if_neg same, if_neg (Ne.symm same), counts other, Nat.add_zero]
  · intro completed
    exact absurd (running.symm.trans completed) (by decide)

theorem legacyCompleted
    (tool : String) (started : 0 < (core.legacyActivityCounts.lookup tool).getD 0) :
    StreamCore.Balanced
      { core.counted with
        legacyActivityCounts :=
          if (core.legacyActivityCounts.lookup tool).getD 0 = 1 then
            core.legacyActivityCounts.erase tool
          else core.legacyActivityCounts.insert tool
            ((core.legacyActivityCounts.lookup tool).getD 0 - 1) }
      (state.next (.activityCompleted none false none none)) := by
  refine
    { activities := balanced.activities, apart := balanced.apart, calls := balanced.calls,
      legacy := ?_, approval := balanced.approval, incomplete := balanced.incomplete,
      settled := ?_ }
  · obtain ⟨tools, length, counts⟩ := balanced.legacy
    have listed : tool ∈ tools := by
      rw [counts tool] at started
      exact List.count_pos_iff.mp started
    refine ⟨tools.erase tool, by simp [TraceState.next, List.length_erase_of_mem listed, length],
      ?_⟩
    intro other
    by_cases same : other = tool
    · subst same
      rw [List.count_erase_self, ← counts other]
      split
      · next last => rw [AList.lookup_erase, last]; rfl
      · rw [AList.lookup_insert]; rfl
    · rw [List.count_erase_of_ne same, ← counts other]
      split
      · rw [AList.lookup_erase_ne same]
      · rw [AList.lookup_insert_ne same]
  · intro completed
    exact absurd (running.symm.trans completed) (by decide)

end

theorem step (seen : ∀ call activity, core.activeActivityCalls.lookup call = some activity →
      call ∈ core.seenActivityCalls)
    (live : next.done = false) (step : StreamStep lib raw core event next) :
    next.Balanced (event.elim state fun found => state.next found.payload) := by
  cases step with
  | quiet => exact balanced
  | runStarted =>
    refine { balanced with settled := ?_ }
    intro completed
    cases completed
  | spoke => exact { balanced with }
  | activityStarted call _ subject running fresh apart =>
    apply balanced.activityStarted running call _ subject _ apart
    cases found : core.activeActivityCalls.lookup call with
    | none => rfl
    | some activity => exact absurd (seen call activity found) fresh
  | activityCompleted call activity failed duration subject running active =>
    exact balanced.activityCompleted running call activity failed duration subject active
  | legacyStarted tool running => exact balanced.legacyStarted running tool
  | legacyCompleted tool running started => exact balanced.legacyCompleted running tool started
  | approvalRequested _ _ _ _ _ running | approvalAnswered _ _ running =>
    refine { balanced with approval := rfl, settled := ?_ }
    intro completed
    exact absurd (running.symm.trans completed) (by decide)
  | runCompleted _ _ _ _ noActivity noLegacy noApproval =>
    exact { balanced with settled := fun _ => ⟨noActivity, noLegacy, noApproval⟩ }
  | finished => cases live

end

end StreamCore.Balanced

/-! ## Names and numbers -/

/-- The run, the session, the numbers and the activity ids of the yielded events. -/
structure StreamCore.Labelled (lib : PyLibrary) (session : String) (core : StreamCore)
    (events : List HermesEvent) : Prop where
  own : core.sessionId = session
  runIds : ∀ event ∈ events, event.runId = core.runId.getD ""
  sessions : ∀ event ∈ events, event.sessionId = session
  ongoing : ∀ event ∈ events, event.payload.isCompletion = false
  numbers : events.map HermesEvent.sequence = List.range' 1 events.length
  counted : core.normalizedCount = events.length + core.terminalEvent.toList.length
  started : startedActivities events =
    (core.seenActivityCalls.map (activityId lib (core.runId.getD ""))).reverse
  fresh : core.seenActivityCalls.Nodup
  seen : ∀ call activity, core.activeActivityCalls.lookup call = some activity →
    call ∈ core.seenActivityCalls
  silent : core.state = .awaitingRun → events = [] ∧ core.seenActivityCalls = []
  unfinished : core.state ≠ .runCompleted → core.terminalEvent = none
  kept : ∀ terminal, core.terminalEvent = some terminal →
    terminal.payload.isCompletion = true ∧ terminal.runId = core.runId.getD "" ∧
      terminal.sequence = events.length + 1

namespace StreamCore.Labelled

variable {lib : PyLibrary} {session : String} {core next : StreamCore}
  {events : List HermesEvent} {raw : RawEvent}

section

variable (labelled : core.Labelled lib session events) (running : core.state = .running)

include labelled running

theorem not_terminal : core.terminalEvent = none := by
  apply labelled.unfinished
  rw [running]
  decide

section

variable (payload : HermesPayload) (ongoing : payload.isCompletion = false)

include ongoing

theorem yielded (same : next.sessionId = core.sessionId ∧ next.runId = core.runId ∧
      next.normalizedCount = core.normalizedCount + 1 ∧ next.state = core.state ∧
      next.terminalEvent = core.terminalEvent)
    (started : startedActivities (events ++ [core.emit core.sessionId payload]) =
      (next.seenActivityCalls.map (activityId lib (core.runId.getD ""))).reverse)
    (fresh : next.seenActivityCalls.Nodup)
    (seen : ∀ call activity, next.activeActivityCalls.lookup call = some activity →
      call ∈ next.seenActivityCalls) :
    next.Labelled lib session (events ++ [core.emit core.sessionId payload]) := by
  obtain ⟨sessionId, runId, count, state, terminalEvent⟩ := same
  have none_kept := labelled.not_terminal running
  have number : core.normalizedCount = events.length := by
    have counted := labelled.counted
    rw [none_kept] at counted
    simpa using counted
  refine
    { own := sessionId.trans labelled.own
      runIds := ?_, sessions := ?_, ongoing := ?_, numbers := ?_, counted := ?_
      started := by rw [runId]; exact started
      fresh := fresh, seen := seen, silent := ?_, unfinished := ?_, kept := ?_ }
  · intro event listed
    rw [runId]
    rcases List.mem_append.mp listed with listed | listed
    · exact labelled.runIds event listed
    · rw [List.mem_singleton.mp listed]
      rfl
  · intro event listed
    rcases List.mem_append.mp listed with listed | listed
    · exact labelled.sessions event listed
    · rw [List.mem_singleton.mp listed]
      exact labelled.own
  · intro event listed
    rcases List.mem_append.mp listed with listed | listed
    · exact labelled.ongoing event listed
    · rw [List.mem_singleton.mp listed]
      exact ongoing
  · rw [List.map_append, labelled.numbers, List.length_append, List.length_singleton,
      List.range'_concat]
    simp [StreamCore.emit, number, Nat.add_comm]
  · rw [count, number, terminalEvent, none_kept]
    simp
  · intro awaiting
    rw [state, running] at awaiting
    cases awaiting
  · intro _
    rw [terminalEvent, none_kept]
  · intro terminal kept
    rw [terminalEvent, none_kept] at kept
    cases kept

theorem unstarted (idle : ∀ activity subject, payload ≠ .activityStarted (some activity) subject)
    (same : next.sessionId = core.sessionId ∧ next.runId = core.runId ∧
      next.normalizedCount = core.normalizedCount + 1 ∧ next.state = core.state ∧
      next.terminalEvent = core.terminalEvent)
    (calls : next.seenActivityCalls = core.seenActivityCalls)
    (fewer : ∀ call activity, next.activeActivityCalls.lookup call = some activity →
      core.activeActivityCalls.lookup call = some activity) :
    next.Labelled lib session (events ++ [core.emit core.sessionId payload]) := by
  apply labelled.yielded running payload ongoing same
  · rw [startedActivities_append, calls, ← labelled.started]
    have none_started : startedActivities [core.emit core.sessionId payload] = [] := by
      cases payload with
      | activityStarted activity subject =>
        cases activity with
        | none => rfl
        | some activity => exact absurd rfl (idle activity subject)
      | _ => rfl
    rw [none_started, List.append_nil]
  · rw [calls]
    exact labelled.fresh
  · intro call activity found
    rw [calls]
    exact labelled.seen call activity (fewer call activity found)

end

end

theorem step (labelled : core.Labelled lib session events)
    (live : next.done = false) (step : StreamStep lib raw core event next) :
    next.Labelled lib session (events ++ event.toList) := by
  cases step with
  | quiet => simpa using labelled
  | runStarted _ awaiting =>
    obtain ⟨silent, unseen⟩ := labelled.silent awaiting
    have none_kept : core.terminalEvent = none := by
      apply labelled.unfinished
      rw [awaiting]
      decide
    subst silent
    simp only [Option.toList_none, List.append_nil]
    refine
      { own := labelled.own, runIds := by simp, sessions := by simp,
        ongoing := by simp, numbers := by simp, counted := labelled.counted,
        started := ?_, fresh := labelled.fresh, seen := labelled.seen,
        silent := ?_, unfinished := fun _ => none_kept, kept := ?_ }
    · simp [unseen, startedActivities]
    · intro again
      cases again
    · intro terminal kept
      rw [none_kept] at kept
      cases kept
  | spoke _ running | legacyStarted _ running | legacyCompleted _ running
  | approvalRequested _ _ _ _ _ running | approvalAnswered _ _ running =>
    refine labelled.unstarted running _ rfl (by simp) ?_ ?_ ?_
    · exact ⟨rfl, rfl, rfl, rfl, rfl⟩
    · rfl
    · exact fun _ _ found => found
  | activityStarted _ _ _ running fresh =>
    refine labelled.yielded running _ rfl ?_ ?_ ?_ ?_
    · exact ⟨rfl, rfl, rfl, rfl, rfl⟩
    · rw [startedActivities_append, labelled.started]
      simp [startedActivities, StreamCore.emit]
    · exact List.nodup_cons.mpr ⟨fresh, labelled.fresh⟩
    · intro other activity found
      simp only [Table.lookup_insert_eq] at found
      split at found
      · next same => exact List.mem_cons.mpr (Or.inl same)
      · exact List.mem_cons_of_mem _ (labelled.seen other activity found)
  | activityCompleted call _ _ _ _ running =>
    refine labelled.unstarted running _ rfl (by simp) ?_ ?_ ?_
    · exact ⟨rfl, rfl, rfl, rfl, rfl⟩
    · rfl
    · intro other found erased
      by_cases same : other = call
      · subst same
        simp [AList.lookup_erase] at erased
      · rwa [AList.lookup_erase_ne same] at erased
  | runCompleted _ _ _ running =>
    have none_kept := labelled.not_terminal running
    have number : core.normalizedCount = events.length := by
      have counted := labelled.counted
      rw [none_kept] at counted
      simpa using counted
    simp only [Option.toList_none, List.append_nil]
    refine { labelled with counted := ?_, silent := ?_, unfinished := ?_, kept := ?_ }
    · simp [StreamCore.counted, number]
    · intro awaiting
      cases awaiting
    · intro unfinished
      exact absurd rfl unfinished
    · rintro _ ⟨⟩
      exact ⟨rfl, rfl, by simp [StreamCore.emit, number]⟩
  | finished => cases live

end StreamCore.Labelled

/-! ## Whole streams -/

/-- The events a stream has yielded for the server-sent events it has taken so far. -/
inductive Consumes (lib : PyLibrary) (start : HermesStream) :
    List RawEvent → List HermesEvent → HermesStream → Prop where
  | opened : Consumes lib start [] [] start
  | took {raws : List RawEvent} {events : List HermesEvent} {mid next : HermesStream}
      (raw : RawEvent) (event : Option HermesEvent) (before : Consumes lib start raws events mid)
      (live : mid.done = false) (accepted : mid.finishEvent lib raw = .ok (event, next)) :
      Consumes lib start (raws ++ [raw]) (events ++ event.toList) next

section Runs

variable {lib : PyLibrary} {start next : HermesStream} {raws : List RawEvent}
  {events : List HermesEvent}

section

variable (consumed : Consumes lib start raws events next) (live : next.done = false)
  (rest : List RawEvent)

include consumed live

theorem Consumes.normalized :
    start.normalized lib (raws ++ rest) =
      (events ++ (next.normalized lib rest).1, (next.normalized lib rest).2) := by
  induction consumed generalizing rest with
  | opened => rfl
  | took _ _ _ open_before accepted ih =>
    rw [List.append_assoc, ih open_before, List.singleton_append]
    simp [HermesStream.normalized, accepted, live]

theorem Consumes.continues :
    ∃ used unused last, raws ++ rest = used ++ unused ∧
      Consumes lib start used (events ++ (next.normalized lib rest).1) last := by
  induction rest generalizing raws events next with
  | nil =>
    refine ⟨raws, [], next, rfl, ?_⟩
    simpa [HermesStream.normalized] using consumed
  | cons raw rest ih =>
    cases result : next.finishEvent lib raw with
    | error =>
      refine ⟨raws, raw :: rest, next, rfl, ?_⟩
      simpa [HermesStream.normalized, result] using consumed
    | ok pair =>
      rcases pair with ⟨event, after⟩
      have took := Consumes.took raw event consumed live result
      cases ended : after.done with
      | true =>
        refine ⟨raws ++ [raw], rest, after, by simp, ?_⟩
        simpa [HermesStream.normalized, result, ended] using took
      | false =>
        obtain ⟨used, unused, last, split, later⟩ := ih took ended
        refine ⟨used, unused, last, by simpa using split, ?_⟩
        simpa [HermesStream.normalized, result, ended] using later

end

variable {session : String}

/-- What is known of a stream before it takes its first event. -/
structure HermesStream.Fresh (session : String) (stream : HermesStream) : Prop where
  labelled : ∀ lib, stream.core.Labelled lib session []
  balanced : stream.core.Balanced {}
  live : stream.done = false

/-- Names, numbers and balance of an open stream, and that its events are well formed. -/
structure Traced (lib : PyLibrary) (session : String) (core : StreamCore)
    (events : List HermesEvent) : Prop where
  labelled : core.Labelled lib session events
  balanced : core.Balanced (traceState events)
  wellFormed : WellFormedTrace events

section

variable {core after : StreamCore} {raw : RawEvent} {event : Option HermesEvent}
  (traced : Traced lib session core events)

include traced

theorem Traced.admitted (step : StreamStep lib raw core event after) :
    WellFormedTrace (events ++ event.toList) := by
  cases event with
  | none => simpa using traced.wellFormed
  | some =>
    have kept : ∀ terminal, core.terminalEvent = some terminal →
        terminal.payload.isCompletion = true :=
      fun terminal found => (traced.labelled.kept terminal found).1
    exact Log.Justified.snoc traced.wellFormed (traced.balanced.admits kept step)

theorem Traced.step (live : after.done = false) (step : StreamStep lib raw core event after) :
    Traced lib session after (events ++ event.toList) := by
  have balanced := traced.balanced.step traced.labelled.seen live step
  refine ⟨traced.labelled.step live step, ?_, traced.admitted step⟩
  cases event with
  | none => simpa using balanced
  | some =>
    rw [Option.toList_some, traceState_snoc]
    exact balanced

end

theorem Consumes.traced (fresh : start.Fresh session)
    (consumed : Consumes lib start raws events next) (live : next.done = false) :
    Traced lib session next.core events := by
  induction consumed with
  | opened => exact ⟨fresh.labelled lib, fresh.balanced, Log.Justified.nil⟩
  | took _ _ _ open_before accepted ih =>
    exact (ih open_before).step live (HermesStream.finishEvent_steps accepted)

variable {raw : RawEvent} {core after : StreamCore}

theorem StreamStep.state_of_completed (step : StreamStep lib raw core event after)
    (completed : after.state = .runCompleted) :
    core.state = .runCompleted ∨ raw.name = "run.completed" := by
  cases step with
  | runStarted => cases completed
  | runCompleted _ _ named =>
    exact Or.inr named
  | _ => exact Or.inl completed

theorem Consumes.completed_named (awaiting : start.state = .awaitingRun)
    (consumed : Consumes lib start raws events next) (completed : next.state = .runCompleted) :
    ∃ earlier raw later, raws = earlier ++ raw :: later ∧ raw.name = "run.completed" := by
  induction consumed with
  | opened =>
    rw [awaiting] at completed
    cases completed
  | @took raws _ _ _ raw event before open_before accepted ih =>
    rcases (HermesStream.finishEvent_steps accepted).state_of_completed completed with
      already | named
    · obtain ⟨earlier, found, later, split, named⟩ := ih already
      exact ⟨earlier, found, later ++ [raw], by simp [split], named⟩
    · exact ⟨raws, raw, [], rfl, named⟩

theorem StreamStep.of_done (step : StreamStep lib raw core event after)
    (live : core.done = false) (ended : after.done = true) :
    ∃ terminal, event = some terminal ∧ raw.isDone = true ∧ core.state = .runCompleted ∧
      core.terminalEvent = some terminal := by
  cases step with
  | finished terminal marker completed kept => exact ⟨terminal, rfl, marker, completed, kept⟩
  | _ => exact absurd (live.symm.trans ended) (by decide)

theorem HermesStream.opened_fresh (profileId sessionId : String) (routineResult : Bool)
    (streamTimeout idleTimeout : Option Instant) (clock : StreamClock) :
    (HermesStream.opened profileId sessionId routineResult streamTimeout idleTimeout
      clock).Fresh sessionId := by
  refine { labelled := ?_, balanced := ?_, live := rfl }
  · intro lib
    constructor <;> simp [HermesStream.opened, HermesStream.core, startedActivities]
  · refine
      { activities := ?_, apart := List.Pairwise.nil, calls := ?_, legacy := ⟨[], rfl, ?_⟩,
        approval := rfl, incomplete := rfl, settled := ?_ }
    · simp [HermesStream.opened, HermesStream.core]
    · simp [HermesStream.opened, HermesStream.core]
    · simp [HermesStream.opened, HermesStream.core]
    · intro completed
      cases completed

/-- The events of one run: the identified starts are those of distinct tool calls. -/
structure RunTrace (lib : PyLibrary) (session : String) (events : List HermesEvent) : Prop where
  wellFormed : WellFormedTrace events
  numbers : events.map HermesEvent.sequence = List.range' 1 events.length
  run : ∃ runId, (∀ event ∈ events, event.runId = runId) ∧
    ∃ calls : List String, calls.Nodup ∧
      startedActivities events = calls.map (activityId lib runId)
  sessions : ∀ event ∈ events, event.payload.isCompletion = false → event.sessionId = session

theorem Traced.runTrace (traced : Traced lib session core events) :
    RunTrace lib session events := by
  refine
    { wellFormed := traced.wellFormed, numbers := traced.labelled.numbers,
      run := ⟨core.runId.getD "", traced.labelled.runIds,
        core.seenActivityCalls.reverse, List.nodup_reverse.mpr traced.labelled.fresh, ?_⟩
      sessions := fun event listed _ => traced.labelled.sessions event listed }
  rw [traced.labelled.started, List.map_reverse]

variable {terminal : HermesEvent}

theorem Traced.runTrace_completed (traced : Traced lib session core events)
    (kept : core.terminalEvent = some terminal)
    (step : StreamStep lib raw core (some terminal) after) :
    RunTrace lib session (events ++ [terminal]) := by
  have labelled := traced.labelled
  obtain ⟨completion, runId, number⟩ := labelled.kept terminal kept
  have unstarted : startedActivities [terminal] = [] := by
    cases payload : terminal.payload with
    | executionCompleted => simp [startedActivities, payload]
    | _ => simp [payload, HermesPayload.isCompletion] at completion
  refine
    { wellFormed := traced.admitted step, numbers := ?_,
      run := ⟨core.runId.getD "", ?_, core.seenActivityCalls.reverse,
        List.nodup_reverse.mpr labelled.fresh, ?_⟩
      sessions := ?_ }
  · rw [List.map_append, labelled.numbers, List.length_append, List.length_singleton,
      List.range'_concat]
    simp [number, Nat.add_comm]
  · intro event listed
    rcases List.mem_append.mp listed with listed | listed
    · exact labelled.runIds event listed
    · rw [List.mem_singleton.mp listed, runId]
  · rw [startedActivities_append, unstarted, labelled.started, List.append_nil, List.map_reverse]
  · intro event listed ongoing
    rcases List.mem_append.mp listed with listed | listed
    · exact labelled.sessions event listed
    · rw [List.mem_singleton.mp listed, completion] at ongoing
      cases ongoing

/-- Where a completion stands: last, and released by the done marker of a completed run. -/
def CompletionReleased (lib : PyLibrary) (start : HermesStream) (raws : List RawEvent)
    (events : List HermesEvent) : Prop :=
  ∀ before event after, events = before ++ event :: after → event.payload.isCompletion = true →
    after = [] ∧ ∃ earlier completed later done rest,
      raws = earlier ++ completed :: later ++ done :: rest ∧
        completed.name = "run.completed" ∧ done.isDone = true ∧
        (start.normalized lib (earlier ++ completed :: later)).1 = before

theorem completionReleased_of_ongoing
    (ongoing : ∀ event ∈ events, event.payload.isCompletion = false) :
    CompletionReleased lib start raws events := by
  intro before event after split completion
  have listed : event ∈ events := by
    rw [split]
    simp
  rw [ongoing event listed] at completion
  cases completion

theorem Consumes.released {mid : HermesStream}
    (consumed : Consumes lib start raws events mid) (live : mid.done = false)
    (awaiting : start.state = .awaitingRun)
    (ongoing : ∀ event ∈ events, event.payload.isCompletion = false)
    (marker : raw.isDone = true) (completed : mid.state = .runCompleted) (rest : List RawEvent) :
    CompletionReleased lib start (raws ++ [raw] ++ rest) (events ++ [terminal]) := by
  intro before event after split completion
  have last : before = events ∧ after = [] := by
    rcases List.eq_nil_or_concat after with none | ⟨others, final, some⟩
    · subst none
      exact ⟨(List.append_inj' split rfl).1.symm, rfl⟩
    · subst some
      have same : events ++ [terminal] = (before ++ event :: others) ++ [final] := by
        simpa using split
      have listed : event ∈ events := by
        rw [(List.append_inj' same rfl).1]
        simp
      rw [ongoing event listed] at completion
      cases completion
  obtain ⟨earlier, found, later, raws_eq, named⟩ := consumed.completed_named awaiting completed
  refine ⟨last.2, earlier, found, later, raw, rest, ?_, named, marker, ?_⟩
  · simp [raws_eq]
  · have replayed := consumed.normalized live []
    rw [List.append_nil] at replayed
    rw [← raws_eq, replayed, last.1]
    simp [HermesStream.normalized]

end Runs

/-- For any sequence of server-sent events, the yielded events are those of one run, well
formed and numbered from one, and a completion comes last, after the done marker. -/
theorem stream_trace_wellFormed (lib : PyLibrary) (profileId sessionId : String)
    (routineResult : Bool) (streamTimeout idleTimeout : Option Instant) (clock : StreamClock)
    (raws : List RawEvent) :
    let stream := HermesStream.opened profileId sessionId routineResult streamTimeout
      idleTimeout clock
    RunTrace lib sessionId (stream.normalized lib raws).1 ∧
      CompletionReleased lib stream raws (stream.normalized lib raws).1 := by
  intro stream
  have fresh : stream.Fresh sessionId :=
    HermesStream.opened_fresh profileId sessionId routineResult streamTimeout idleTimeout clock
  have awaiting : stream.state = .awaitingRun := rfl
  have begun : Consumes lib stream [] [] stream := .opened
  obtain ⟨_, unused, last, split, consumed⟩ := begun.continues fresh.live raws
  rw [List.nil_append] at split consumed
  generalize (stream.normalized lib raws).1 = events at consumed
  cases consumed with
  | opened =>
    have traced : Traced lib sessionId stream.core [] :=
      Consumes.opened.traced fresh fresh.live
    exact ⟨traced.runTrace, completionReleased_of_ongoing (by simp)⟩
  | @took before events mid _ raw event consumed live accepted =>
    have traced := consumed.traced fresh live
    have step := HermesStream.finishEvent_steps accepted
    cases ended : last.done with
    | false =>
      have later := traced.step ended step
      exact ⟨later.runTrace, completionReleased_of_ongoing later.labelled.ongoing⟩
    | true =>
      obtain ⟨_, rfl, marker, completed, kept⟩ := step.of_done live ended
      refine ⟨traced.runTrace_completed kept step, ?_⟩
      rw [split]
      exact consumed.released live awaiting traced.labelled.ongoing marker completed unused

/-! ## A rotated session -/

def PyLibrary.reading (texts : List (String × Json)) : PyLibrary where
  loads text := (texts.find? fun entry => entry.1 == text).map Prod.snd
  sha256 text := text
  isPrintable _ := true
  strip text := text
  fromIsoFormat _ := none

def rotatedMessages : List (String × String × Json) :=
  [("run.started", "\x7b\"run_id\":\"r1\",\"session_id\":\"s1\"\x7d",
      .obj [("run_id", .str "r1"), ("session_id", .str "s1")]),
    ("assistant.delta", "\x7b\"run_id\":\"r1\",\"session_id\":\"s1\",\"delta\":\"hello\"\x7d",
      .obj [("run_id", .str "r1"), ("session_id", .str "s1"), ("delta", .str "hello")]),
    ("run.completed",
      "\x7b\"run_id\":\"r1\",\"session_id\":\"s2\",\"completed\":true,\"messages\":[\"hello\"]\x7d",
      .obj [("run_id", .str "r1"), ("session_id", .str "s2"), ("completed", .bool true),
        ("messages", .arr [.str "hello"])])]

def rotatedStream : List RawEvent :=
  (rotatedMessages.map fun message => ⟨⟨0, 0⟩, message.1, message.2.1⟩) ++
    [⟨⟨0, 0⟩, "message", "[DONE]"⟩]

/-- The completion of a rotated session does not carry the session of the events before it. -/
theorem stream_session_rotates :
    ¬ ∀ (lib : PyLibrary) (profileId sessionId : String) (routineResult : Bool)
        (streamTimeout idleTimeout : Option Instant) (clock : StreamClock)
        (raws : List RawEvent),
      ∃ session, ∀ event ∈ ((HermesStream.opened profileId sessionId routineResult streamTimeout
        idleTimeout clock).normalized lib raws).1, event.sessionId = session := by
  intro oneSession
  obtain ⟨session, same⟩ := oneSession (PyLibrary.reading (rotatedMessages.map Prod.snd)) "profile"
    "s1" false none none ⟨0, 0⟩ rotatedStream
  have sessions : ((HermesStream.opened "profile" "s1" false none none ⟨0, 0⟩).normalized
      (PyLibrary.reading (rotatedMessages.map Prod.snd)) rotatedStream).1.map
        HermesEvent.sessionId = ["s1", "s2"] := by
    decide +kernel
  have all_same : ∀ found ∈ ["s1", "s2"], found = session := by
    rw [← sessions]
    intro found listed
    obtain ⟨event, yielded, rfl⟩ := List.mem_map.mp listed
    exact same event yielded
  have first := all_same "s1" (by simp)
  have second := all_same "s2" (by simp)
  exact absurd (first.trans second.symm) (by decide)

end Foundry
