import Foundry.Worker.Registry

/-!
# Final quiescence

A profile whose quiescence was reported keeps no resource: the fence turns every later `register`
away, and only one that was admitted before it can still insert.
-/

set_option autoImplicit false

namespace Foundry

open Raise

namespace RegistryState

def IsClear (profileKey : String) (state : RegistryState) : Prop :=
  ∀ token entry, state.entries.lookup token = some entry → entry.profileKey ≠ profileKey

/-- No `register` of the profile is between its admission and its insertion. -/
def IsSettled (profileKey : String) (state : RegistryState) : Prop :=
  ∀ number args, state.registering.lookup number = some args → args.profileKey ≠ profileKey

/-- No profile has a resource after its quiescence was reported. -/
def IsFinal (state : RegistryState) : Prop :=
  ∀ number call, state.quiescing.lookup number = some call → call.phase = .returned "quiesced" →
    state.registrations call.profileKey = []

/-- A `quiesce` makes its last check while no `register` of its profile is under way. -/
def ChecksAlone (state : RegistryState) : RegistryEvent → Prop
  | .goesOn number _ => ∀ call, state.quiescing.lookup number = some call →
      call.phase = .closing [] → state.IsSettled call.profileKey
  | _ => True

variable {state next : RegistryState} {profileKey : String} {call : QuiesceCall}
  {outcome : HookOutcome}

theorem registrations_eq_nil : state.registrations profileKey = [] ↔ state.IsClear profileKey := by
  rw [registrations, List.filter_eq_nil_iff]
  constructor
  · intro none token entry stored same
    exact none entry (List.mem_map.mpr ⟨(token, entry), (Table.mem_rows ..).mpr stored, rfl⟩)
      (decide_eq_true same)
  · rintro clear _ member same
    obtain ⟨⟨token, found⟩, listed, rfl⟩ := List.mem_map.mp member
    exact clear token found ((Table.mem_rows ..).mp listed) (of_decide_eq_true same)

instance (profileKey : String) (state : RegistryState) : Decidable (state.IsSettled profileKey) :=
  decidable_of_iff (∀ row ∈ state.registering.rows, row.2.profileKey ≠ profileKey) <| by
    constructor
    · intro apart number args running
      exact apart (number, args) ((Table.mem_rows ..).mpr running)
    · rintro settled ⟨number, args⟩ listed
      exact settled number args ((Table.mem_rows ..).mp listed)

instance (state : RegistryState) (event : RegistryEvent) : Decidable (state.ChecksAlone event) :=
  match event with
  | .goesOn number _ => inferInstanceAs (Decidable (∀ call ∈ state.quiescing.lookup number,
      call.phase = .closing [] → state.IsSettled call.profileKey))
  | .admitCall _ _ | .insert _ | .release _ | .fence _ | .quiesce _ _ _ => isTrue trivial

/-! ## One part of a quiescence -/

/-- A part that calls a hook or waits keeps the profile of the call and does not return. -/
def GoesOn (call later : QuiesceCall) : Prop :=
  later.profileKey = call.profileKey ∧ ∀ status, later.phase ≠ .returned status

section

variable (entry : Registration) (rest : List Registration)

theorem goesOn_interrupted :
    GoesOn call (call.interrupted outcome entry rest) := by
  unfold QuiesceCall.interrupted
  split
  · split <;> exact ⟨rfl, fun _ => QuiescePhase.noConfusion⟩
  · exact ⟨rfl, fun _ => QuiescePhase.noConfusion⟩

theorem goesOn_waited :
    GoesOn call (call.waited outcome entry rest) := by
  unfold QuiesceCall.waited
  split
  · split <;> exact ⟨rfl, fun _ => QuiescePhase.noConfusion⟩
  · exact ⟨rfl, fun _ => QuiescePhase.noConfusion⟩

theorem goesOn_closed :
    GoesOn call (call.closed outcome entry rest) := by
  unfold QuiesceCall.closed
  split
  · cases outcome with
    | refused | unclosed => dsimp only; split <;> exact ⟨rfl, fun _ => QuiescePhase.noConfusion⟩
    | _ => exact ⟨rfl, fun _ => QuiescePhase.noConfusion⟩
  · exact ⟨rfl, fun _ => QuiescePhase.noConfusion⟩

end

theorem advance_cases :
    GoesOn call (state.advance outcome call) ∨
      (call.pending = true ∧ state.advance outcome call =
        (call.fails "executor_pending").returns "quiescing") ∨
      (call.phase = .closing [] ∧
        state.advance outcome call = call.checked (state.registrations call.profileKey)) ∨
      state.advance outcome call = call := by
  unfold advance
  split
  · exact .inl ⟨rfl, fun _ => QuiescePhase.noConfusion⟩
  · exact .inl ⟨rfl, fun _ => QuiescePhase.noConfusion⟩
  · exact .inl (goesOn_interrupted ..)
  · unfold QuiesceCall.joined
    split
    · next pending => exact .inr (.inl ⟨pending, rfl⟩)
    · exact .inl ⟨rfl, fun _ => QuiescePhase.noConfusion⟩
  · exact .inl (goesOn_waited ..)
  · next last => exact .inr (.inr (.inl ⟨last, rfl⟩))
  · exact .inl (goesOn_closed ..)
  · exact .inr (.inr (.inr rfl))
  · exact .inr (.inr (.inr rfl))

theorem advance_profileKey : (state.advance outcome call).profileKey = call.profileKey := by
  rcases @advance_cases state call outcome with goesOn | ⟨_, same⟩ | ⟨_, same⟩ | same
  · exact goesOn.1
  · rw [same]
    rfl
  · rw [same, QuiesceCall.checked]
    split <;> rfl
  · rw [same]

theorem advance_quiesced (result : (state.advance outcome call).phase = .returned "quiesced") :
    call.phase = .returned "quiesced" ∨
      call.phase = .closing [] ∧ state.IsClear call.profileKey := by
  rcases @advance_cases state call outcome with goesOn | ⟨_, same⟩ | ⟨last, same⟩ | same
  · exact absurd result (goesOn.2 _)
  · rw [same] at result
    exact absurd (QuiescePhase.returned.inj result) (by decide)
  · refine .inr ⟨last, registrations_eq_nil.mp ?_⟩
    rw [same, QuiesceCall.checked] at result
    by_contra occupied
    have some_left : (state.registrations call.profileKey).isEmpty = false := by
      simpa using occupied
    simp [QuiesceCall.returns, QuiesceCall.fails, some_left] at result
  · rw [same] at result
    exact .inl result

/-! ## Steps -/

/-- What every run keeps: a profile whose quiescence has begun is fenced, and one whose quiescence
was reported has no resource and no `register` under way. -/
structure Quiet (state : RegistryState) : Prop where
  fenced : ∀ number call, state.quiescing.lookup number = some call →
    call.profileKey ∈ state.fenced
  clear : ∀ number call, state.quiescing.lookup number = some call →
    call.phase = .returned "quiesced" → state.IsClear call.profileKey
  settled : ∀ number call, state.quiescing.lookup number = some call →
    call.phase = .returned "quiesced" → state.IsSettled call.profileKey

theorem quiet_empty : empty.Quiet where
  fenced := by rintro number call ⟨⟩
  clear := by rintro number call ⟨⟩
  settled := by rintro number call ⟨⟩

theorem Quiet.isFinal (quiet : state.Quiet) : state.IsFinal :=
  fun number call found reported => registrations_eq_nil.mpr (quiet.clear number call found reported)

theorem mem_addFence {other : String} (member : other ∈ state.fenced) :
    other ∈ (state.addFence profileKey).fenced := by
  unfold addFence
  dsimp only
  split
  · exact member
  · exact List.mem_cons_of_mem _ member

theorem mem_addFence_self : profileKey ∈ (state.addFence profileKey).fenced := by
  unfold addFence
  dsimp only
  split
  · next member => exact member
  · exact List.mem_cons_self

theorem Quiet.step (quiet : state.Quiet) {event : RegistryEvent} (alone : state.ChecksAlone event)
    {reply : Unit} (success : apply event state = .ok (reply, next)) : next.Quiet := by
  cases event with
  | admitCall =>
    simp only [apply, bind_eq_ok, require_eq_ok, return_eq_ok] at success
    obtain ⟨_, _, _, _, _, admitted, _, _, _, _, _, rfl⟩ := success
    refine ⟨quiet.fenced, quiet.clear, ?_⟩
    intro caller call found reported other running listed same
    dsimp only at listed
    obtain ⟨_, rfl⟩ | ⟨_, listed⟩ := Table.cases_insert listed
    · exact admitted (same ▸ quiet.fenced caller call found)
    · exact quiet.settled caller call found reported other running listed same
  | insert number =>
    simp only [apply, bind_eq_ok, orRaise_eq_ok, return_eq_ok] at success
    obtain ⟨args, running, _, rfl⟩ := success
    refine ⟨quiet.fenced, ?_, ?_⟩
    · intro caller call found reported token entry stored
      dsimp only at stored
      obtain ⟨_, rfl⟩ | ⟨_, stored⟩ := Table.cases_insert stored
      · exact quiet.settled caller call found reported number args running
      · exact quiet.clear caller call found reported token entry stored
    · intro caller call found reported other running listed
      exact quiet.settled caller call found reported other running
        (Table.lookup_of_erase listed)
  | release =>
    simp only [apply, return_eq_ok] at success
    obtain ⟨_, rfl⟩ := success
    refine ⟨quiet.fenced, ?_, quiet.settled⟩
    intro caller call found reported other entry stored
    exact quiet.clear caller call found reported other entry (Table.lookup_of_erase stored)
  | fence =>
    simp only [apply, bind_eq_ok, return_eq_ok] at success
    obtain ⟨_, _, _, rfl⟩ := success
    exact ⟨fun caller call found => mem_addFence (quiet.fenced caller call found), quiet.clear,
      quiet.settled⟩
  | quiesce number profileKey =>
    simp only [apply, bind_eq_ok, require_eq_ok, return_eq_ok] at success
    obtain ⟨_, _, _, _, _, _, _, rfl⟩ := success
    have other {caller : Nat} {call : QuiesceCall}
        (found : (state.quiescing.insert number ⟨profileKey, [], [], false, .fenced⟩).lookup
          caller = some call) :
        call = ⟨profileKey, [], [], false, .fenced⟩ ∨
          state.quiescing.lookup caller = some call := by
      obtain ⟨_, rfl⟩ | ⟨_, found⟩ := Table.cases_insert found
      · exact .inl rfl
      · exact .inr found
    refine ⟨?_, ?_, ?_⟩
    · intro caller call found
      rcases other found with rfl | found
      · exact mem_addFence_self
      · exact mem_addFence (quiet.fenced caller call found)
    · intro caller call found reported
      rcases other found with rfl | found
      · cases reported
      · exact quiet.clear caller call found reported
    · intro caller call found reported
      rcases other found with rfl | found
      · cases reported
      · exact quiet.settled caller call found reported
  | goesOn number outcome =>
    simp only [apply, bind_eq_ok, orRaise_eq_ok, return_eq_ok] at success
    obtain ⟨begun, running, _, rfl⟩ := success
    have other {caller : Nat} {call : QuiesceCall}
        (found : (state.quiescing.insert number (state.advance outcome begun)).lookup caller =
          some call) :
        call = state.advance outcome begun ∨ state.quiescing.lookup caller = some call := by
      obtain ⟨_, rfl⟩ | ⟨_, found⟩ := Table.cases_insert found
      · exact .inl rfl
      · exact .inr found
    refine ⟨?_, ?_, ?_⟩
    · intro caller call found
      rcases other found with rfl | found
      · rw [advance_profileKey]
        exact quiet.fenced number begun running
      · exact quiet.fenced caller call found
    · intro caller call found reported
      rcases other found with rfl | found
      · rw [advance_profileKey]
        rcases advance_quiesced reported with before | ⟨_, clear⟩
        · exact quiet.clear number begun running before
        · exact clear
      · exact quiet.clear caller call found reported
    · intro caller call found reported
      rcases other found with rfl | found
      · rw [advance_profileKey]
        rcases advance_quiesced reported with before | ⟨last, _⟩
        · exact quiet.settled number begun running before
        · exact alone begun running last
      · exact quiet.settled caller call found reported

theorem not_isFinal_of_insert {number other : Nat} {args : RegisterArgs}
    (found : state.quiescing.lookup number = some call) (reported : call.phase = .returned "quiesced")
    (running : state.registering.lookup other = some args)
    (same : args.profileKey = call.profileKey) :
    ¬ (Run.step apply state (.insert other)).IsFinal := by
  intro final
  have inserted : apply (.insert other) state = .ok ((), { state with
      counter := state.counter + 1
      entries := state.entries.insert (state.counter + 1)
        ⟨state.counter + 1, args.profileKey, args.taskId, args.future, args.agent, args.close,
          args.activeIo⟩
      registering := state.registering.erase other }) := by
    simp only [apply, running, orRaise_some, ok_bind]
    rfl
  rw [Run.step_of_ok state _ _ _ inserted] at final
  have clear := registrations_eq_nil.mp (final number call found reported)
  exact clear (state.counter + 1) _ (AList.lookup_insert _) same

end RegistryState

/-- Quiescence is final in every run whose last checks are made while no `register` of the profile
is under way; and where one is, its insertion undoes a reported quiescence. -/
theorem registry_quiescence_is_final_where_checked_alone (events : List RegistryEvent) :
    (∀ after : List RegistryEvent,
      Run.Meets RegistryState.apply RegistryState.ChecksAlone .empty (events ++ after) →
      (RegistryState.run events).IsFinal) ∧
    ∀ (number other : Nat) (call : QuiesceCall)
      (args : RegisterArgs), (RegistryState.run events).quiescing.lookup number = some call →
      call.phase = .returned "quiesced" →
      (RegistryState.run events).registering.lookup other = some args →
      args.profileKey = call.profileKey →
      ¬ (RegistryState.run (events ++ [.insert other])).IsFinal := by
  constructor
  · intro after meets
    have quiet : (RegistryState.run events).Quiet :=
      Run.invariant_where RegistryState.ChecksAlone RegistryState.Quiet
        (fun _ _ _ _ alone quiet success => quiet.step alone success) _ _
        RegistryState.quiet_empty meets.append_left
    exact quiet.isFinal
  · intro number other call args found reported running same
    rw [RegistryState.run, Run.run_append]
    exact RegistryState.not_isFinal_of_insert found reported running same

/-! ## Runs -/

def claimArgs : RegisterArgs := ⟨"ally-1", "session", true, false, false, 0⟩

/-- The five parts of a quiescence of a profile without resources. -/
def quiescence (number : Nat) : List RegistryEvent :=
  .quiesce number "ally-1" true :: List.replicate 4 (.goesOn number .done)

theorem quiescence_after_release_is_final :
    (RegistryState.run ([.admitCall 0 claimArgs, .insert 0, .release 1] ++ quiescence 0)).IsFinal := by
  refine (registry_quiescence_is_final_where_checked_alone _).1 [] ?_
  decide +kernel

/-- A claim is admitted, the profile is fenced and reported quiescent, and then the claim is
registered. -/
theorem admitted_claim_outlives_quiescence :
    let state := RegistryState.run (.admitCall 0 claimArgs :: quiescence 0 ++ [.insert 0])
    (state.quiescing.lookup 0).map (fun call => (call.profileKey, call.phase)) =
        some ("ally-1", .returned "quiesced") ∧
      (state.registrations "ally-1").map Registration.taskId = ["session"] ∧
      state.fenced = ["ally-1"] := by
  decide +kernel

end Foundry
