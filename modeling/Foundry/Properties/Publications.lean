import Foundry.Publications.System
import Foundry.System

/-!
# Publication revisions

What one answer of Cloud does to the revision and the state of an intent, and what a whole
run does as long as no answer of an older revision reaches a callback that compares none.
-/

set_option autoImplicit false

namespace Foundry

open Raise

variable {D : Type}

def PublicationIntent.revision (intent : PublicationIntent D) : Nat :=
  intent.cloudRevision.getD 0

/-- The later row of one intent: its revision did not fall, a published intent stayed
published, and a manifest stayed what it was. -/
structure PublicationIntent.Advances (intent later : PublicationIntent D) : Prop where
  revision : intent.revision ≤ later.revision
  ready : intent.state = .ready → later.state = .ready
  manifest : ∀ digest, intent.manifestDigest = some digest → later.manifestDigest = some digest

variable {revision : Nat} {binding : Uuid} {payload : Json} {now : Instant} {counts : Bool}
  {env : PublicationEnv D}

namespace PublicationIntent

variable {intent later saved : PublicationIntent D}

theorem Advances.refl (intent : PublicationIntent D) : intent.Advances intent :=
  ⟨Nat.le_refl _, fun ready => ready, fun _ kept => kept⟩

theorem Advances.trans (first : intent.Advances later) (second : later.Advances saved) :
    intent.Advances saved where
  revision := Nat.le_trans first.revision second.revision
  ready := fun ready => second.ready (first.ready ready)
  manifest := fun digest kept => second.manifest digest (first.manifest digest kept)

theorem saved_eq_ok (success : intent.saved = .ok saved) : saved = intent := by
  simp only [PublicationIntent.saved, bind_eq_ok, require_eq_ok, pure_eq_ok] at success
  obtain ⟨_, _, _, _, _, _, rfl⟩ := success
  rfl

theorem isSettled_iff :
    intent.isSettled = true ↔ intent.manifestDigest = none ∨ intent.state = .ready := by
  simp [isSettled]

/-! ## The callbacks -/

theorem freeze_advances [DecidableEq D] {manifest : D}
    (success : intent.freeze now manifest = .ok saved) : intent.Advances saved := by
  simp only [freeze] at success
  split at success
  · simp only [bind_eq_ok, pure_eq_ok] at success
    obtain ⟨_, _, rfl⟩ := success
    exact Advances.refl intent
  · next absent =>
    simp only [bind_eq_ok, require_eq_ok, pure_eq_ok] at success
    obtain ⟨_, preparing, rfl⟩ := success
    refine ⟨Nat.le_refl _, ?_, ?_⟩
    · intro ready
      rw [preparing] at ready
      cases ready
    · intro digest kept
      rw [absent] at kept
      cases kept

theorem setRegistered_advances {revision : Option Json} (timely : intent.isSettled = true ∨
      ∀ answered, positiveInteger? revision = some answered → intent.revision ≤ answered)
    (success : intent.setRegistered revision = .ok saved) : intent.Advances saved := by
  simp only [setRegistered] at success
  split at success
  · cases success
    exact Advances.refl intent
  · next unsettled =>
    rw [saved_eq_ok success]
    rw [isSettled_iff, not_or] at unsettled
    refine ⟨?_, fun ready => absurd ready unsettled.2, fun _ kept => kept⟩
    cases answered : positiveInteger? revision with
    | none => simp [PublicationIntent.revision]
    | some value =>
      rcases timely with settled | newer
      · exact absurd (isSettled_iff.mp settled) (not_or.mpr unsettled)
      · simpa [PublicationIntent.revision] using newer value answered

theorem setFailure_advances {code : String} {revision : Option Nat}
    (success : intent.setFailure now code revision = .ok saved) : intent.Advances saved := by
  simp only [setFailure] at success
  split at success
  · cases success
    exact Advances.refl intent
  next unsettled =>
  rw [isSettled_iff, not_or] at unsettled
  split at success
  · cases success
    exact Advances.refl intent
  split at success
  · rw [saved_eq_ok success]
    exact ⟨Nat.le_refl _, fun ready => absurd ready unsettled.2, fun _ kept => kept⟩
  · rw [saved_eq_ok success]
    exact ⟨Nat.le_refl _, fun ready => absurd ready unsettled.2, fun _ kept => kept⟩

theorem observe_advances
    (success : intent.observe env payload = .ok saved) : intent.Advances saved := by
  simp only [observe] at success
  split at success
  · cases success
    exact Advances.refl intent
  split at success
  · rw [saved_eq_ok success]
    exact ⟨Nat.le_refl _, fun _ => rfl, fun _ kept => kept⟩
  split at success
  · next unpublished =>
    rw [saved_eq_ok success]
    exact ⟨Nat.le_refl _, fun ready => absurd ready unpublished, fun _ kept => kept⟩
  · cases success
    exact Advances.refl intent

theorem admitRetry_advances (success : intent.admitRetry binding revision = .ok (counts, saved)) :
    intent.Advances saved := by
  simp only [admitRetry] at success
  split at success
  · simp only [return_eq_ok] at success
    rw [← success.2]
    exact Advances.refl intent
  next eligible =>
  split at success
  · simp only [return_eq_ok] at success
    rw [← success.2]
    exact Advances.refl intent
  next current =>
  split at success
  · simp only [return_eq_ok] at success
    rw [← success.2]
    exact Advances.refl intent
  split at success
  · simp only [return_eq_ok] at success
    rw [← success.2]
    exact Advances.refl intent
  simp only [bind_eq_ok, return_eq_ok] at success
  obtain ⟨_, success, _, rfl⟩ := success
  rw [saved_eq_ok success]
  refine ⟨?_, ?_, fun _ kept => kept⟩
  · simp only [PublicationIntent.revision, Option.getD_some]
    cases held : intent.cloudRevision with
    | none => exact Nat.zero_le _
    | some =>
      rw [held] at current
      simpa using current
  · intro ready
    exact absurd (Or.inr (Or.inr (Or.inr ready))) eligible

/-! ## A stale answer -/

theorem admitRetry_of_stale (stale : revision < intent.revision)
    (success : intent.admitRetry binding revision = .ok (counts, saved)) : saved = intent := by
  cases held : intent.cloudRevision with
  | none => simp [PublicationIntent.revision, held] at stale
  | some number =>
    have older : revision < number := by simpa [PublicationIntent.revision, held] using stale
    simp only [admitRetry] at success
    split at success
    · simp only [return_eq_ok] at success
      exact success.2.symm
    · rw [if_pos (by simpa [held] using older)] at success
      simp only [return_eq_ok] at success
      exact success.2.symm

end PublicationIntent

/-- The number a revision of Cloud's answer is, to an `==` with a stored one. -/
def revisionNumber (floatInteger : String → Option Nat) : Option Json → Nat
  | some (.int value) => value.toNat
  | some (.bool value) => if value then 1 else 0
  | some (.float literal) => (floatInteger literal).getD 0
  | _ => 0

variable {intent : PublicationIntent D}

theorem PublicationIntent.hasRevision_eq
    {floatInteger : String → Option Nat} {revision : Option Json}
    (same : intent.hasRevision floatInteger revision = true) :
    intent.revision = revisionNumber floatInteger revision := by
  simp only [hasRevision] at same
  split at same
  · simp_all [PublicationIntent.revision, revisionNumber]
  · simp_all [PublicationIntent.revision, revisionNumber]
  · next value =>
    cases held : intent.cloudRevision with
    | none => simp [held] at same
    | some number =>
      have equal : value = number := by simpa [held] using same
      simp [PublicationIntent.revision, revisionNumber, held, equal]
  · simp_all [PublicationIntent.revision, revisionNumber]
  · next literal =>
    cases held : intent.cloudRevision with
    | none => simp [held] at same
    | some number =>
      have equal : floatInteger literal = some number := by simpa [held] using same
      simp [PublicationIntent.revision, revisionNumber, held, equal]
  · cases same

theorem PublicationIntent.observe_of_stale {saved : PublicationIntent D}
    (stale : revisionNumber env.floatInteger (payload.get? "revision") < intent.revision)
    (success : intent.observe env payload = .ok saved) : saved = intent := by
  simp only [observe] at success
  split at success
  · simp only [pure_eq_ok] at success
    exact success.symm
  · next same =>
    have equal := hasRevision_eq (Bool.eq_true_of_not_eq_false same)
    omega

/-! ## Results and when they arrive in time -/

/-- The intent an answer is for, and the revision the result was obtained under: the one
Cloud answers, or the one the call was made at. -/
def CloudCall.result (env : PublicationEnv D) : CloudCall → CloudAnswer → Option (Uuid × Nat)
  | .register id issued, .responded status payload =>
    some (id, if isSuccess status then
        ((positiveInteger? (payload.get? "revision")).or issued).getD 0
      else issued.getD 0)
  | .upload id revision, .responded _ _ => some (id, revision)
  | .retryResult id revision _ _, .responded _ _ => some (id, revision)
  | .get _ _ id, .responded _ payload =>
    some (id, revisionNumber env.floatInteger (payload.get? "revision"))
  | _, _ => none

def itemResult (env : PublicationEnv D) (item : Json) : Option (Uuid × Nat) := do
  let id ← (item.get? "publication_id").bind env.uuid
  let revision ← positiveInteger? (item.get? "revision")
  return (id, revision)

/-- The intent and the revision of the result an operation brings, if it brings one. -/
def PublicationOperation.result (env : PublicationEnv D) (state : Publications D) :
    PublicationOperation D → Option (Uuid × Nat)
  | .answer _ number reply =>
    ((state.calls.lookup number).filter CloudCall.isWaiting).bind fun call =>
      call.result env reply
  | .proceed number =>
    match state.calls.lookup number with
    | some (.admitting _ _ _ _ (item :: _) _ _) => itemResult env item
    | _ => none
  | _ => none

/-- The answers whose callback compares no revision before it writes. -/
def CloudCall.isUnchecked : CloudCall → CloudAnswer → Bool
  | .register _ _, .responded _ _ => true
  | .upload _ _, .responded status _ => !isSuccess status
  | .retryResult _ _ outcome _, .responded status _ => outcome = .failed ∧ isSuccess status
  | _, _ => false

/-- An unchecked answer finds the intent at a revision not above its own, or finds nothing
to change. -/
def Publications.timely (env : PublicationEnv D) (state : Publications D) :
    PublicationOperation D → Bool
  | .answer _ number reply =>
    ((state.calls.lookup number).filter CloudCall.isWaiting).all fun call =>
      !call.isUnchecked reply || (call.result env reply).all fun result =>
        (state.intents.lookup result.1).all fun intent =>
          intent.isSettled || intent.revision ≤ result.2
  | _ => true

/-! ## Moves -/

/-- Every intent of the later store is an advance of its row, or new under a new id. -/
structure Publications.Moves (state next : Publications D) : Prop where
  issued : state.issued ≤ next.issued
  rows : ∀ id later, next.intents.lookup id = some later →
    (∃ intent, state.intents.lookup id = some intent ∧ intent.Advances later) ∨
      (state.issued ≤ id ∧ id < next.issued)

variable {rewrite : PublicationIntent D → Except RuntimeError (PublicationIntent D)} {id : Uuid}

namespace Publications.Moves

variable {state next : Publications D}

theorem refl (state : Publications D) : state.Moves state where
  issued := Nat.le_refl _
  rows := fun _ later found => Or.inl ⟨later, found, PublicationIntent.Advances.refl later⟩

theorem of_same (intents : next.intents = state.intents) (issued : next.issued = state.issued) :
    state.Moves next where
  issued := Nat.le_of_eq issued.symm
  rows := fun _ later found =>
    Or.inl ⟨later, intents ▸ found, PublicationIntent.Advances.refl later⟩

theorem of_hangUp {number : Nat} (moves : (state.hangUp number).Moves next) :
    state.Moves next where
  issued := moves.issued
  rows := moves.rows

theorem calling (call : CloudCall) (moves : state.Moves next) :
    state.Moves (next.calling call) where
  issued := Nat.le_succ_of_le moves.issued
  rows := by
    intro id later found
    rcases moves.rows id later found with kept | ⟨above, below⟩
    · exact Or.inl kept
    · exact Or.inr ⟨above, Nat.lt_succ_of_lt below⟩

theorem claiming (context : RuntimeContext) (profileId : Uuid) (limit : Nat)
    (bindings : List Uuid) (claimed : Nat) (moves : state.Moves next) :
    state.Moves (Publications.claiming context profileId limit bindings claimed next) := by
  cases bindings with
  | nil => exact moves
  | cons =>
    simp only [Publications.claiming]
    split
    · exact moves.calling _
    · exact moves

theorem put {saved : PublicationIntent D}
    (found : state.intents.lookup id = some intent) (advances : intent.Advances saved) :
    state.Moves (state.put id saved) where
  issued := Nat.le_refl _
  rows := by
    intro other later present
    rw [Publications.put, Table.lookup_insert_eq] at present
    split at present
    · next same =>
      rw [Option.some.injEq] at present
      subst same present
      exact Or.inl ⟨intent, found, advances⟩
    · exact Or.inl ⟨later, present, PublicationIntent.Advances.refl later⟩

theorem update (advances : ∀ intent saved, state.intents.lookup id = some intent →
      rewrite intent = .ok saved → intent.Advances saved)
    (success : state.update id rewrite = .ok next) : state.Moves next := by
  simp only [Publications.update] at success
  split at success
  · cases success
    exact refl state
  · next intent found =>
    simp only [bind_eq_ok, pure_eq_ok] at success
    obtain ⟨saved, rewritten, rfl⟩ := success
    exact put found (advances intent saved found rewritten)

end Publications.Moves

variable {context : RuntimeContext} {profileId : Uuid} {state : Publications D}

theorem Publications.lockedIntent_eq_ok
    (success : state.lockedIntent context profileId id = .ok intent) :
    state.intents.lookup id = some intent := by
  simp only [lockedIntent, orRaise_eq_ok, Option.filter_eq_some_iff] at success
  exact success.1

variable {call : CloudCall} {reply : CloudAnswer} {item : Json}

section Operations

variable {env : PublicationEnv D} {now : Instant} {state next : Publications D}

variable {files : List Json}

theorem Publications.create_moves [DecidableEq D] {id : AttemptId} {leaseToken toolCallId : String}
    (success : state.createPublicationIntent env now context id leaseToken toolCallId files =
      .ok next) : state.Moves next := by
  simp only [createPublicationIntent, bind_eq_ok] at success
  obtain ⟨_, _, _, _, _, _, ⟨_, _⟩, _, success⟩ := success
  split at success
  · simp only [bind_eq_ok, pure_eq_ok] at success
    obtain ⟨_, _, rfl⟩ := success
    exact Moves.refl state
  · cases success
    refine ⟨Nat.le_succ _, ?_⟩
    intro other later present
    obtain ⟨rfl, _⟩ | ⟨_, present⟩ := Table.cases_insert present
    · exact Or.inr ⟨Nat.le_refl _, Nat.lt_succ_self _⟩
    · exact Or.inl ⟨later, present, PublicationIntent.Advances.refl later⟩

theorem Publications.acknowledge_moves [DecidableEq D]
    (success : state.acknowledgeFrozenPublication env now context profileId id files =
      .ok next) : state.Moves next := by
  simp only [acknowledgeFrozenPublication, bind_eq_ok] at success
  obtain ⟨_, _, _, _, _, _, _, locked, frozen, freezes, _, stored, success⟩ := success
  rw [PublicationIntent.saved_eq_ok stored] at success
  have moves : state.Moves (state.put id frozen) :=
    Moves.put (lockedIntent_eq_ok locked) (PublicationIntent.freeze_advances freezes)
  split at success
  · cases success
    exact moves.calling _
  · cases success
    exact moves

theorem Publications.admitItem_moves
    (success : state.admitItem env context profileId binding item = .ok (counts, next)) :
    state.Moves next := by
  simp only [admitItem] at success
  split at success
  · simp only [bind_eq_ok] at success
    obtain ⟨_, _, success⟩ := success
    split at success
    · simp only [return_eq_ok] at success
      rw [← success.2]
      exact Moves.refl state
    · next found =>
      simp only [bind_eq_ok, return_eq_ok] at success
      obtain ⟨⟨_, _⟩, admits, _, rfl⟩ := success
      rw [Option.filter_eq_some_iff] at found
      exact Moves.put found.1 (PublicationIntent.admitRetry_advances admits)
  · simp only [return_eq_ok] at success
    rw [← success.2]
    exact Moves.refl state

theorem Publications.registered_timely {issued : Option Nat} {status : Nat}
    (accepted : isSuccess status = true) (timely : intent.isSettled = true ∨
      intent.revision ≤ if isSuccess status then
          ((positiveInteger? (payload.get? "revision")).or issued).getD 0
        else issued.getD 0) :
    intent.isSettled = true ∨ ∀ answered,
      positiveInteger? (payload.get? "revision") = some answered → intent.revision ≤ answered := by
  rcases timely with settled | newer
  · exact Or.inl settled
  · right
    intro answered found
    rw [if_pos accepted, found] at newer
    exact newer

theorem Publications.answered_moves
    (timely : call.isUnchecked reply = true → ∀ id revision, call.result env reply =
      some (id, revision) → ∀ intent, state.intents.lookup id = some intent →
        intent.isSettled = true ∨ intent.revision ≤ revision)
    (success : state.answered env now call reply = .ok next) : state.Moves next := by
  cases reply with
  | unavailable => cases call <;> simp [answered] at success <;> exact success ▸ Moves.refl state
  | responded =>
    cases call with
    | acknowledged | admitting =>
      simp only [answered, pure_eq_ok] at success
      exact success ▸ Moves.refl state
    | register id =>
      simp only [answered] at success
      split at success
      · next accepted =>
        apply Moves.update _ success
        intro intent saved found registers
        have inTime := timely rfl id _ rfl intent found
        exact PublicationIntent.setRegistered_advances
          (registered_timely accepted inTime) registers
      · apply Moves.update _ success
        intro intent saved found fails
        exact PublicationIntent.setFailure_advances fails
    | upload =>
      simp only [answered] at success
      split at success
      · simp only [pure_eq_ok] at success
        exact success ▸ Moves.refl state
      · apply Moves.update _ success
        intro intent saved found fails
        exact PublicationIntent.setFailure_advances fails
    | get =>
      simp only [answered] at success
      split at success
      · simp only [bind_eq_ok, pure_eq_ok] at success
        obtain ⟨_, _, _, locked, _, observed, rfl⟩ := success
        exact Moves.put (lockedIntent_eq_ok locked)
          (PublicationIntent.observe_advances observed)
      · simp only [pure_eq_ok] at success
        exact success ▸ Moves.refl state
    | claim context profileId limit _ rest claimed =>
      simp only [answered] at success
      split at success
      · cases success
        exact (Moves.refl state).claiming context profileId limit rest claimed
      · simp only [bind_eq_ok] at success
        obtain ⟨_, _, success⟩ := success
        split at success
        · cases success
          exact (Moves.refl state).calling _
        · simp at success
    | retryResult =>
      simp only [answered] at success
      split at success
      · apply Moves.update _ success
        intro intent saved found fails
        exact PublicationIntent.setFailure_advances fails
      · simp only [pure_eq_ok] at success
        exact success ▸ Moves.refl state

theorem Publications.proceeded_moves
    (success : state.proceeded env call = .ok next) : state.Moves next := by
  cases call with
  | acknowledged =>
    simp only [proceeded, registerFrozenIntent, pure_eq_ok] at success
    subst success
    split
    · exact Moves.refl state
    split
    · exact (Moves.refl state).calling _
    · exact Moves.refl state
  | admitting context profileId limit _ items rest claimed =>
    cases items with
    | nil =>
      simp only [proceeded, pure_eq_ok] at success
      subst success
      exact (Moves.refl state).claiming context profileId limit rest claimed
    | cons =>
      simp only [proceeded, bind_eq_ok, pure_eq_ok] at success
      obtain ⟨⟨_, _⟩, admits, rfl⟩ := success
      exact (admitItem_moves admits).calling _
  | _ =>
    simp only [proceeded, pure_eq_ok] at success
    exact success ▸ Moves.refl state

end Operations

/-! ## One operation -/

section Steps

variable [DecidableEq D] {env : PublicationEnv D} {state next : Publications D}
  {operation : PublicationOperation D}

theorem PublicationOperation.apply_moves (timely : state.timely env operation = true)
    (success : operation.apply env state = .ok ((), next)) : state.Moves next := by
  cases operation with
  | create =>
    simp only [apply, map_eq_ok, Prod.mk.injEq, true_and] at success
    obtain ⟨_, success, rfl⟩ := success
    exact Publications.create_moves success
  | acknowledge =>
    simp only [apply, map_eq_ok, Prod.mk.injEq, true_and] at success
    obtain ⟨_, success, rfl⟩ := success
    exact Publications.acknowledge_moves success
  | register =>
    simp only [apply, map_eq_ok, Prod.mk.injEq, true_and, Publications.registerPublication,
      bind_eq_ok, pure_eq_ok] at success
    obtain ⟨_, ⟨_, _, _, _, _, _, _, _, rfl⟩, rfl⟩ := success
    exact (Publications.Moves.refl state).calling _
  | upload =>
    simp only [apply, map_eq_ok, Prod.mk.injEq, true_and, Publications.uploadPublicationFile,
      bind_eq_ok, pure_eq_ok] at success
    obtain ⟨_, ⟨_, _, _, _, _, _, _, _, _, _, _, _, rfl⟩, rfl⟩ := success
    exact (Publications.Moves.refl state).calling _
  | get =>
    simp only [apply, map_eq_ok, Prod.mk.injEq, true_and, Publications.getPublication,
      bind_eq_ok, pure_eq_ok] at success
    obtain ⟨_, ⟨_, _, _, _, rfl⟩, rfl⟩ := success
    exact (Publications.Moves.refl state).calling _
  | claim =>
    simp only [apply, map_eq_ok, Prod.mk.injEq, true_and,
      Publications.claimPublicationRetries, bind_eq_ok, pure_eq_ok] at success
    obtain ⟨_, ⟨_, _, _, _, rfl⟩, rfl⟩ := success
    exact (Publications.Moves.refl state).claiming _ _ _ _ _
  | recordRetry =>
    simp only [apply, map_eq_ok, Prod.mk.injEq, true_and,
      Publications.recordPublicationRetry, bind_eq_ok, pure_eq_ok] at success
    obtain ⟨_, ⟨_, _, _, _, _, _, _, _, _, _, rfl⟩, rfl⟩ := success
    exact (Publications.Moves.refl state).calling _
  | answer _ number reply =>
    simp only [apply] at success
    split at success
    · next call found =>
      have inTime : call.isUnchecked reply = true → ∀ id revision,
          call.result env reply = some (id, revision) →
          ∀ intent, state.intents.lookup id = some intent →
            intent.isSettled = true ∨ intent.revision ≤ revision := by
        intro unchecked id revision brought intent present
        simpa [Publications.timely, found, unchecked, brought, present] using timely
      split at success
      · next after answers =>
        simp only [return_eq_ok, true_and] at success
        subst success
        have moved : (state.hangUp number).Moves after :=
          Publications.answered_moves inTime answers
        exact moved.of_hangUp
      · simp only [return_eq_ok, true_and] at success
        subst success
        exact Publications.Moves.of_same rfl rfl
    · simp only [return_eq_ok, true_and] at success
      subst success
      exact Publications.Moves.refl state
  | proceed number =>
    simp only [apply] at success
    split at success
    · split at success
      · next after proceeds =>
        simp only [return_eq_ok, true_and] at success
        subst success
        have moved : (state.hangUp number).Moves after :=
          Publications.proceeded_moves proceeds
        exact moved.of_hangUp
      · simp only [return_eq_ok, true_and] at success
        subst success
        exact Publications.Moves.of_same rfl rfl
    · simp only [return_eq_ok, true_and] at success
      subst success
      exact Publications.Moves.refl state
  | wake =>
    simp only [apply, return_eq_ok, true_and] at success
    subst success
    refine ⟨Nat.le_refl _, ?_⟩
    intro id later present
    simp only [Publications.wakeWorkspace, Table.lookup_updateAll,
      Option.map_eq_some_iff] at present
    obtain ⟨intent, found, rfl⟩ := present
    refine Or.inl ⟨intent, found, ?_⟩
    split
    · exact ⟨Nat.le_refl _, fun ready => ready, fun _ kept => kept⟩
    · exact PublicationIntent.Advances.refl intent
  | purge =>
    simp only [apply, return_eq_ok, true_and] at success
    subst success
    refine ⟨Nat.le_refl _, ?_⟩
    intro id later present
    rw [Table.lookup_keep_eq_some] at present
    exact Or.inl ⟨later, present.1, PublicationIntent.Advances.refl later⟩
  | commit =>
    simp only [apply, return_eq_ok, true_and] at success
    subst success
    exact Publications.Moves.of_same rfl rfl

/-! ## A stale result -/

omit [DecidableEq D] in
theorem Publications.update_of_settled
    (found : state.intents.lookup id = some intent) (settled : rewrite intent = .ok intent)
    (success : state.update id rewrite = .ok next) :
    next.intents.lookup id = some intent := by
  simp only [Publications.update, found, settled, ok_bind, pure_eq_ok] at success
  subst success
  simp [Publications.put]

omit [DecidableEq D] in
theorem Publications.answered_of_stale (brought : call.result env reply = some (id, revision))
    (found : state.intents.lookup id = some intent) (stale : revision < intent.revision)
    (settled : call.isUnchecked reply = true → intent.isSettled = true)
    (success : state.answered env now call reply = .ok next) :
    next.intents.lookup id = some intent := by
  cases reply with
  | unavailable => cases call <;> simp [CloudCall.result] at brought
  | responded =>
    cases call with
    | acknowledged | claim => simp [CloudCall.result] at brought
    | admitting =>
      simp [CloudCall.result] at brought
    | register =>
      simp only [CloudCall.result, Option.some.injEq, Prod.mk.injEq] at brought
      obtain ⟨rfl, _⟩ := brought
      have unchanged := settled rfl
      simp only [answered] at success
      split at success
      · exact update_of_settled found
          (by simp [PublicationIntent.setRegistered, unchanged]) success
      · exact update_of_settled found
          (by simp [PublicationIntent.setFailure, unchanged]) success
    | upload =>
      simp only [CloudCall.result, Option.some.injEq, Prod.mk.injEq] at brought
      obtain ⟨rfl, rfl⟩ := brought
      simp only [answered] at success
      split at success
      · cases success
        exact found
      · next refused =>
        have unchanged := settled (by simpa [CloudCall.isUnchecked] using refused)
        exact update_of_settled found
          (by simp [PublicationIntent.setFailure, unchanged]) success
    | retryResult =>
      simp only [CloudCall.result, Option.some.injEq, Prod.mk.injEq] at brought
      obtain ⟨rfl, rfl⟩ := brought
      simp only [answered] at success
      split at success
      · next failed =>
        have unchanged := settled (by simpa [CloudCall.isUnchecked] using failed)
        exact update_of_settled found
          (by simp [PublicationIntent.setFailure, unchanged]) success
      · cases success
        exact found
    | get =>
      simp only [CloudCall.result, Option.some.injEq, Prod.mk.injEq] at brought
      obtain ⟨rfl, rfl⟩ := brought
      simp only [answered] at success
      split at success
      · simp only [bind_eq_ok, pure_eq_ok] at success
        obtain ⟨_, _, _, locked, _, observes, rfl⟩ := success
        have same := (lockedIntent_eq_ok locked).symm.trans found
        rw [Option.some.injEq] at same
        subst same
        rw [PublicationIntent.observe_of_stale stale observes]
        simp [Publications.put]
      · cases success
        exact found

omit [DecidableEq D] in
theorem Publications.proceeded_of_stale {limit : Nat} {items : List Json} {rest : List Uuid}
    {claimed : Nat} (brought : itemResult env item = some (id, revision))
    (found : state.intents.lookup id = some intent) (stale : revision < intent.revision)
    (success : state.proceeded env
      (.admitting context profileId limit binding (item :: items) rest claimed) = .ok next) :
    next.intents.lookup id = some intent := by
  simp only [itemResult, Option.bind_eq_bind, Option.bind_eq_some_iff, Option.pure_def,
    Option.some.injEq, Prod.mk.injEq] at brought
  obtain ⟨name, named, _, numbered, rfl, rfl⟩ := brought
  have parsed : (item.get? "publication_id").bind env.uuid = some name := by
    rw [Option.bind_eq_some_iff]
    exact named
  simp only [proceeded, admitItem, parsed, numbered, bind_eq_ok, pure_eq_ok] at success
  obtain ⟨⟨_, _⟩, ⟨_, _, admits⟩, rfl⟩ := success
  split at admits
  · simp only [return_eq_ok] at admits
    rw [← admits.2]
    exact found
  · next owned =>
    rw [Option.filter_eq_some_iff] at owned
    have same := owned.1.symm.trans found
    rw [Option.some.injEq] at same
    subst same
    simp only [bind_eq_ok, return_eq_ok] at admits
    obtain ⟨⟨_, _⟩, admits, _, rfl⟩ := admits
    rw [PublicationIntent.admitRetry_of_stale stale admits]
    simp [Publications.put, Publications.calling]

theorem PublicationOperation.apply_of_stale (timely : state.timely env operation = true)
    (brought : operation.result env state = some (id, revision))
    (found : state.intents.lookup id = some intent) (stale : revision < intent.revision)
    (success : operation.apply env state = .ok ((), next)) :
    next.intents.lookup id = some intent := by
  cases operation with
  | answer _ number =>
    simp only [PublicationOperation.result, Option.bind_eq_some_iff] at brought
    obtain ⟨_, waiting, brought⟩ := brought
    simp only [apply, waiting] at success
    split at success
    · next answers =>
      simp only [return_eq_ok, true_and] at success
      subst success
      have present : (state.hangUp number).intents.lookup id = some intent := found
      apply Publications.answered_of_stale brought present stale _ answers
      intro unchecked
      have inTime : intent.isSettled = true ∨ intent.revision ≤ revision := by
        simpa [Publications.timely, waiting, unchecked, brought, found] using timely
      rcases inTime with settled | _
      · exact settled
      · omega
    · simp only [return_eq_ok, true_and] at success
      subst success
      exact found
  | proceed number =>
    simp only [PublicationOperation.result] at brought
    split at brought
    · next present =>
      simp only [apply, present] at success
      split at success
      · next waiting =>
        simp only [Option.filter_eq_some_iff, Option.some.injEq] at waiting
        obtain ⟨rfl, _⟩ := waiting
        split at success
        · next proceeds =>
          simp only [return_eq_ok, true_and] at success
          subst success
          have known : (state.hangUp number).intents.lookup id = some intent := found
          exact Publications.proceeded_of_stale brought known stale proceeds
        · simp only [return_eq_ok, true_and] at success
          subst success
          exact found
      · simp only [return_eq_ok, true_and] at success
        subst success
        exact found
    · cases brought
  | _ => simp [PublicationOperation.result] at brought

end Steps

/-! ## Runs -/

section Runs

variable [DecidableEq D] (env : PublicationEnv D)

def Publications.Issued (state : Publications D) : Prop :=
  ∀ id intent, state.intents.lookup id = some intent → id < state.issued

/-- The rows of the later store that an earlier store could know are advances of its own. -/
structure Publications.Follows (state later : Publications D) : Prop where
  issued : state.issued ≤ later.issued
  rows : ∀ id found, id < state.issued → later.intents.lookup id = some found →
    ∃ intent, state.intents.lookup id = some intent ∧ intent.Advances found

omit [DecidableEq D] in
theorem Publications.Moves.issuedIds {next : Publications D} (moves : state.Moves next)
    (known : state.Issued) : next.Issued := by
  intro id intent found
  rcases moves.rows id intent found with ⟨earlier, held, _⟩ | ⟨_, below⟩
  · exact Nat.lt_of_lt_of_le (known id earlier held) moves.issued
  · exact below

omit [DecidableEq D] in
theorem Publications.Moves.follows {next : Publications D} (moves : state.Moves next) :
    state.Follows next := by
  refine ⟨moves.issued, ?_⟩
  intro id found below present
  rcases moves.rows id found present with kept | ⟨above, _⟩
  · exact kept
  · exact absurd below (Nat.not_lt.mpr above)

omit [DecidableEq D] in
theorem Publications.Follows.trans {middle later : Publications D}
    (first : state.Follows middle) (second : middle.Follows later) : state.Follows later := by
  refine ⟨Nat.le_trans first.issued second.issued, ?_⟩
  intro id found below present
  obtain ⟨between, held, advanced⟩ :=
    second.rows id found (Nat.lt_of_lt_of_le below first.issued) present
  obtain ⟨intent, started, advances⟩ := first.rows id between below held
  exact ⟨intent, started, advances.trans advanced⟩

def Publications.Timely (state : Publications D) (operation : PublicationOperation D) : Prop :=
  state.timely env operation = true

instance (state : Publications D) (operation : PublicationOperation D) :
    Decidable (Publications.Timely env state operation) :=
  inferInstanceAs (Decidable (_ = true))

theorem Publications.run_follows (state : Publications D)
    (operations : List (PublicationOperation D)) (known : state.Issued)
    (timely : Run.Meets (PublicationOperation.apply env) (Publications.Timely env) state
      operations) :
    (Run.run (PublicationOperation.apply env) state operations).Issued ∧
      state.Follows (Run.run (PublicationOperation.apply env) state operations) := by
  apply Run.relates_where (Publications.Timely env)
    Publications.Issued Publications.Follows
  · intro store
    exact (Publications.Moves.refl store).follows
  · intro first second third earlier later
    exact earlier.trans later
  · intro store operation reply next inTime issued success
    have moves := PublicationOperation.apply_moves inTime success
    exact ⟨moves.issuedIds issued, moves.follows⟩
  · exact known
  · exact timely

end Runs

def Publications.opened (db : Db D) : Publications D where
  db := db
  issued := 0
  intents := ∅
  calls := ∅

theorem Publications.opened_issued (db : Db D) : (Publications.opened db).Issued := by
  intro id intent found
  simp [Publications.opened] at found

/-- In a run whose unchecked answers all come in time, the revision of an intent never falls,
a result of an older revision changes nothing, a published intent stays published and a
manifest stays what it was. -/
theorem publication_revisions_monotone [DecidableEq D] (env : PublicationEnv D) (db : Db D)
    (before after : List (PublicationOperation D))
    (timely : Run.Meets (PublicationOperation.apply env) (Publications.Timely env)
      (Publications.opened db) (before ++ after))
    (id : Uuid) (intent : PublicationIntent D)
    (found : (Run.run (PublicationOperation.apply env) (Publications.opened db)
      before).intents.lookup id = some intent) :
    (∀ later, (Run.run (PublicationOperation.apply env) (Publications.opened db)
        (before ++ after)).intents.lookup id = some later → intent.Advances later) ∧
      ∀ operation rest revision, after = operation :: rest →
        operation.result env (Run.run (PublicationOperation.apply env) (Publications.opened db)
          before) = some (id, revision) → revision < intent.revision →
        (Run.run (PublicationOperation.apply env) (Publications.opened db)
          (before ++ [operation])).intents.lookup id = some intent := by
  have early := Publications.run_follows env (Publications.opened db) before
    (Publications.opened_issued db) timely.append_left
  have late := timely.append_right
  constructor
  · intro later present
    rw [Run.run_append] at present
    have follows := (Publications.run_follows env _ after early.1 late).2
    obtain ⟨_, held, advances⟩ :=
      follows.rows id later (early.1 id intent found) present
    cases found.symm.trans held
    exact advances
  · intro operation rest revision first brought stale
    subst first
    rw [Run.run_append]
    rcases Run.step_cases (PublicationOperation.apply env) _ operation with
      ⟨_, _, success, same⟩ | same
    · rw [Run.run_cons, Run.run_nil, same]
      exact PublicationOperation.apply_of_stale late.1 brought found stale success
    · rw [Run.run_cons, Run.run_nil, same]
      exact found

/-! ## An older answer that comes late -/

def PublicationEnv.plain : PublicationEnv PlainDigest where
  runtime := Env.plain
  digest := fun json => .document (.execution json)
  canonicalUuid := fun json => if json = .str "version" then some "version" else none
  uuid := fun _ => none
  floatInteger := fun _ => none
  enabled := true
  cloudConfigured := true

def publishingCommand : ExecutionCommand where
  commandId := 81
  idempotencyKey := 90
  cloudWorkspaceId := 10
  conversationTurnOrdinal := 1
  cloudAllyId := 20
  cloudConversationId := 40
  cloudMessageId := 41
  cloudBindingId := 50
  text := "text"
  bootstrap := none
  files := none
  issuedAt := ⟨0, true⟩
  deadlineAt := ⟨1, true⟩
  fingerprint := plainFingerprint

def publishingWork : Db PlainDigest :=
  run Env.plain Db.empty (⟨0, .registerWorkspace "10"⟩ :: (bringUp.tail ++
    [⟨0, .createExecutionIntent publishingCommand⟩, ⟨0, .claimNextExecution ⟨0, 1⟩ 60 1⟩]))

def publishedFile : Json :=
  .obj [("source_version_id", .str "version"), ("name", .str "name"), ("size", .int 1),
    ("sha256", .str "aaaaaaaaaaaaaaaaaaaaaaaaaaaaaaaaaaaaaaaaaaaaaaaaaaaaaaaaaaaaaaaa")]

def answerRevision (revision : Int) : CloudAnswer :=
  .responded 200 (.obj [("revision", .int revision)])

def registering : List (PublicationOperation PlainDigest) :=
  [.create 0 ⟨0, 1⟩ ⟨7, 1⟩ leaseToken "call" [.obj [("name", .str "name"), ("size", .int 1)]],
    .acknowledge 0 ⟨0, 1⟩ 50 0 [publishedFile], .proceed 1]

def overtaken : List (PublicationOperation PlainDigest) :=
  registering ++ [.register 0 ⟨0, 1⟩ ⟨7, 1⟩ leaseToken 0 [publishedFile],
    .answer 0 3 (answerRevision 2)]

/-- An upload under revision 1 is under way while the intent is registered again. -/
def reregistered : List (PublicationOperation PlainDigest) :=
  registering ++ [.answer 0 2 (answerRevision 1), .upload ⟨0, 1⟩ 50 0 1 1 1,
    .register 0 ⟨0, 1⟩ ⟨7, 1⟩ leaseToken 0 [publishedFile], .answer 0 4 (answerRevision 2)]

def publicationAfter (operations : List (PublicationOperation PlainDigest)) :
    Option (Nat × PublicationIntentState) :=
  ((Run.run (PublicationOperation.apply PublicationEnv.plain)
    (Publications.opened publishingWork) operations).intents.lookup 0).map fun intent =>
      (intent.revision, intent.state)

theorem publicationAfter_eq_some {operations : List (PublicationOperation PlainDigest)} {state : PublicationIntentState}
    (after : publicationAfter operations = some (revision, state)) :
    ∃ intent, (Run.run (PublicationOperation.apply PublicationEnv.plain)
      (Publications.opened publishingWork) operations).intents.lookup 0 = some intent ∧
        intent.revision = revision ∧ intent.state = state := by
  rw [publicationAfter, Option.map_eq_some_iff] at after
  obtain ⟨intent, found, same⟩ := after
  rw [Prod.mk.injEq] at same
  exact ⟨intent, found, same⟩

/-- The first registration answers after the second: the revision falls from 2 to 1. -/
theorem publication_revision_falls :
    ¬ ∀ (env : PublicationEnv PlainDigest) (db : Db PlainDigest)
        (before after : List (PublicationOperation PlainDigest)) (id : Uuid)
        (intent later : PublicationIntent PlainDigest),
      (Run.run (PublicationOperation.apply env) (Publications.opened db)
        before).intents.lookup id = some intent →
      (Run.run (PublicationOperation.apply env) (Publications.opened db)
        (before ++ after)).intents.lookup id = some later →
      intent.revision ≤ later.revision := by
  intro monotone
  have first : publicationAfter overtaken = some (2, .registered) := by decide +kernel
  have second : publicationAfter (overtaken ++ [.answer 0 2 (answerRevision 1)]) =
      some (1, .registered) := by decide +kernel
  obtain ⟨intent, found, _⟩ := publicationAfter_eq_some first
  obtain ⟨later, present, _⟩ := publicationAfter_eq_some second
  have grows := monotone PublicationEnv.plain publishingWork overtaken
    [.answer 0 2 (answerRevision 1)] 0 intent later found present
  omega

theorem reregistered_revisions :
    ∃ intent, (Run.run (PublicationOperation.apply PublicationEnv.plain)
        (Publications.opened publishingWork) registering).intents.lookup 0 = some intent ∧
      ∀ later, (Run.run (PublicationOperation.apply PublicationEnv.plain)
        (Publications.opened publishingWork) (registering ++ reregistered.drop 3)).intents.lookup 0 =
          some later → intent.Advances later := by
  have started : publicationAfter registering = some (0, .frozen) := by decide +kernel
  obtain ⟨intent, found, _⟩ := publicationAfter_eq_some started
  exact ⟨intent, found, (publication_revisions_monotone PublicationEnv.plain publishingWork
    registering (reregistered.drop 3) (by decide +kernel) 0 intent found).1⟩

end Foundry
