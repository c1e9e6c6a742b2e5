import Mathlib.Logic.Basic

/-!
# Runs of atomic operations

A service is a family of operations on one state.  An operation either
succeeds, and its new state is committed, or raises, and the state is rolled
back.  A run is any finite sequence of operations; nothing is assumed about who
issues them or in which order.
-/

set_option autoImplicit false

namespace Run

universe u v w x

variable {State : Type u} {Operation : Type v} {Reply : Type w} {Error : Type x}

section

variable (apply : Operation → State → Except Error (Reply × State))

/-- One atomic call: an error commits nothing. -/
def step (state : State) (operation : Operation) : State :=
  match apply operation state with
  | .ok (_, next) => next
  | .error _ => state

def run (state : State) (operations : List Operation) : State :=
  operations.foldl (step apply) state

/-- Every call of the run is made in a state that meets the condition. -/
def Meets (Condition : State → Operation → Prop) : State → List Operation → Prop
  | _, [] => True
  | state, operation :: rest =>
    Condition state operation ∧ Meets Condition (step apply state operation) rest

end

variable {apply : Operation → State → Except Error (Reply × State)}

theorem step_of_ok (state next : State) (operation : Operation) (reply : Reply)
    (success : apply operation state = .ok (reply, next)) :
    step apply state operation = next := by
  simp [step, success]

theorem step_of_error (state : State) (operation : Operation) (error : Error)
    (raised : apply operation state = .error error) :
    step apply state operation = state := by
  simp [step, raised]

@[simp] theorem run_nil (state : State) : run apply state [] = state := rfl

@[simp] theorem run_cons (state : State) (operation : Operation) (rest : List Operation) :
    run apply state (operation :: rest) = run apply (step apply state operation) rest := rfl

theorem run_append (state : State) (first second : List Operation) :
    run apply state (first ++ second) = run apply (run apply state first) second :=
  List.foldl_append

theorem run_snoc_of_ok (state next : State) (operations : List Operation) (operation : Operation)
    (reply : Reply) (success : apply operation (run apply state operations) = .ok (reply, next)) :
    run apply state (operations ++ [operation]) = next := by
  rw [run_append, run_cons, run_nil]
  exact step_of_ok _ next operation reply success

/-- Case analysis on one call: it commits what it returned, or nothing. -/
theorem step_cases (apply : Operation → State → Except Error (Reply × State))
    (state : State) (operation : Operation) :
    (∃ reply next, apply operation state = .ok (reply, next) ∧
        step apply state operation = next) ∨
      step apply state operation = state := by
  cases result : apply operation state with
  | ok pair => exact .inl ⟨pair.1, pair.2, rfl, step_of_ok state pair.2 operation pair.1 result⟩
  | error raised => exact .inr (step_of_error state operation raised result)

instance Meets.decidable (Condition : State → Operation → Prop)
    [∀ state operation, Decidable (Condition state operation)] :
    ∀ (state : State) (operations : List Operation),
      Decidable (Meets apply Condition state operations)
  | _, [] => isTrue trivial
  | state, operation :: rest =>
    have := Meets.decidable Condition (step apply state operation) rest
    inferInstanceAs (Decidable (_ ∧ _))

section

variable {Condition : State → Operation → Prop} {state : State} {first second : List Operation}
  (meets : Meets apply Condition state (first ++ second))

include second meets

theorem Meets.append_left :
    Meets apply Condition state first := by
  induction first generalizing state with
  | nil => trivial
  | cons _ _ ih => exact ⟨meets.1, ih meets.2⟩

theorem Meets.append_right :
    Meets apply Condition (run apply state first) second := by
  induction first generalizing state with
  | nil => exact meets
  | cons _ _ ih => exact ih meets.2

end

variable {state : State} {operations : List Operation} {Condition : State → Operation → Prop}

theorem Meets.imp {Weaker : State → Operation → Prop}
    (weaker : ∀ state operation, Condition state operation → Weaker state operation)
    (meets : Meets apply Condition state operations) : Meets apply Weaker state operations := by
  induction operations generalizing state with
  | nil => trivial
  | cons operation _ ih => exact ⟨weaker state operation meets.1, ih meets.2⟩

theorem Meets.append {first second : List Operation} (before : Meets apply Condition state first)
    (after : Meets apply Condition (run apply state first) second) :
    Meets apply Condition state (first ++ second) := by
  induction first generalizing state with
  | nil => exact after
  | cons _ _ ih => exact ⟨before.1, ih before.2 after⟩

/-- The general rule for runs.  An invariant that every admitted call keeps
holds in every state of the run, and a transitive relation that every admitted
call establishes holds from the first state to the last. -/
theorem relates_where (Condition : State → Operation → Prop) (Invariant : State → Prop)
    (Related : State → State → Prop) (reflexive : ∀ state, Related state state)
    (transitive : ∀ {first second third},
      Related first second → Related second third → Related first third)
    (pass : ∀ state operation reply next, Condition state operation → Invariant state →
      apply operation state = .ok (reply, next) → Invariant next ∧ Related state next)
    (state : State) (operations : List Operation)
    (start : Invariant state) (meets : Meets apply Condition state operations) :
    Invariant (run apply state operations) ∧ Related state (run apply state operations) := by
  induction operations generalizing state with
  | nil => exact ⟨start, reflexive state⟩
  | cons operation _ ih =>
    have head : Invariant (step apply state operation) ∧
        Related state (step apply state operation) := by
      rcases step_cases apply state operation with
        ⟨reply, next, success, same⟩ | same
      · rw [same]
        exact pass state operation reply next meets.1 start success
      · rw [same]
        exact ⟨start, reflexive state⟩
    have tail := ih (step apply state operation) head.1 meets.2
    exact ⟨tail.1, transitive head.2 tail.2⟩

theorem Meets.and {First Second : State → Operation → Prop} (first : Meets apply First state operations)
    (second : Meets apply Second state operations) :
    Meets apply (fun state operation => First state operation ∧ Second state operation) state
      operations := by
  induction operations generalizing state with
  | nil => trivial
  | cons _ _ ih => exact ⟨⟨first.1, second.1⟩, ih first.2 second.2⟩

section

variable (Condition : State → Operation → Prop)

theorem meets_of_mem (state : State) {operations : List Operation}
    (always : ∀ operation ∈ operations, ∀ state, Condition state operation) :
    Meets apply Condition state operations := by
  induction operations generalizing state with
  | nil => trivial
  | cons operation _ ih =>
    exact ⟨always operation (List.mem_cons_self ..) state,
      ih _ fun other member => always other (List.mem_cons_of_mem _ member)⟩

theorem meets_of_forall (always : ∀ state operation, Condition state operation)
    (state : State) (operations : List Operation) :
    Meets apply Condition state operations :=
  meets_of_mem Condition state fun operation _ state => always state operation

theorem invariant_where (Invariant : State → Prop)
    (pass : ∀ state operation reply next, Condition state operation → Invariant state →
      apply operation state = .ok (reply, next) → Invariant next)
    (state : State) (operations : List Operation)
    (start : Invariant state) (meets : Meets apply Condition state operations) :
    Invariant (run apply state operations) :=
  (relates_where Condition Invariant (fun _ _ => True) (fun _ => trivial)
    (fun _ _ => trivial)
    (fun state operation reply next admitted holds success =>
      ⟨pass state operation reply next admitted holds success, trivial⟩)
    state operations start meets).1

end

theorem invariant (Invariant : State → Prop) (pass : ∀ state operation reply next, Invariant state →
      apply operation state = .ok (reply, next) → Invariant next)
    (state : State) (operations : List Operation) (start : Invariant state) :
    Invariant (run apply state operations) :=
  invariant_where (fun _ _ => True) Invariant
    (fun state operation reply next _ => pass state operation reply next)
    state operations start
    (meets_of_forall _ (fun _ _ => trivial) state operations)

end Run
