import Mathlib.Data.List.Basic

/-!
# Scripts of atomic writes

A script reads a state and replaces it by one atomic write after another until it answers or
refuses.  It may be cut off between any two writes, so its meaning is the list of the states
its writes leave together with how it ends.  `wp` is the rule for it: an invariant that holds
after every write, and what holds at the two ends.
-/

set_option autoImplicit false

/-- The states after each write, oldest first, and the end. -/
def Script (σ ε α : Type) : Type := σ → List σ × Except ε α

namespace Script

variable {σ ε α β : Type}

/-- The state a script ends in. -/
def reached (script : Script σ ε α) (start : σ) : σ := (script start).1.getLastD start

def answer (value : α) : Script σ ε α := fun _ => ([], .ok value)

def refuse (reason : ε) : Script σ ε α := fun _ => ([], .error reason)

def read : Script σ ε σ := fun state => ([], .ok state)

def write (change : σ → σ) : Script σ ε Unit := fun state => ([change state], .ok ())

def andThen (script : Script σ ε α) (next : α → Script σ ε β) : Script σ ε β := fun start =>
  match (script start).2 with
  | .error reason => ((script start).1, .error reason)
  | .ok value =>
    let rest := next value (script.reached start)
    ((script start).1 ++ rest.1, rest.2)

instance : Monad (Script σ ε) where
  pure := answer
  bind := andThen

/-- A script on a part of the state, which `embed` puts into the whole. -/
def within {τ : Type} (embed : σ → τ) (script : Script σ ε α) (part : σ) : Script τ ε α := fun _ =>
  ((script part).1.map embed, (script part).2)

/-- The end of a script as a value: a refusal is caught, and its writes stay. -/
def capture {δ : Type} (script : Script σ ε α) : Script σ δ (Except ε α) := fun start =>
  ((script start).1, .ok (script start).2)

/-- Nothing is done when the condition fails. -/
def unlessRefuse (condition : Bool) (reason : ε) : Script σ ε Unit :=
  if condition then answer () else refuse reason

/-- What follows a read works on the state that was read. -/
theorem read_bind (next : σ → Script σ ε β) (start : σ) :
    ((read : Script σ ε σ) >>= next) start = next start start := rfl

/-! ## The rule of scripts -/

/-- Every write leaves the invariant, an answer meets its postcondition in the state it is
given in, and a refusal meets its own. -/
def wp (Invariant : σ → Prop) (Answered : α → σ → Prop) (Refused : ε → σ → Prop)
    (script : Script σ ε α) (start : σ) : Prop :=
  (∀ state ∈ (script start).1, Invariant state) ∧
    match (script start).2 with
    | .ok value => Answered value (script.reached start)
    | .error reason => Refused reason (script.reached start)

variable {Invariant : σ → Prop} {Answered : α → σ → Prop} {Refused : ε → σ → Prop} {start : σ}

theorem reached_append {first second : List σ} :
    (first ++ second).getLastD start = second.getLastD (first.getLastD start) := by
  cases second with
  | nil => simp
  | cons => simp [List.getLastD_eq_getLast?, List.getLast?_append]

theorem wp_answer {value : α} (holds : Answered value start) :
    wp Invariant Answered Refused (answer value) start :=
  ⟨by rintro _ ⟨⟩, holds⟩

theorem wp_pure {value : α} (holds : Answered value start) :
    wp Invariant Answered Refused (pure value : Script σ ε α) start :=
  wp_answer holds

theorem wp_refuse {reason : ε} (holds : Refused reason start) :
    wp Invariant Answered Refused (refuse reason : Script σ ε α) start :=
  ⟨by rintro _ ⟨⟩, holds⟩

theorem wp_read {Seen : σ → σ → Prop} (holds : Seen start start) :
    wp Invariant Seen Refused (read : Script σ ε σ) start :=
  ⟨by rintro _ ⟨⟩, holds⟩

variable {Done : Unit → σ → Prop} {change : σ → σ}

theorem wp_write (keeps : Invariant (change start))
    (holds : Done () (change start)) : wp Invariant Done Refused (write change) start :=
  ⟨fun state member => by rw [List.mem_singleton.mp member]; exact keeps, holds⟩

theorem wp_unlessRefuse {condition : Bool} {reason : ε} (passes : condition = true → Done () start)
    (fails : condition = false → Refused reason start) :
    wp Invariant Done Refused (unlessRefuse condition reason) start := by
  cases condition with
  | true => exact wp_answer (passes rfl)
  | false => exact wp_refuse (fails rfl)

variable {script : Script σ ε α} {next : α → Script σ ε β}

theorem wp_bind {After : β → σ → Prop}
    (first : wp Invariant (fun value state => wp Invariant After Refused (next value) state)
      Refused script start) :
    wp Invariant After Refused (script >>= next) start := by
  obtain ⟨writes, ends⟩ := first
  change wp Invariant After Refused (andThen script next) start
  unfold wp
  cases result : (script start).2 with
  | error reason =>
    rw [result] at ends
    have same : andThen script next start = ((script start).1, .error reason) := by
      simp only [andThen, result]
    simp only [same, reached]
    exact ⟨writes, ends⟩
  | ok value =>
    rw [result] at ends
    have same : andThen script next start =
        ((script start).1 ++ (next value (script.reached start)).1,
          (next value (script.reached start)).2) := by
      simp only [andThen, result]
    simp only [same, reached, reached_append]
    refine ⟨?_, ends.2⟩
    intro state member
    rcases List.mem_append.mp member with early | late
    · exact writes state early
    · exact ends.1 state late

theorem wp_capture {δ : Type} {Ended : Except ε α → σ → Prop} {Refusing : δ → σ → Prop}
    (inner : wp Invariant (fun value => Ended (.ok value)) (fun reason => Ended (.error reason))
      script start) : wp Invariant Ended Refusing (capture script) start := by
  obtain ⟨writes, ends⟩ := inner
  refine ⟨writes, ?_⟩
  change Ended (script start).2 _
  cases result : (script start).2 with
  | ok | error =>
    rw [result] at ends
    exact ends

theorem wp_within {τ : Type} {Kept : τ → Prop} {Answering : α → τ → Prop} {Refusing : ε → τ → Prop}
    {embed : σ → τ} {part : σ}
    (inner : wp (fun state => Kept (embed state)) (fun value state => Answering value (embed state))
      (fun reason state => Refusing reason (embed state)) script part) :
    wp Kept Answering Refusing (script.within embed part) (embed part) := by
  obtain ⟨writes, ends⟩ := inner
  refine ⟨?_, ?_⟩
  · intro state member
    obtain ⟨inside, isWrite, rfl⟩ := List.mem_map.mp member
    exact writes inside isWrite
  · simp only [within, reached, List.getLastD_map]
    exact ends

theorem wp_mono {Weaker : σ → Prop} {Given : α → σ → Prop} {Refusing : ε → σ → Prop} (meets : wp Invariant Answered Refused script start)
    (writes : ∀ state, Invariant state → Weaker state)
    (answers : ∀ value state, Answered value state → Given value state)
    (refuses : ∀ reason state, Refused reason state → Refusing reason state) :
    wp Weaker Given Refusing script start := by
  obtain ⟨kept, ends⟩ := meets
  refine ⟨fun state member => writes state (kept state member), ?_⟩
  cases result : (script start).2 with
  | error reason =>
    rw [result] at ends
    exact refuses reason _ ends
  | ok value =>
    rw [result] at ends
    exact answers value _ ends

/-! ## Properties that every write keeps -/

/-- Whatever the script has read, each of its writes keeps the property. -/
def Preserves (Property : σ → Prop) (script : Script σ ε α) : Prop :=
  ∀ start, Property start →
    wp Property (fun _ => Property) (fun _ => Property) script start

section Preserves

variable {Property : σ → Prop}

theorem preserves_answer (value : α) : Preserves Property (answer value : Script σ ε α) :=
  fun _ holds => wp_answer holds

theorem preserves_pure (value : α) : Preserves Property (pure value : Script σ ε α) :=
  preserves_answer value

theorem preserves_refuse (reason : ε) : Preserves Property (refuse reason : Script σ ε α) :=
  fun _ holds => wp_refuse holds

theorem preserves_read : Preserves Property (read : Script σ ε σ) :=
  fun _ holds => ⟨by rintro _ ⟨⟩, holds⟩

theorem preserves_write (keeps : ∀ state, Property state → Property (change state)) :
    Preserves Property (write change : Script σ ε Unit) :=
  fun start holds => wp_write (keeps start holds) (keeps start holds)

theorem preserves_unlessRefuse (condition : Bool) (reason : ε) :
    Preserves Property (unlessRefuse condition reason) :=
  fun _ holds => wp_unlessRefuse (fun _ => holds) (fun _ => holds)

theorem preserves_bind
    (first : Preserves Property script) (second : ∀ value, Preserves Property (next value)) :
    Preserves Property (script >>= next) :=
  fun start holds => wp_bind (wp_mono (first start holds) (fun _ kept => kept)
    (fun value state kept => second value state kept) (fun _ _ kept => kept))

end Preserves

end Script
