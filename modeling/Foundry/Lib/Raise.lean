import Mathlib.Data.Option.Basic

/-!
# Raising computations

A service body is a computation in `Except`: a chain of reads, guards that
raise, and a final value.  The rewriting rules below take a successful run
apart into the reads and guards it passed, so that a proof never unfolds the
monad itself.
-/

set_option autoImplicit false

namespace Raise

universe u v w

variable {ε : Type u} {α : Type v} {β : Type w}

/-- Raise unless the condition holds. -/
def require (condition : Prop) [Decidable condition] (error : ε) : Except ε Unit :=
  if condition then .ok () else .error error

/-- Raise when the lookup finds nothing. -/
def orRaise (found : Option α) (error : ε) : Except ε α :=
  match found with
  | some value => .ok value
  | none => .error error

/-- The computation ended without raising. -/
def Succeeds (body : Except ε α) : Prop :=
  ∃ value, body = .ok value

section

variable (condition : Prop) [Decidable condition] (error : ε)

@[simp] theorem require_eq_ok
    (condition : Prop) [Decidable condition] (error : ε) (value : Unit) :
    require condition error = .ok value ↔ condition := by
  by_cases holds : condition <;> simp [require, holds]

theorem require_of (holds : condition) :
    require condition error = .ok () := by
  simp [require, holds]

theorem require_of_not (fails : ¬ condition) :
    require condition error = .error error := by
  simp [require, fails]

end

@[simp] theorem orRaise_eq_ok (found : Option α) (error : ε) (value : α) :
    orRaise found error = .ok value ↔ found = some value := by
  cases found <;> simp [orRaise]

@[simp] theorem orRaise_some (value : α) (error : ε) :
    orRaise (some value) error = .ok value := rfl

@[simp] theorem orRaise_none (error : ε) :
    orRaise (none : Option α) error = .error error := rfl

@[simp] theorem pure_eq_ok (given value : α) :
    (pure given : Except ε α) = .ok value ↔ given = value := by
  simp [pure, Except.pure]

theorem return_eq_ok {σ : Type} (given value : α) (state final : σ) :
    (pure (given, state) : Except ε (α × σ)) = .ok (value, final) ↔
      given = value ∧ state = final := by
  rw [pure_eq_ok, Prod.mk.injEq]

@[simp] theorem throw_eq_ok (error : ε) (value : α) :
    (throw error : Except ε α) = .ok value ↔ False := by
  simp [throw, throwThe, MonadExceptOf.throw]

variable {γ : Type v}

/-- A successful sequence is a successful first part and a successful rest. -/
@[simp] theorem bind_eq_ok (first : Except ε α) (rest : α → Except ε γ) (value : γ) :
    (first >>= rest) = .ok value ↔ ∃ middle, first = .ok middle ∧ rest middle = .ok value := by
  cases first <;> simp [bind, Except.bind]

@[simp] theorem ok_bind (value : α) (rest : α → Except ε γ) :
    ((.ok value : Except ε α) >>= rest) = rest value := rfl

@[simp] theorem error_bind (error : ε) (rest : α → Except ε γ) :
    ((.error error : Except ε α) >>= rest) = .error error := rfl

@[simp] theorem map_eq_ok (apply : α → γ) (body : Except ε α) (value : γ) :
    (apply <$> body) = .ok value ↔ ∃ given, body = .ok given ∧ apply given = value := by
  cases body <;> simp [Functor.map, Except.map]

@[simp] theorem toOption_eq_some (body : Except ε α) (value : α) :
    body.toOption = some value ↔ body = .ok value := by
  cases body <;> simp [Except.toOption]

/-! ## Errors -/

/-- Whatever the computation raises is of this kind. -/
def RaisesOnly (Kind : ε → Prop) (body : Except ε α) : Prop :=
  ∀ error, body = .error error → Kind error

variable {Kind : ε → Prop}

@[simp] theorem raisesOnly_ok (value : α) : RaisesOnly Kind (.ok value : Except ε α) := by
  intro error raised
  cases raised

@[simp] theorem raisesOnly_error (error : ε) :
    RaisesOnly Kind (.error error : Except ε α) ↔ Kind error := by
  constructor
  · intro only
    exact only error rfl
  · rintro holds _ ⟨⟩
    exact holds

@[simp] theorem raisesOnly_pure (value : α) : RaisesOnly Kind (pure value : Except ε α) :=
  raisesOnly_ok value

@[simp] theorem raisesOnly_require (condition : Prop) [Decidable condition] (error : ε) :
    RaisesOnly Kind (require condition error) ↔ (¬ condition → Kind error) := by
  by_cases holds : condition <;> simp [require, holds]

@[simp] theorem raisesOnly_orRaise (found : Option α) (error : ε) :
    RaisesOnly Kind (orRaise found error) ↔ (found = none → Kind error) := by
  cases found <;> simp [orRaise]

@[simp] theorem raisesOnly_bind (first : Except ε α) (rest : α → Except ε γ) :
    RaisesOnly Kind (first >>= rest) ↔
      RaisesOnly Kind first ∧ ∀ value, first = .ok value → RaisesOnly Kind (rest value) := by
  cases first <;> simp

@[simp] theorem raisesOnly_map (apply : α → γ) (body : Except ε α) :
    RaisesOnly Kind (apply <$> body) ↔ RaisesOnly Kind body := by
  cases body with
  | ok => exact iff_of_true (raisesOnly_ok _) (raisesOnly_ok _)
  | error raised => exact Iff.trans (raisesOnly_error raised) (raisesOnly_error raised).symm

/-- What a successful traversal collects comes from its items. -/
theorem mem_of_mapM (body : β → Except ε γ) (items : List β) (values : List γ)
    (run : items.mapM body = .ok values) (value : γ) (member : value ∈ values) :
    ∃ item ∈ items, body item = .ok value := by
  induction items generalizing values with
  | nil =>
    simp only [List.mapM_nil, pure_eq_ok] at run
    rw [← run] at member
    cases member
  | cons item _ ih =>
    simp only [List.mapM_cons, bind_eq_ok, pure_eq_ok] at run
    obtain ⟨_, first, others, later, rfl⟩ := run
    rcases List.mem_cons.mp member with rfl | member
    · exact ⟨item, List.mem_cons_self .., first⟩
    · obtain ⟨source, listed, found⟩ := ih others later member
      exact ⟨source, List.mem_cons_of_mem _ listed, found⟩

/-- A traversal that pairs each item with its value. -/
theorem mapM_paired (body : α → Except ε γ) (items : List α) (pairs : List (α × γ))
    (run : (items.mapM fun item => do
      let value ← body item
      return (item, value)) = .ok pairs) :
    pairs.map Prod.fst = items ∧ ∀ pair ∈ pairs, body pair.1 = .ok pair.2 := by
  induction items generalizing pairs with
  | nil =>
    simp only [List.mapM_nil, pure_eq_ok] at run
    subst run
    exact ⟨rfl, by simp⟩
  | cons _ _ ih =>
    simp only [List.mapM_cons, bind_eq_ok, pure_eq_ok] at run
    obtain ⟨_, ⟨_, first, rfl⟩, others, later, rfl⟩ := run
    obtain ⟨labels, values⟩ := ih others later
    refine ⟨by rw [List.map_cons, labels], ?_⟩
    intro pair member
    rcases List.mem_cons.mp member with rfl | member
    · exact first
    · exact values pair member

/-- What every pass of a loop relates, the whole loop relates: the rule for a
`for` loop whose body may raise. -/
theorem foldlM_relates (Related : γ → γ → Prop) (reflexive : ∀ state, Related state state)
    (transitive : ∀ {first second third},
      Related first second → Related second third → Related first third)
    (body : γ → β → Except ε γ) (items : List β) (start final : γ)
    (pass : ∀ item ∈ items, ∀ state next, body state item = .ok next → Related state next)
    (run : items.foldlM body start = .ok final) :
    Related start final := by
  induction items generalizing start with
  | nil =>
    simp only [List.foldlM_nil, pure_eq_ok] at run
    exact run ▸ reflexive start
  | cons item _ ih =>
    simp only [List.foldlM_cons, bind_eq_ok] at run
    obtain ⟨next, first, run⟩ := run
    have head : Related start next := pass item (by simp) start next first
    have tail : Related next final :=
      ih next (fun other member => pass other (by simp [member])) run
    exact transitive head tail

/-- The same for a loop over distinct items, each of which waits in a state that
only its own pass ends. -/
theorem foldlM_relates_waiting (Related : γ → γ → Prop) (Waiting : β → γ → Prop)
    (reflexive : ∀ state, Related state state) (transitive : ∀ {first second third},
      Related first second → Related second third → Related first third)
    (body : γ → β → Except ε γ) (items : List β) (distinct : items.Nodup) (start final : γ)
    (waiting : ∀ item ∈ items, Waiting item start)
    (pass : ∀ item ∈ items, ∀ state next, Waiting item state → body state item = .ok next →
      Related state next ∧ ∀ other, other ≠ item → Waiting other state → Waiting other next)
    (run : items.foldlM body start = .ok final) :
    Related start final := by
  induction items generalizing start with
  | nil =>
    simp only [List.foldlM_nil, pure_eq_ok] at run
    exact run ▸ reflexive start
  | cons item _ ih =>
    rw [List.nodup_cons] at distinct
    simp only [List.foldlM_cons, bind_eq_ok] at run
    obtain ⟨next, first, run⟩ := run
    obtain ⟨head, keeps⟩ := pass item (by simp) start next (waiting item (by simp)) first
    have tail : Related next final := by
      refine ih distinct.2 next ?_ (fun other member => pass other (by simp [member])) run
      intro other member
      have different : other ≠ item := fun same => distinct.1 (same ▸ member)
      exact keeps other different (waiting other (by simp [member]))
    exact transitive head tail

/-- The pass of one item, in the middle of a loop. -/
theorem foldlM_at (body : γ → β → Except ε γ) (items : List β) (item : β) (listed : item ∈ items)
    (start final : γ) (run : items.foldlM body start = .ok final) :
    ∃ before after state next, items = before ++ item :: after ∧
      before.foldlM body start = .ok state ∧ body state item = .ok next ∧
      after.foldlM body next = .ok final := by
  obtain ⟨before, after, rfl⟩ := List.append_of_mem listed
  simp only [List.foldlM_append, List.foldlM_cons, bind_eq_ok] at run
  obtain ⟨state, first, next, pass, rest⟩ := run
  exact ⟨before, after, state, next, rfl, first, pass, rest⟩

end Raise
