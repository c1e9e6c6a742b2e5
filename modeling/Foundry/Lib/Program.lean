import Foundry.Lib.Run
import Foundry.Lib.Table

/-!
# Programs that run side by side

A program performs one atomic action after another, and goes on with the reply of each, until it
answers or refuses.  A pool holds the programs that have been started over one state: a step
performs the next action of one of them, and a crash takes one away at any point.

A program follows a protocol when each of its actions is one that the mode it is in allows.
-/

set_option autoImplicit false

inductive Program (Action : Type) (Reply : Action → Type) (ε α : Type) where
  | answer (value : α)
  | refuse (reason : ε)
  | act (action : Action) (next : Reply action → Program Action Reply ε α)

namespace Program

variable {Action : Type} {Reply : Action → Type} {ε α β : Type}

def andThen (program : Program Action Reply ε α) (next : α → Program Action Reply ε β) :
    Program Action Reply ε β :=
  match program with
  | .answer value => next value
  | .refuse reason => .refuse reason
  | .act action rest => .act action fun reply => (rest reply).andThen next

instance : Monad (Program Action Reply ε) where
  pure := answer
  bind := andThen

/-- `except`: the handler goes on from the refusal. -/
def rescue (program : Program Action Reply ε α) (handler : ε → Program Action Reply ε α) :
    Program Action Reply ε α :=
  match program with
  | .answer value => .answer value
  | .refuse reason => handler reason
  | .act action rest => .act action fun reply => (rest reply).rescue handler

/-- The action that comes next. -/
def head? : Program Action Reply ε α → Option Action
  | .act action _ => some action
  | _ => none

/-- The value that was answered. -/
def value? : Program Action Reply ε α → Option α
  | .answer value => some value
  | _ => none

/-! ## Protocols -/

variable {program : Program Action Reply ε α} {next : α → Program Action Reply ε β}
  {handler : ε → Program Action Reply ε α}

section Follows

variable {Mode : Type} {moves : Mode → (action : Action) → Reply action → Mode → Prop}
  {Answers : α → Mode → Prop} {Refuses : ε → Mode → Prop}

/-- From the mode, every action is allowed whatever the replies were, and leads to a mode from
which the rest follows. -/
def Follows (moves : Mode → (action : Action) → Reply action → Mode → Prop)
    (Answers : α → Mode → Prop) (Refuses : ε → Mode → Prop) :
    Program Action Reply ε α → Mode → Prop
  | .answer value, mode => Answers value mode
  | .refuse reason, mode => Refuses reason mode
  | .act action rest, mode =>
    ∀ reply, ∃ after, moves mode action reply after ∧
      (rest reply).Follows moves Answers Refuses after

theorem follows_bind {After : β → Mode → Prop} {mode : Mode} (first : program.Follows moves
      (fun value after => (next value).Follows moves After Refuses after) Refuses mode) : (program >>= next).Follows moves After Refuses mode := by
  change (program.andThen next).Follows moves After Refuses mode
  induction program generalizing mode with
  | answer | refuse => exact first
  | act _ _ ih =>
    intro reply
    obtain ⟨after, allowed, follows⟩ := first reply
    exact ⟨after, allowed, ih reply follows⟩

theorem follows_rescue {mode : Mode} (first : program.Follows moves Answers
      (fun reason after => (handler reason).Follows moves Answers Refuses after) mode) :
    (program.rescue handler).Follows moves Answers Refuses mode := by
  induction program generalizing mode with
  | answer | refuse => exact first
  | act _ _ ih =>
    intro reply
    obtain ⟨after, allowed, follows⟩ := first reply
    exact ⟨after, allowed, ih reply follows⟩

theorem follows_mono {Given : α → Mode → Prop} {Given' : ε → Mode → Prop} {mode : Mode}
    (follows : program.Follows moves Answers Refuses mode)
    (answers : ∀ value after, Answers value after → Given value after)
    (refuses : ∀ reason after, Refuses reason after → Given' reason after) :
    program.Follows moves Given Given' mode := by
  induction program generalizing mode with
  | answer value => exact answers value mode follows
  | refuse reason => exact refuses reason mode follows
  | act _ _ ih =>
    intro reply
    obtain ⟨after, allowed, goesOn⟩ := follows reply
    exact ⟨after, allowed, ih reply goesOn⟩

end Follows

/-! ## One program alone -/

section Alone

variable {σ Fault : Type}

/-- The program and the state after as many actions as there are faults.  The list can end
anywhere, which is where the program crashes. -/
def after (perform : Fault → (action : Action) → σ → Reply action × σ) :
    List Fault → Program Action Reply ε α → σ → Program Action Reply ε α × σ
  | fault :: faults, .act action next, state =>
    after perform faults (next (perform fault action state).1) (perform fault action state).2
  | _, program, state => (program, state)

/-- Every action that is done relates the states before and after it. -/
def Always (perform : Fault → (action : Action) → σ → Reply action × σ) (Step : σ → σ → Prop) :
    List Fault → Program Action Reply ε α → σ → Prop
  | fault :: faults, .act action next, state =>
    Step state (perform fault action state).2 ∧
      Always perform Step faults (next (perform fault action state).1)
        (perform fault action state).2
  | _, _, _ => True

/-- The outcome of a program that nothing interrupts. -/
def finish (perform : (action : Action) → σ → Reply action × σ) :
    Program Action Reply ε α → σ → Except ε α × σ
  | .answer value, state => (.ok value, state)
  | .refuse reason, state => (.error reason, state)
  | .act action next, state =>
    (next (perform action state).1).finish perform (perform action state).2

variable {value : α}

theorem finish_bind {perform : (action : Action) → σ → Reply action × σ} {state middle : σ} (first : program.finish perform state = (.ok value, middle)) :
    (program >>= next).finish perform state = (next value).finish perform middle := by
  change (program.andThen next).finish perform state = _
  induction program generalizing state with
  | answer =>
    cases first
    rfl
  | refuse => cases first
  | act _ _ ih => exact ih _ first

/-- With some faults, the program answers with the value and leaves the final state. -/
def Returns (perform : Fault → (action : Action) → σ → Reply action × σ)
    (program : Program Action Reply ε α) (state : σ) (value : α) (final : σ) : Prop :=
  ∃ faults, after perform faults program state = (.answer value, final)

section Returns

variable {perform : Fault → (action : Action) → σ → Reply action × σ} {state final : σ}

theorem returns_answer {given : α}
    (returns : (answer given : Program Action Reply ε α).Returns perform state value final) :
    value = given ∧ final = state := by
  obtain ⟨faults, ends⟩ := returns
  cases faults <;> cases ends <;> exact ⟨rfl, rfl⟩

theorem not_returns_refuse {reason : ε} :
    ¬(refuse reason : Program Action Reply ε α).Returns perform state value final := by
  rintro ⟨faults, ends⟩
  cases faults <;> cases ends

theorem returns_act {action : Action} {rest : Reply action → Program Action Reply ε α}
    (returns : (act action rest).Returns perform state value final) :
    ∃ fault, (rest (perform fault action state).1).Returns perform (perform fault action state).2
      value final := by
  obtain ⟨faults, ends⟩ := returns
  cases faults with
  | nil => cases ends
  | cons fault faults => exact ⟨fault, faults, ends⟩

section

variable {program : Program Action Reply ε α}

theorem returns_bind {value : β} (returns : (program >>= next).Returns perform state value final) :
    ∃ given middle, program.Returns perform state given middle ∧
      (next given).Returns perform middle value final := by
  change (program.andThen next).Returns perform state value final at returns
  induction program generalizing state with
  | answer given => exact ⟨given, state, ⟨[], rfl⟩, returns⟩
  | refuse => exact absurd returns not_returns_refuse
  | act _ _ ih =>
    obtain ⟨fault, goesOn⟩ := returns_act returns
    obtain ⟨given, middle, ⟨faults, first⟩, later⟩ := ih _ goesOn
    exact ⟨given, middle, ⟨fault :: faults, first⟩, later⟩

theorem returns_of_value {faults : List Fault}
    (given : (after perform faults program state).1.value? = some value) :
    program.Returns perform state value (after perform faults program state).2 := by
  refine ⟨faults, Prod.ext ?_ rfl⟩
  cases ended : (after perform faults program state).1 with
  | answer =>
    rw [ended] at given
    cases given
    rfl
  | refuse =>
    rw [ended] at given
    cases given
  | act =>
    rw [ended] at given
    cases given

/-- Where the handler does not answer, the program itself does. -/
theorem returns_rescue
    (refuses : ∀ reason state, ¬(handler reason).Returns perform state value final)
    (returns : (program.rescue handler).Returns perform state value final) :
    program.Returns perform state value final := by
  induction program generalizing state with
  | answer => exact returns
  | refuse reason => exact absurd returns (refuses reason state)
  | act _ _ ih =>
    obtain ⟨fault, goesOn⟩ := returns_act returns
    obtain ⟨faults, ends⟩ := ih _ goesOn
    exact ⟨fault :: faults, ends⟩

end

end Returns

/-- A program that follows a protocol does only what the modes with their facts allow. -/
theorem always_of_follows {perform : Fault → (action : Action) → σ → Reply action × σ}
    {Step : σ → σ → Prop} {Mode : Type}
    {moves : Mode → (action : Action) → Reply action → Mode → Prop}
    {Answers : α → Mode → Prop} {Refuses : ε → Mode → Prop} {Fact : Mode → σ → Prop}
    (step : ∀ fault mode action state next, Fact mode state →
      moves mode action (perform fault action state).1 next →
      Step state (perform fault action state).2 ∧ Fact next (perform fault action state).2)
    (faults : List Fault) {mode : Mode} {state : σ}
    (follows : program.Follows moves Answers Refuses mode) (fact : Fact mode state) :
    Always perform Step faults program state := by
  induction faults generalizing program mode state with
  | nil => trivial
  | cons fault _ ih =>
    cases program with
    | answer => trivial
    | refuse => trivial
    | act action =>
      obtain ⟨next, allowed, goesOn⟩ := follows (perform fault action state).1
      obtain ⟨related, established⟩ := step fault mode action state next fact allowed
      exact ⟨related, ih goesOn established⟩

end Alone

end Program

/-! ## Pools -/

/-- The programs that were started, each under the number of its start. -/
structure ProgramPool (σ Action : Type) (Reply : Action → Type) (ε α : Type) where
  state : σ
  programs : Table Nat (Program Action Reply ε α)
  started : Nat

inductive ProgramEvent (Action : Type) (Reply : Action → Type) (ε α Fault : Type) where
  | start (program : Nat → Program Action Reply ε α)
  | step (name : Nat) (fault : Fault)
  | crash (name : Nat)

namespace ProgramPool

open Program

variable {σ Action : Type} {Reply : Action → Type} {ε α Fault : Type}

/-- No program is running. -/
def quiet (state : σ) : ProgramPool σ Action Reply ε α := ⟨state, ∅, 0⟩

/-- One event.  A step of a program that has ended is none. -/
def apply (perform : Fault → (action : Action) → σ → Reply action × σ)
    (event : ProgramEvent Action Reply ε α Fault) (pool : ProgramPool σ Action Reply ε α) :
    Except Unit (Unit × ProgramPool σ Action Reply ε α) :=
  match event with
  | .start program =>
    .ok ((), { pool with
      programs := pool.programs.insert pool.started (program pool.started)
      started := pool.started + 1 })
  | .step name fault =>
    match pool.programs.lookup name with
    | some (.act action next) =>
      .ok ((), { pool with
        state := (perform fault action pool.state).2
        programs := pool.programs.insert name (next (perform fault action pool.state).1) })
    | _ => .error ()
  | .crash name => .ok ((), { pool with programs := pool.programs.erase name })

variable {perform : Fault → (action : Action) → σ → Reply action × σ}
  {pool next : ProgramPool σ Action Reply ε α} {name : Nat} {fault : Fault}

/-- What a step can do. -/
theorem apply_step {reply : Unit}
    (success : apply perform (.step name fault) pool = .ok (reply, next)) :
    ∃ action rest, pool.programs.lookup name = some (.act action rest) ∧
      next.state = (perform fault action pool.state).2 ∧
      next.programs = pool.programs.insert name (rest (perform fault action pool.state).1) ∧
      next.started = pool.started := by
  simp only [apply] at success
  split at success
  · next action rest found =>
    cases success
    exact ⟨action, rest, found, rfl, rfl, rfl⟩
  · cases success

section Protocol

variable {Mode : Type} (moves : Nat → Mode → (action : Action) → Reply action → Mode → Prop)
  (Answers : α → Mode → Prop) (Refuses : ε → Mode → Prop) (Safe : σ → Prop)
  (Fact : Nat → Mode → σ → Prop)

/-- A program of the pool, in a mode whose fact holds. -/
def InMode (pool : ProgramPool σ Action Reply ε α) (name : Nat) (mode : Mode) : Prop :=
  ∃ program, pool.programs.lookup name = some program ∧
    program.Follows (moves name) Answers Refuses mode ∧
    Fact name mode pool.state

/-- The state is safe, and each program is in some mode. -/
structure Holds (pool : ProgramPool σ Action Reply ε α) : Prop where
  safe : Safe pool.state
  named : ∀ name program, pool.programs.lookup name = some program → name < pool.started
  inMode : ∀ name program, pool.programs.lookup name = some program →
    ∃ mode, program.Follows (moves name) Answers Refuses mode ∧
      Fact name mode pool.state

variable {moves} {Answers} {Refuses} {Safe} {Fact}

theorem holds_quiet {state : σ} (safe : Safe state) :
    (quiet state : ProgramPool σ Action Reply ε α).Holds moves Answers Refuses Safe Fact :=
  ⟨safe, by rintro _ _ ⟨⟩, by rintro _ _ ⟨⟩⟩

section

variable (holds : pool.Holds moves Answers Refuses Safe Fact)

include holds

/-- A program starts in a mode whose fact holds. -/
theorem holds_start {program : Nat → Program Action Reply ε α} {mode : Mode}
    (follows : (program pool.started).Follows (moves pool.started) Answers
      Refuses mode)
    (fact : Fact pool.started mode pool.state) :
    (ProgramPool.mk pool.state (pool.programs.insert pool.started (program pool.started))
      (pool.started + 1)).Holds moves Answers Refuses Safe Fact where
  safe := holds.safe
  named := by
    intro name other found
    obtain ⟨same, _⟩ | ⟨_, found⟩ := Table.cases_insert found
    · rw [same]
      exact Nat.lt_succ_self _
    · have before := holds.named name other found
      exact Nat.lt_succ_of_lt before
  inMode := by
    intro name other found
    obtain ⟨same, rfl⟩ | ⟨_, found⟩ := Table.cases_insert found
    · rw [same]
      exact ⟨mode, follows, fact⟩
    · exact holds.inMode name other found

theorem holds_crash (name : Nat) :
    (ProgramPool.mk pool.state (pool.programs.erase name) pool.started).Holds moves Answers Refuses Safe Fact := by
  have kept : ∀ other program, (pool.programs.erase name).lookup other = some program →
      pool.programs.lookup other = some program := by
    intro other program found
    by_cases same : other = name
    · rw [same, AList.lookup_erase] at found
      cases found
    · rw [AList.lookup_erase_ne same] at found
      exact found
  exact ⟨holds.safe, fun other program found => holds.named other program (kept other program found),
    fun other program found => holds.inMode other program (kept other program found)⟩

section

variable {reply : Unit} (success : apply perform (.step name fault) pool = .ok (reply, next))

include reply success

/-- A step of a program follows its protocol. -/
theorem Holds.step :
    ∃ action rest mode after, pool.programs.lookup name = some (.act action rest) ∧
      Fact name mode pool.state ∧
      moves name mode action (perform fault action pool.state).1 after ∧
      (rest (perform fault action pool.state).1).Follows (moves name) Answers Refuses after ∧
      next = ⟨(perform fault action pool.state).2,
        pool.programs.insert name (rest (perform fault action pool.state).1), pool.started⟩ := by
  obtain ⟨action, rest, found, state, programs, started⟩ := apply_step success
  obtain ⟨mode, follows, fact⟩ := holds.inMode name _ found
  obtain ⟨after, allowed, goesOn⟩ := follows (perform fault action pool.state).1
  refine ⟨action, rest, mode, after, found, fact, allowed, goesOn, ?_⟩
  rw [← state, ← programs, ← started]

/-- A step keeps the invariant when it keeps the state safe, establishes the fact of the mode it
leads to, and leaves the facts of the others alone. -/
theorem holds_step
    (own : ∀ action rest mode after, pool.programs.lookup name = some (.act action rest) →
      Fact name mode pool.state →
      moves name mode action (perform fault action pool.state).1 after →
      Safe (perform fault action pool.state).2 ∧
        Fact name after (perform fault action pool.state).2)
    (others : ∀ action rest mode after, pool.programs.lookup name = some (.act action rest) →
      Fact name mode pool.state →
      moves name mode action (perform fault action pool.state).1 after →
      ∀ other otherMode, other ≠ name →
        pool.InMode moves Answers Refuses Fact other otherMode →
        Fact other otherMode (perform fault action pool.state).2) :
    next.Holds moves Answers Refuses Safe Fact := by
  obtain ⟨action, rest, mode, after, found, fact, allowed, goesOn, rfl⟩ := holds.step success
  obtain ⟨safe, established⟩ := own action rest mode after found fact allowed
  refine ⟨safe, ?_, ?_⟩
  · intro other program isProgram
    rw [Table.lookup_insert_eq] at isProgram
    split at isProgram
    · next same => exact same ▸ holds.named name _ found
    · exact holds.named other program isProgram
  · intro other program isProgram
    obtain ⟨same, rfl⟩ | ⟨different, isProgram⟩ := Table.cases_insert isProgram
    · rw [same]
      exact ⟨after, goesOn, established⟩
    · obtain ⟨otherMode, otherFollows, otherFact⟩ := holds.inMode other program isProgram
      exact ⟨otherMode, otherFollows, others action rest mode after found fact allowed other
        otherMode different ⟨program, isProgram, otherFollows, otherFact⟩⟩

end

end

end Protocol

end ProgramPool
