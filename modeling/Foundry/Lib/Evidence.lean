import Foundry.Lib.Log
import Foundry.Lib.Program

/-!
# Evidence before action

A journal enters each action of a program as it is done, with its reply and the states before and
after it.  What others do to the state between two actions is not entered.  A program that asks
for checks earns its actions when, whatever the replies are, each action comes after entries that
pass its checks, one after the other.
-/

set_option autoImplicit false

/-- An action that was done. -/
structure JournalEntry (Action : Type) (Reply : Action → Type) (σ : Type) where
  before : σ
  action : Action
  reply : Reply action
  after : σ

structure Journal (Action : Type) (Reply : Action → Type) (σ : Type) where
  state : σ
  entries : List (JournalEntry Action Reply σ)

namespace Journal

variable {Action : Type} {Reply : Action → Type} {σ Fault Check ε α β : Type}

section Passed

variable {Entry : Type} (Passes : Check → Entry → Prop)

/-- The log has entries that pass the checks, in their order. -/
def Passed (checks : List Check) (log : List Entry) : Prop :=
  ∃ entries, entries.Sublist log ∧ List.Forall₂ Passes checks entries

variable {Passes} {checks : List Check} {log : List Entry}

theorem passed_nil (log : List Entry) : Passed Passes [] log :=
  ⟨[], List.nil_sublist log, .nil⟩

variable {kept : List Check}

theorem exists_sublist {entries : List Entry} (among : kept.Sublist checks)
    (pass : List.Forall₂ Passes checks entries) :
    ∃ chosen, chosen.Sublist entries ∧ List.Forall₂ Passes kept chosen := by
  induction among generalizing entries with
  | slnil => exact ⟨[], List.nil_sublist entries, .nil⟩
  | cons _ _ ih =>
    cases pass with
    | @cons _ entry _ others first rest =>
      obtain ⟨chosen, listed, holds⟩ := ih rest
      exact ⟨chosen, listed.cons entry, holds⟩
  | cons_cons _ _ ih =>
    cases pass with
    | @cons _ entry _ others first rest =>
      obtain ⟨chosen, listed, holds⟩ := ih rest
      exact ⟨entry :: chosen, listed.cons_cons entry, .cons first holds⟩

section

variable (passed : Passed Passes checks log)

include passed

/-- Some of the checks, in the order they have. -/
theorem Passed.sublist (among : kept.Sublist checks) : Passed Passes kept log := by
  obtain ⟨_, inLog, pass⟩ := passed
  obtain ⟨chosen, listed, holds⟩ := exists_sublist among pass
  exact ⟨chosen, listed.trans inLog, holds⟩

theorem Passed.append (added : List Entry) :
    Passed Passes checks (log ++ added) := by
  obtain ⟨entries, listed, pass⟩ := passed
  exact ⟨entries, listed.trans (List.sublist_append_left log added), pass⟩

theorem Passed.snoc {check : Check} {entry : Entry}
    (passes : Passes check entry) : Passed Passes (checks ++ [check]) (log ++ [entry]) := by
  obtain ⟨entries, listed, pass⟩ := passed
  refine ⟨entries ++ [entry], listed.append (List.Sublist.refl [entry]), ?_⟩
  exact List.rel_append pass (.cons passes .nil)

end

end Passed

section Record

variable (drift : Fault → σ → σ)
  (perform : Fault → (action : Action) → σ → Reply action × σ)

/-- The others have their turn, then the action is done and entered. -/
def record (fault : Fault) (action : Action) (journal : Journal Action Reply σ) :
    Reply action × Journal Action Reply σ :=
  let before := drift fault journal.state
  let result := perform fault action before
  (result.1, ⟨result.2, journal.entries ++ [⟨before, action, result.1, result.2⟩]⟩)

/-- An entry that some fault accounts for. -/
def IsDone (entry : JournalEntry Action Reply σ) : Prop :=
  ∃ fault, perform fault entry.action entry.before = (entry.reply, entry.after)

/-- One program after another, each as far as its faults last. -/
def attempts (journal : Journal Action Reply σ)
    (started : List (Program Action Reply ε α × List Fault)) : Journal Action Reply σ :=
  started.foldl (fun journal attempt =>
    (Program.after (record drift perform) attempt.2 attempt.1 journal).2) journal

end Record

section Earns

variable (Needs : Action → List Check → Prop)
  (Passes : Check → JournalEntry Action Reply σ → Prop)
  (perform : Fault → (action : Action) → σ → Reply action × σ)

/-- The action has the checks it needs.  Its reply may pass one more, and any action may give up
some that were passed. -/
def Earns (checks : List Check) (action : Action) (reply : Reply action) (next : List Check) :
    Prop :=
  Needs action checks ∧ ∃ kept, kept.Sublist checks ∧ (next = kept ∨
    ∃ check, next = kept ++ [check] ∧
      ∀ before after, IsDone perform ⟨before, action, reply, after⟩ →
        Passes check ⟨before, action, reply, after⟩)

/-- The entry was made by its action, and came after entries that pass the checks it needs. -/
def EarnedAfter (earlier : List (JournalEntry Action Reply σ)) (entry : JournalEntry Action Reply σ) :
    Prop :=
  IsDone perform entry ∧ ∃ checks, Needs entry.action checks ∧ Passed Passes checks earlier

variable {Needs} {Passes} {perform} {drift : Fault → σ → σ}

section

variable {Answers : α → List Check → Prop} {Refuses : ε → List Check → Prop}

variable {journal : Journal Action Reply σ}

theorem earned_after
    (faults : List Fault) {program : Program Action Reply ε α} {checks : List Check}
    (follows : program.Follows (Earns Needs Passes perform) Answers Refuses checks)
    (passed : Passed Passes checks journal.entries)
    (earned : Log.Justified (EarnedAfter Needs Passes perform) journal.entries) :
    Log.Justified (EarnedAfter Needs Passes perform)
      (Program.after (record drift perform) faults program journal).2.entries := by
  induction faults generalizing program checks journal with
  | nil => exact earned
  | cons fault _ ih =>
    cases program with
    | answer | refuse => exact earned
    | act action =>
      obtain ⟨_, ⟨needs, _, listed, leads⟩, goesOn⟩ :=
        follows (perform fault action (drift fault journal.state)).1
      refine ih goesOn ?_ (earned.snoc ⟨⟨fault, rfl⟩, checks, needs, passed⟩)
      rcases leads with rfl | ⟨_, rfl, passes⟩
      · exact (passed.sublist listed).append _
      · exact (passed.sublist listed).snoc (passes _ _ ⟨fault, rfl⟩)

/-- However often programs that earn their actions are started, every entry is earned. -/
theorem earned_attempts (started : List (Program Action Reply ε α × List Fault))
    (follow : ∀ attempt ∈ started,
      attempt.1.Follows (Earns Needs Passes perform) Answers Refuses [])
    (earned : Log.Justified (EarnedAfter Needs Passes perform) journal.entries) :
    Log.Justified (EarnedAfter Needs Passes perform)
      (attempts drift perform journal started).entries := by
  induction started generalizing journal with
  | nil => exact earned
  | cons attempt _ ih =>
    have first := follow attempt List.mem_cons_self
    exact ih (fun other member => follow other (List.mem_cons_of_mem _ member))
      (earned_after attempt.2 first (passed_nil _) earned)

end

end Earns

end Journal
