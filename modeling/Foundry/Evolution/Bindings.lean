import Foundry.Evolution.Integrity

/-!
# Conversation bindings

A profile is bound to one conversation, and stays bound to it until it is deleted.
-/

set_option autoImplicit false

namespace Foundry

open Raise

variable {D : Type}

def Db.ProfileDeleted (db : Db D) (id : Uuid) : Prop :=
  db.deletedProfiles.lookup id ≠ none

/-- The bindings of the profiles; one is gone with its profile. -/
def bindingRecords : Records (Db D) Uuid ConversationBinding where
  find := fun db id => db.bindings.lookup id
  Gone := Db.ProfileDeleted

def ConversationBinding.SameConversation (binding later : ConversationBinding) : Prop :=
  later.cloudConversationRef = binding.cloudConversationRef

theorem Db.Intact.unbound_of_deleted {db : Db D} (intact : db.Intact) {id : Uuid}
    (deleted : db.ProfileDeleted id) : db.bindings.lookup id = none := by
  obtain ⟨workspace, tombstone⟩ := Option.ne_none_iff_exists'.mp deleted
  have absent := intact.deleted id workspace tombstone
  cases stored : db.bindings.lookup id with
  | none => rfl
  | some binding =>
    obtain ⟨_, present⟩ := intact.bound id binding stored
    rw [absent] at present
    cases present

section Writes

variable [DecidableEq D] {env : Env D} {call : Call D} {start db next : Db D}

section

variable (write : Write env call start db next)

include write

theorem Write.staysDeleted (id : Uuid)
    (deleted : db.ProfileDeleted id) : next.ProfileDeleted id := by
  cases write with
  | decideApproval _ _ _ _ decides =>
    obtain ⟨_, rfl⟩ := recordApprovalDecision_frame decides
    exact deleted
  | compareAndSet _ _ _ _ _ _ _ sets =>
    obtain ⟨_, rfl⟩ := compareAndSetSession_frame sets
    exact deleted
  | purge _ _ _ _ _ _ _ _ _ _ purges =>
    obtain ⟨_, _, _, _, _, _, tombstones, _⟩ := purgeProfile_eq purges
    rw [Db.ProfileDeleted, tombstones, Table.lookup_insert_eq]
    split
    · exact nofun
    · exact deleted
  | _ => exact deleted

theorem Write.bindingKept (id : Uuid)
    (binding : ConversationBinding) (stored : db.bindings.lookup id = some binding) :
    (∃ later, next.bindings.lookup id = some later ∧ binding.SameConversation later) ∨
      next.ProfileDeleted id := by
  cases write with
  | reserveBinding profileId _ _ _ unknown =>
    have different : id ≠ profileId := by
      rintro rfl
      rw [stored] at unknown
      cases unknown
    exact .inl ⟨binding, by simp only [AList.lookup_insert_ne different]; exact stored, rfl⟩
  | bindSession _ _ _ _ execution _ _ _ _ _ _ binds =>
    refine .inl ?_
    simp only [Foundry.bindSession] at binds
    split at binds
    · next unknown =>
      simp only [bind_eq_ok, require_eq_ok, pure_eq_ok] at binds
      obtain ⟨_, _, _, _, rfl⟩ := binds
      have different : id ≠ execution.profile := by
        rintro rfl
        rw [stored] at unknown
        cases unknown
      exact ⟨binding, by simp only [AList.lookup_insert_ne different]; exact stored, rfl⟩
    · next bound =>
      simp only [bind_eq_ok] at binds
      obtain ⟨_, _, binds⟩ := binds
      split at binds
      · cases binds
        exact ⟨binding, stored, rfl⟩
      · simp only [bind_eq_ok, require_eq_ok, pure_eq_ok] at binds
        obtain ⟨_, _, rfl⟩ := binds
        by_cases same : id = execution.profile
        · subst same
          cases bound.symm.trans stored
          exact ⟨_, AList.lookup_insert _, rfl⟩
        · exact ⟨binding, by simp only [AList.lookup_insert_ne same]; exact stored, rfl⟩
  | compareAndSet profileId expected new conversationRef set next _ sets =>
    refine .inl ?_
    obtain ⟨_, _, ⟨_, unknown, _, rfl⟩ | ⟨_, _, _, rfl⟩ | ⟨_, bound, _, rfl⟩⟩ :=
      compareAndSetSession_cases profileId expected new conversationRef set db next sets
    · have different : id ≠ profileId := by
        rintro rfl
        rw [stored] at unknown
        cases unknown
      exact ⟨binding, by simp only [AList.lookup_insert_ne different]; exact stored, rfl⟩
    · exact ⟨binding, stored, rfl⟩
    · by_cases same : id = profileId
      · subst same
        cases bound.symm.trans stored
        exact ⟨_, AList.lookup_insert _, rfl⟩
      · exact ⟨binding, by simp only [AList.lookup_insert_ne same]; exact stored, rfl⟩
  | decideApproval _ _ _ _ decides =>
    obtain ⟨_, rfl⟩ := recordApprovalDecision_frame decides
    exact .inl ⟨binding, stored, rfl⟩
  | purge _ profileId _ _ _ _ _ _ _ _ purges =>
    obtain ⟨_, _, _, _, _, bindings, tombstones, _⟩ := purgeProfile_eq purges
    by_cases same : id = profileId
    · refine .inr ?_
      rw [Db.ProfileDeleted, tombstones, same, AList.lookup_insert]
      rintro ⟨⟩
    · exact .inl ⟨binding, by rw [bindings, AList.lookup_erase_ne same]; exact stored, rfl⟩
  | _ => exact .inl ⟨binding, stored, rfl⟩

theorem Write.bindingsContinue :
    bindingRecords.Continues ConversationBinding.SameConversation db next where
  kept := write.bindingKept
  gone := write.staysDeleted

end

end Writes

end Foundry
