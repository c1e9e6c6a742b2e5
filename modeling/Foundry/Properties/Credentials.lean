import Foundry.Properties.Fencing
import Foundry.Services.RuntimeAuth

/-!
# Bearer tokens

A token is of one credential, and a credential is of one Workspace and one generation for good.
It is accepted until it is revoked or the generation passes.
-/

set_option autoImplicit false

namespace Foundry

open Raise

variable {D : Type} [DecidableEq D] {env : Env D}

/-- The call stores this credential under this identifier. -/
def AuthCall.Issues (env : Env D) (store : AuthStore D) (call : AuthCall D) (id : Uuid)
    (credential : BearerCredential D) : Prop :=
  ∃ workspace rawToken, store.db.workspaces.lookup credential.workspace = some workspace ∧
    credential.tokenDigest = env.digestLeaseToken rawToken ∧
    (credential.machineGeneration = workspace.machineGeneration ∧ workspace.isServing = true ∧
        call = .issue credential.workspace rawToken id ∨
      (credential.machineGeneration = workspace.machineGeneration ∧ workspace.isServing = true ∨
          credential.machineGeneration = workspace.machineGeneration + 1) ∧
        call = .issueForGeneration credential.workspace credential.machineGeneration rawToken id)

/-- What a call leaves. -/
inductive AuthWrite (env : Env D) (store : AuthStore D) : AuthCall D → AuthStore D → Prop
  | issued (call : AuthCall D) (id : Uuid) (credential : BearerCredential D)
      (issues : call.Issues env store id credential) (unrevoked : credential.revokedAt = none)
      (unknown : store.credentials.lookup id = none)
      (free : store.byDigest credential.tokenDigest = none) :
      AuthWrite env store call ⟨store.db, store.credentials.insert id credential⟩
  | other (call : AuthCall D) (next : AuthStore D) (same : next.credentials = store.credentials)
      (quiet : ∀ now id, call ≠ .revoke now id) : AuthWrite env store call next
  | revoked (now : Instant) (id : Uuid) :
      AuthWrite env store (.revoke now id) (store.revokeRuntimeCredential now id)

namespace AuthStore

variable {store next : AuthStore D} {call : AuthCall D} {id : Uuid}
  {credential : BearerCredential D} {rawToken : String}

/-! ## One call -/

theorem issueRuntimeCredential_writes {workspaceId drawn answer : Uuid}
    (success : issueRuntimeCredential env workspaceId rawToken drawn store = .ok (answer, next)) :
    AuthWrite env store (.issue workspaceId rawToken drawn) next := by
  simp only [issueRuntimeCredential, requireReadyWorkspace, digestLeaseToken, create, bind_eq_ok,
    orRaise_eq_ok, require_eq_ok, pure_eq_ok] at success
  obtain ⟨_, _, workspace, stored, _, serving, _, ⟨_, _, rfl⟩, _, ⟨_, unknown, _, free, rfl⟩, _,
    rfl⟩ := success
  exact .issued _ _ _ ⟨workspace, rawToken, stored, rfl, .inl ⟨rfl, by simpa using serving, rfl⟩⟩
    rfl unknown free

theorem issueRuntimeCredentialForGeneration_writes {workspaceId operation answer : Uuid}
    {generation : Nat}
    (success : issueRuntimeCredentialForGeneration env workspaceId generation rawToken operation
      store = .ok (answer, next)) :
    AuthWrite env store (.issueForGeneration workspaceId generation rawToken operation) next := by
  simp only [issueRuntimeCredentialForGeneration, digestLeaseToken, bind_eq_ok, orRaise_eq_ok,
    require_eq_ok, pure_eq_ok] at success
  obtain ⟨_, _, _, _, _, ⟨_, _, rfl⟩, workspace, stored, success⟩ := success
  split at success
  · simp only [bind_eq_ok, return_eq_ok] at success
    obtain ⟨_, _, _, rfl⟩ := success
    exact .other _ _ rfl (by simp)
  · split at success
    · next current =>
      simp only [requireReadyWorkspace, create, bind_eq_ok, require_eq_ok, pure_eq_ok] at success
      obtain ⟨_, serving, _, ⟨_, unknown, _, free, rfl⟩, _, rfl⟩ := success
      exact .issued _ _ _ ⟨workspace, rawToken, stored, rfl,
        .inr ⟨.inl ⟨current, by simpa using serving⟩, rfl⟩⟩ rfl unknown free
    · simp only [create, bind_eq_ok, require_eq_ok, pure_eq_ok] at success
      obtain ⟨_, expected, _, ⟨_, unknown, _, free, rfl⟩, _, rfl⟩ := success
      exact .issued _ _ _ ⟨workspace, rawToken, stored, rfl, .inr ⟨.inr expected, rfl⟩⟩ rfl unknown
        free

theorem step_writes (env : Env D) (store : AuthStore D) (call : AuthCall D) :
    AuthWrite env store call (Run.step (apply env) store call) := by
  rcases Run.step_cases (apply env) store call with ⟨_, next, success, same⟩ | same
  · rw [same]
    cases call with
    | issue =>
      obtain ⟨⟨_, _⟩, issues, ⟨⟩⟩ := (map_eq_ok _ _ _).mp success
      exact issueRuntimeCredential_writes issues
    | issueForGeneration =>
      obtain ⟨⟨_, _⟩, issues, ⟨⟩⟩ := (map_eq_ok _ _ _).mp success
      exact issueRuntimeCredentialForGeneration_writes issues
    | revoke now id =>
      cases success
      exact .revoked now id
    | service call =>
      obtain ⟨_, _, ⟨⟩⟩ := (map_eq_ok _ _ _).mp success
      exact .other _ _ rfl (by simp)
  · cases call with
    | revoke now id => exact .revoked now id
    | _ =>
      rw [same]
      exact .other _ _ rfl (by simp)

/-! ## The table -/

/-- A digest is of one credential. -/
def Unique (store : AuthStore D) : Prop :=
  ∀ id other credential twin, store.credentials.lookup id = some credential →
    store.credentials.lookup other = some twin → twin.tokenDigest = credential.tokenDigest →
    other = id

theorem byDigest_eq_some {tokenDigest : D}
    (found : store.byDigest tokenDigest = some (id, credential)) :
    store.credentials.lookup id = some credential ∧ credential.tokenDigest = tokenDigest :=
  ⟨(Table.mem_rows _ _ _).mp (List.mem_of_find?_eq_some found), by simpa using List.find?_some found⟩

theorem byDigest_eq_none {tokenDigest : D} (free : store.byDigest tokenDigest = none)
    (stored : store.credentials.lookup id = some credential) :
    credential.tokenDigest ≠ tokenDigest := fun same =>
  List.find?_eq_none.mp free _ ((Table.mem_rows _ _ _).mpr stored) (decide_eq_true same)

theorem Unique.byDigest (unique : store.Unique)
    (stored : store.credentials.lookup id = some credential) :
    store.byDigest credential.tokenDigest = some (id, credential) := by
  cases found : store.byDigest credential.tokenDigest with
  | none => exact absurd rfl (byDigest_eq_none found stored)
  | some row =>
    obtain ⟨present, same⟩ := byDigest_eq_some found
    obtain rfl := unique id row.1 credential row.2 stored present same
    cases stored.symm.trans present
    rfl

theorem authenticate_eq_ok_iff {context : RuntimeContext} :
    store.authenticateRuntimeToken env rawToken = .ok (id, context) ↔
      rawToken ≠ "" ∧ ∃ credential,
        store.byDigest (env.digestLeaseToken rawToken) = some (id, credential) ∧
          credential.revokedAt = none ∧
          context = ⟨credential.workspace, credential.machineGeneration⟩ ∧
          context.IsCurrent store.db := by
  simp only [authenticateRuntimeToken, digestLeaseToken, requireReadyWorkspace, bind_eq_ok,
    orRaise_eq_ok, require_eq_ok, pure_eq_ok, Prod.mk.injEq, Prod.exists]
  constructor
  · rintro ⟨_, named, _, ⟨_, _, rfl⟩, _, credential, found, _, unrevoked, workspace, stored, _,
      current, _, _, rfl, rfl⟩
    exact ⟨named, credential, found, unrevoked, rfl, workspace, stored, current.symm⟩
  · rintro ⟨named, credential, found, unrevoked, rfl, workspace, stored, current⟩
    exact ⟨(), named, _, ⟨(), named, rfl⟩, id, credential, found, (), unrevoked, workspace, stored,
      (), current.symm, (), .inr trivial, rfl, rfl⟩

omit [DecidableEq D] in
theorem lookup_revoke (now : Instant) (id other : Uuid) :
    (store.revokeRuntimeCredential now id).credentials.lookup other =
      (store.credentials.lookup other).map fun credential =>
        if other = id ∧ credential.revokedAt = none then
          { credential with revokedAt := some now }
        else credential := by
  unfold revokeRuntimeCredential
  by_cases same : other = id
  · subst same
    cases found : store.credentials.lookup other with
    | none => simp [found]
    | some credential =>
      by_cases unrevoked : credential.revokedAt = none <;> simp [found, unrevoked]
  · split
    · split <;> simp [same, AList.lookup_insert_ne]
    · simp [same]

/-! ## Along a run -/

theorem Unique.write (unique : store.Unique) (write : AuthWrite env store call next) :
    next.Unique := by
  intro one other credential twin stored present same
  cases write with
  | issued _ id fresh _ _ _ free =>
    rcases Table.cases_insert stored with ⟨rfl, rfl⟩ | ⟨_, known⟩ <;>
      rcases Table.cases_insert present with ⟨rfl, rfl⟩ | ⟨_, other⟩
    · rfl
    · exact absurd same (byDigest_eq_none free other)
    · exact absurd same.symm (byDigest_eq_none free known)
    · exact unique _ _ _ _ known other same
  | other _ _ kept => exact unique one other credential twin (kept ▸ stored) (kept ▸ present) same
  | revoked =>
    rw [lookup_revoke, Option.map_eq_some_iff] at stored present
    obtain ⟨earlier, known, rfl⟩ := stored
    obtain ⟨before, found, rfl⟩ := present
    refine unique one other earlier before known found ?_
    split at same <;> split at same <;> exact same

omit [DecidableEq D] in
theorem empty_unique : (empty : AuthStore D).Unique := by
  rintro _ _ _ _ ⟨⟩

theorem run_unique (env : Env D) (rest : List (AuthCall D)) (unique : store.Unique) :
    (run env store rest).Unique := by
  induction rest generalizing store with
  | nil => exact unique
  | cons call _ ih => exact ih (unique.write (step_writes env _ call))

/-- Nothing but its revocation changes a credential. -/
theorem step_credential (env : Env D) (call : AuthCall D)
    (stored : store.credentials.lookup id = some credential) :
    ∃ revokedAt, (Run.step (apply env) store call).credentials.lookup id =
        some { credential with revokedAt := revokedAt } ∧
      (revokedAt = none ↔ credential.revokedAt = none ∧ ∀ now, call ≠ .revoke now id) := by
  have write := step_writes env store call
  generalize Run.step (apply env) store call = next at write
  cases write with
  | issued _ other _ issues _ unknown =>
    have different : id ≠ other := by
      rintro rfl
      cases stored.symm.trans unknown
    refine ⟨credential.revokedAt, by rw [AList.lookup_insert_ne different, stored], ?_⟩
    obtain ⟨_, _, _, _, ⟨_, _, rfl⟩ | ⟨_, rfl⟩⟩ := issues <;> simp
  | other _ _ kept quiet => exact ⟨credential.revokedAt, kept ▸ stored, by simp [quiet]⟩
  | revoked now other =>
    rw [lookup_revoke, stored, Option.map_some]
    by_cases same : id = other <;> by_cases unrevoked : credential.revokedAt = none
    · exact ⟨some now, by simp [same, unrevoked], by simp [same]⟩
    · exact ⟨credential.revokedAt, by simp [unrevoked], by simp [unrevoked]⟩
    · exact ⟨credential.revokedAt, by simp [same], by simp [Ne.symm same]⟩
    · exact ⟨credential.revokedAt, by simp [same], by simp [unrevoked]⟩

theorem run_credential (env : Env D) (rest : List (AuthCall D))
    (stored : store.credentials.lookup id = some credential) :
    ∃ revokedAt, (run env store rest).credentials.lookup id =
        some { credential with revokedAt := revokedAt } ∧
      (revokedAt = none ↔ credential.revokedAt = none ∧ ∀ now, .revoke now id ∉ rest) := by
  induction rest generalizing store credential with
  | nil => exact ⟨credential.revokedAt, stored, by simp⟩
  | cons call rest ih =>
    obtain ⟨middle, kept, first⟩ := step_credential env call stored
    obtain ⟨last, found, second⟩ := ih kept
    refine ⟨last, found, second.trans ?_⟩
    simp only [first, List.mem_cons, not_or, and_assoc, forall_and, ne_comm, ne_eq]

/-- A credential was there, or the run issued it. -/
theorem run_source (rest : List (AuthCall D))
    (present : (run env store rest).credentials.lookup id = some credential) :
    (∃ known, store.credentials.lookup id = some known) ∨
      ∃ before call after issued, rest = before ++ call :: after ∧
        call.Issues env (run env store before) id issued ∧
        (run env store (before ++ [call])).credentials.lookup id = some issued := by
  induction rest generalizing store with
  | nil => exact .inl ⟨credential, present⟩
  | cons call rest ih =>
    rcases ih present with ⟨known, stored⟩ | ⟨before, other, after, issued, rfl, first⟩
    · have write := step_writes env store call
      refine (?_ : _ ∨ call.Issues env store id known ∧
        (Run.step (apply env) store call).credentials.lookup id = some known).imp_right
          fun issued => ⟨[], call, rest, known, rfl, issued⟩
      generalize Run.step (apply env) store call = next at write stored
      cases write with
      | issued _ _ _ issues =>
        rcases Table.cases_insert stored with ⟨rfl, rfl⟩ | ⟨_, old⟩
        · exact .inr ⟨issues, stored⟩
        · exact .inl ⟨known, old⟩
      | other _ _ kept => exact .inl ⟨known, kept ▸ stored⟩
      | revoked =>
        rw [lookup_revoke, Option.map_eq_some_iff] at stored
        exact .inl ⟨stored.choose, stored.choose_spec.1⟩
    · exact .inr ⟨call :: before, other, after, issued, rfl, first⟩

end AuthStore

section Main

open AuthStore

variable (env) (rawToken : String) (id : Uuid) (context : RuntimeContext)

/-- A token that was accepted is accepted again, for the same runtime, until its credential is
revoked or the generation has passed; it is never accepted for another. -/
theorem bearer_token_is_good_until_revoked_or_fenced (first rest : List (AuthCall D))
    (accepted : (AuthStore.run env .empty first).authenticateRuntimeToken env rawToken =
      .ok (id, context)) :
    let later := AuthStore.run env .empty (first ++ rest)
    (later.authenticateRuntimeToken env rawToken = .ok (id, context) ↔
      context.IsCurrent later.db ∧ ∀ now, .revoke now id ∉ rest) ∧
    ∀ answer, later.authenticateRuntimeToken env rawToken = .ok answer → answer = (id, context) := by
  intro later
  obtain ⟨named, credential, found, unrevoked, rfl, _⟩ := authenticate_eq_ok_iff.mp accepted
  obtain ⟨stored, digest⟩ := byDigest_eq_some found
  have unique : later.Unique :=
    run_unique env (first ++ rest) empty_unique
  obtain ⟨revokedAt, kept, since⟩ := run_credential env rest stored
  have reached : AuthStore.run env (AuthStore.run env .empty first) rest = later :=
    (Run.run_append _ _ _).symm
  rw [reached] at kept
  have only := unique.byDigest kept
  rw [digest] at only
  refine ⟨?_, ?_⟩
  · rw [authenticate_eq_ok_iff]
    constructor
    · rintro ⟨_, _, among, stays, _, isCurrent⟩
      cases only.symm.trans among
      exact ⟨isCurrent, (since.mp stays).2⟩
    · rintro ⟨isCurrent, quiet⟩
      exact ⟨named, _, only, since.mpr ⟨unrevoked, quiet⟩, rfl, isCurrent⟩
  · rintro ⟨other, answer⟩ again
    obtain ⟨_, _, among, _, rfl, _⟩ := authenticate_eq_ok_iff.mp again
    cases only.symm.trans among
    rfl

/-- A digest is of one credential, and what is accepted was issued under this token for this
Workspace, for the generation that then was the current one or the next, and was not revoked
since. -/
theorem accepted_tokens_were_issued (calls : List (AuthCall D)) :
    (AuthStore.run env .empty calls).Unique ∧
    ∀ rawToken id context,
      (AuthStore.run env .empty calls).authenticateRuntimeToken env rawToken = .ok (id, context) →
      ∃ before call after credential, calls = before ++ call :: after ∧
        call.Issues env (AuthStore.run env .empty before) id credential ∧
        credential.tokenDigest = env.digestLeaseToken rawToken ∧
        context = ⟨credential.workspace, credential.machineGeneration⟩ ∧
        ∀ now, .revoke now id ∉ after := by
  refine ⟨run_unique env calls empty_unique, fun rawToken id context accepted => ?_⟩
  obtain ⟨_, credential, found, unrevoked, rfl, _⟩ := authenticate_eq_ok_iff.mp accepted
  obtain ⟨stored, digest⟩ := byDigest_eq_some found
  rcases run_source calls stored with ⟨_, ⟨⟩⟩ | ⟨before, call, after, issued, rfl, issues, placed⟩
  obtain ⟨revokedAt, kept, since⟩ := run_credential env after placed
  have reached : AuthStore.run env .empty (before ++ call :: after) =
      AuthStore.run env (AuthStore.run env .empty (before ++ [call])) after :=
    (congrArg _ (List.append_cons before call after)).trans (Run.run_append _ _ _)
  rw [← reached] at kept
  cases stored.symm.trans kept
  exact ⟨before, call, after, issued, rfl, issues, digest, rfl, (since.mp unrevoked).2⟩

end Main

/-- A token issued to the Machine of `bringUp`. -/
def issuedToken : List (AuthCall PlainDigest) :=
  bringUp.map .service ++ [.issue 0 "bearer" 7]

theorem revoked_token_is_refused :
    (AuthStore.run .plain .empty (issuedToken ++ [.revoke 5 7])).authenticateRuntimeToken .plain
      "bearer" ≠ .ok (7, ⟨0, 1⟩) := by
  have good := bearer_token_is_good_until_revoked_or_fenced .plain "bearer" 7 ⟨0, 1⟩ issuedToken
    [.revoke 5 7] (by decide)
  exact fun again => (good.1.mp again).2 5 (List.mem_singleton_self _)

end Foundry
