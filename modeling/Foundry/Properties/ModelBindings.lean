import Foundry.Services.ModelBindings
import Foundry.Volume.Bindings

/-!
# Key references of a claim

The runtime applies the seed's key references merged with those of the binding, and takes at most
as many as the seed alone may have.  `install_provider_key` counts the union before it stores;
`set_model_binding` counts only what it is given.
-/

set_option autoImplicit false

namespace Foundry

open Raise

/-! ## Normalised references -/

theorem upper_letter (letter : Char) :
    (letter.isLower = true → letter ≠ '-' ∧ letter.toUpper.isUpper = true) ∧
      (letter.isUpper = true → letter ≠ '-' ∧ letter.toUpper = letter) ∧
      (letter.isDigit = true → letter ≠ '-' ∧ letter.toUpper = letter) := by
  have ascii : ∀ number < 128,
      ((Char.ofNat number).isLower = true →
        Char.ofNat number ≠ '-' ∧ (Char.ofNat number).toUpper.isUpper = true) ∧
      ((Char.ofNat number).isUpper = true →
        Char.ofNat number ≠ '-' ∧ (Char.ofNat number).toUpper = Char.ofNat number) ∧
      ((Char.ofNat number).isDigit = true →
        Char.ofNat number ≠ '-' ∧ (Char.ofNat number).toUpper = Char.ofNat number) := by
    decide
  by_cases small : letter.toNat < 128
  · have here := ascii letter.toNat small
    rwa [Char.ofNat_toNat] at here
  · have large : 128 ≤ letter.val.toNat := Nat.le_of_not_lt small
    refine ⟨fun lower => ?_, fun upper => ?_, fun digit => ?_⟩
    · change (decide (97 ≤ letter.val) && decide (letter.val ≤ 122)) = true at lower
      simp only [Bool.and_eq_true, decide_eq_true_eq, UInt32.le_iff_toNat_le] at lower
      have bound : letter.val.toNat ≤ 122 := lower.2
      omega
    · change decide (65 ≤ letter.val ∧ letter.val ≤ 90) = true at upper
      simp only [decide_eq_true_eq, UInt32.le_iff_toNat_le] at upper
      have bound : letter.val.toNat ≤ 90 := upper.2
      omega
    · change (decide (48 ≤ letter.val) && decide (letter.val ≤ 57)) = true at digit
      simp only [Bool.and_eq_true, decide_eq_true_eq, UInt32.le_iff_toNat_le] at digit
      have bound : letter.val.toNat ≤ 57 := digit.2
      omega

variable {name : String}

theorem isEnvName_upperName (named : isReferenceName name = true) :
    isEnvName (upperName name) = true := by
  unfold isReferenceName at named
  unfold isEnvName upperName
  rw [String.toList_ofList]
  cases letters : name.toList with
  | nil =>
    rw [letters] at named
    cases named
  | cons first =>
    rw [letters] at named
    simp only [Bool.and_eq_true, Bool.or_eq_true, decide_eq_true_eq, List.all_eq_true,
      beq_iff_eq] at named
    obtain ⟨short, kinds⟩ := named
    simp only [List.map_cons, List.length_map, Bool.and_eq_true, decide_eq_true_eq,
      List.all_eq_true, List.mem_map, Bool.or_eq_true, beq_iff_eq]
    rcases kinds with ⟨lower, others⟩ | ⟨upper, others⟩
    · have head := (upper_letter first).1 lower
      rw [if_neg head.1]
      refine ⟨⟨head.2, short⟩, ?_⟩
      rintro _ ⟨letter, member, rfl⟩
      rcases others letter member with ((isLower | isDigit) | rfl) | rfl
      · have one := (upper_letter letter).1 isLower
        rw [if_neg one.1]
        exact .inl (.inl one.2)
      · have one := (upper_letter letter).2.2 isDigit
        rw [if_neg one.1, one.2]
        exact .inl (.inr isDigit)
      · exact .inr rfl
      · exact .inr rfl
    · have head := (upper_letter first).2.1 upper
      rw [if_neg head.1, head.2]
      refine ⟨⟨upper, short⟩, ?_⟩
      rintro _ ⟨letter, member, rfl⟩
      rcases others letter member with (isUpper | isDigit) | rfl
      · have one := (upper_letter letter).2.1 isUpper
        rw [if_neg one.1, one.2]
        exact .inl (.inl isUpper)
      · have one := (upper_letter letter).2.2 isDigit
        rw [if_neg one.1, one.2]
        exact .inl (.inr isDigit)
      · exact .inr rfl

variable {field : String}

theorem normalizeEnvName_eq_ok {normalized : String}
    (success : normalizeEnvName name field = .ok normalized) : isEnvName normalized = true := by
  simp only [normalizeEnvName, bind_eq_ok, require_eq_ok, pure_eq_ok] at success
  obtain ⟨_, named, _, _, rfl⟩ := success
  exact isEnvName_upperName named

def KeyRefs.IsNamed (refs : KeyRefs) : Prop :=
  ∀ name reference, refs.lookup name = some reference → isEnvName name = true

theorem KeyRefs.isNamed_empty : KeyRefs.IsNamed ∅ := by
  intro name reference found
  cases found

theorem KeyRefs.IsNamed.union {first second : KeyRefs} (left : first.IsNamed)
    (right : second.IsNamed) : KeyRefs.IsNamed (first ∪ second) := by
  intro name reference found
  rw [Table.lookup_union] at found
  rcases Option.or_eq_some_iff.mp found with here | ⟨_, there⟩
  · exact left name reference here
  · exact right name reference there

variable {refs : KeyRefs}

theorem normalizeRefEntry_eq_ok {next : KeyRefs} {entry : String × Json}
    (success : normalizeRefEntry field refs entry = .ok next) :
    ∃ name reference, isEnvName name = true ∧ refs.lookup name = none ∧
      next = refs.insert name reference := by
  obtain ⟨_, value⟩ := entry
  cases value with
  | str reference =>
    simp only [normalizeRefEntry, bind_eq_ok, require_eq_ok, pure_eq_ok] at success
    obtain ⟨_, _, _, _, name, named, _, absent, rfl⟩ := success
    exact ⟨name, reference, normalizeEnvName_eq_ok named, absent, rfl⟩
  | _ => cases success

theorem foldlM_normalizeRefEntry (members : List (String × Json))
    {next : KeyRefs} (named : refs.IsNamed)
    (success : members.foldlM (normalizeRefEntry field) refs = .ok next) :
    next.IsNamed ∧ next.entries.length = refs.entries.length + members.length := by
  induction members generalizing refs with
  | nil =>
    cases success
    exact ⟨named, rfl⟩
  | cons _ _ ih =>
    rw [List.foldlM_cons, bind_eq_ok] at success
    obtain ⟨_, first, later⟩ := success
    obtain ⟨name, reference, isName, absent, rfl⟩ := normalizeRefEntry_eq_ok first
    have grown : (refs.insert name reference).entries.length = refs.entries.length + 1 := by
      rw [AList.insert_of_notMem (AList.lookup_eq_none.mp absent), List.length_cons]
    have stays : KeyRefs.IsNamed (refs.insert name reference) := by
      intro other stored found
      rw [Table.lookup_insert_eq] at found
      split at found
      · next same => rw [same]; exact isName
      · exact named other stored found
    obtain ⟨all, length⟩ := ih stays later
    refine ⟨all, ?_⟩
    rw [length, grown, List.length_cons]
    omega

theorem normalizeRefEntries_eq_ok {raw : Json}
    (success : normalizeRefEntries raw field = .ok refs) :
    refs.IsNamed ∧ refs.entries.length ≤ 32 := by
  cases raw with
  | obj members =>
    simp only [normalizeRefEntries, bind_eq_ok, require_eq_ok] at success
    obtain ⟨_, short, all⟩ := success
    obtain ⟨named, length⟩ := foldlM_normalizeRefEntry members KeyRefs.isNamed_empty all
    refine ⟨named, ?_⟩
    rw [length]
    exact (Nat.zero_add _).le.trans short
  | _ => cases success

theorem normalizeModelBinding_eq_ok {raw : Json} {binding : ModelBinding}
    (success : normalizeModelBinding raw = .ok binding) : binding.keyRefs.IsNamed := by
  cases raw with
  | obj =>
    simp only [normalizeModelBinding, bind_eq_ok, require_eq_ok, pure_eq_ok] at success
    obtain ⟨_, _, _, _, _, _, _, normalized, _, _, rfl⟩ := success
    exact (normalizeRefEntries_eq_ok normalized).1
  | _ => cases success

/-! ## What the runtime takes -/

/-- `apply_binding` takes the references: its checks of the argument pass, and where every reference
resolves, so does its loop over them. -/
def KeyRefs.IsAppliable (refs : KeyRefs) : Prop :=
  (∀ generation : Int, 1 ≤ generation → ∀ caller world,
    ∃ reply, BindingWorld.read caller ⟨generation, refs⟩ world = .ok reply) ∧
  ∀ resolver, (∀ reference, ∃ value, resolveCredential resolver reference = .ok value) →
    ∃ resolved, resolveRefs resolver refs.rows = .ok resolved

theorem resolveRefs_ok {resolver : String → Option (List Char)}
    (resolves : ∀ reference, ∃ value, resolveCredential resolver reference = .ok value)
    (rows : List (String × String)) (named : ∀ row ∈ rows, isEnvName row.1 = true) :
    ∃ resolved, resolveRefs resolver rows = .ok resolved := by
  induction rows with
  | nil => exact ⟨[], rfl⟩
  | cons row _ ih =>
    obtain ⟨resolved, tail⟩ := ih fun other member =>
      named other (List.mem_cons_of_mem row member)
    obtain ⟨value, given⟩ := resolves row.2
    refine ⟨(row.1, value) :: resolved, ?_⟩
    rw [resolveRefs, named row (List.mem_cons_self ..), given, tail]
    rfl

theorem KeyRefs.isAppliable_of (named : refs.IsNamed)
    (few : refs.entries.length ≤ maxCredentials) : refs.IsAppliable := by
  constructor
  · intro generation positive caller world
    unfold BindingWorld.read
    rw [if_neg (by change ¬ generation < 1; omega), if_neg (Nat.not_lt.mpr few)]
    split
    · exact ⟨_, rfl⟩
    · exact ⟨_, rfl⟩
  · intro resolver resolves
    refine resolveRefs_ok resolves refs.rows fun row member => ?_
    exact named row.1 row.2 ((Table.mem_rows refs row.1 row.2).mp member)

/-! ## Runs -/

namespace BindingProfile

variable {profile next : BindingProfile} {request : BindingRequest}
  {receipt : ModelBindingReceipt}

/-- A binding that `set_model_binding` gets with key references of its own leaves room for the
seed's. -/
def FitsSeed (profile : BindingProfile) : BindingRequest → Prop
  | .set raw => profile.isMutable = true → ∀ binding, normalizeModelBinding raw = .ok binding →
      profile.unionSize binding.keyRefs ≤ maxBindingKeyRefs
  | _ => True

theorem apply_eq_ok (success : apply request profile = .ok (receipt, next)) :
    profile.isMutable = true ∧ ∃ binding, profile.change request = .ok binding ∧
      receipt = ⟨profile.generation + 1, binding⟩ ∧
      next = { profile with generation := profile.generation + 1, binding := binding } := by
  simp only [apply, bind_eq_ok, require_eq_ok, pure_eq_ok, store, Prod.mk.injEq] at success
  obtain ⟨_, isMutable, binding, changed, same, stored⟩ := success
  exact ⟨isMutable, binding, changed, same.symm, stored.symm⟩

/-- The stored references have names that the runtime takes. -/
def IsNamed (profile : BindingProfile) : Prop :=
  profile.binding.keyRefs.IsNamed

theorem apply_isNamed (named : profile.IsNamed)
    (success : apply request profile = .ok (receipt, next)) : next.IsNamed := by
  obtain ⟨_, binding, changed, _, rfl⟩ := apply_eq_ok success
  change binding.keyRefs.IsNamed
  cases request with
  | set =>
    simp only [change, bind_eq_ok, pure_eq_ok] at changed
    obtain ⟨_, isNormalized, rfl⟩ := changed
    unfold keepInstalled
    split
    · exact named
    · exact normalizeModelBinding_eq_ok isNormalized
  | clear =>
    cases changed
    exact KeyRefs.isNamed_empty
  | install =>
    simp only [change, bind_eq_ok, require_eq_ok, pure_eq_ok] at changed
    obtain ⟨_, isEntry, _, _, rfl⟩ := changed
    exact (normalizeRefEntries_eq_ok isEntry).1.union named
  | remove =>
    simp only [change, bind_eq_ok, pure_eq_ok] at changed
    obtain ⟨_, _, rfl⟩ := changed
    exact fun other stored found => named other stored (Table.lookup_of_erase found)

theorem mem_of_mem_erase {seed : KeyRefs} {key : String}
    (member : key ∈ refs.erase name ∪ seed) : key ∈ refs ∪ seed := by
  rcases AList.mem_union.mp member with here | there
  · exact AList.mem_union.mpr (.inl (AList.mem_erase.mp here).2)
  · exact AList.mem_union.mpr (.inr there)

theorem apply_fits (fits : profile.unionSize profile.binding.keyRefs ≤ maxBindingKeyRefs)
    (condition : profile.FitsSeed request) (success : apply request profile = .ok (receipt, next)) :
    next.unionSize next.binding.keyRefs ≤ maxBindingKeyRefs := by
  obtain ⟨isMutable, binding, changed, _, rfl⟩ := apply_eq_ok success
  change profile.unionSize binding.keyRefs ≤ maxBindingKeyRefs
  cases request with
  | set =>
    simp only [change, bind_eq_ok, pure_eq_ok] at changed
    obtain ⟨normalized, isNormalized, rfl⟩ := changed
    unfold keepInstalled
    split
    · exact fits
    · exact condition isMutable normalized isNormalized
  | clear =>
    cases changed
    obtain ⟨_, isRaw⟩ := profile.seed.normalized
    rw [unionSize, AList.empty_union]
    exact (normalizeRefEntries_eq_ok isRaw).2
  | install =>
    simp only [change, bind_eq_ok, require_eq_ok, pure_eq_ok] at changed
    obtain ⟨_, _, _, few, rfl⟩ := changed
    exact few
  | remove =>
    simp only [change, bind_eq_ok, pure_eq_ok] at changed
    obtain ⟨_, _, rfl⟩ := changed
    exact (Table.length_le_of_keys fun key => mem_of_mem_erase).trans fits

abbrev run (lifecycleState : RuntimeProfileLifecycleState) (seed : SeedKeyRefs)
    (requests : List BindingRequest) : BindingProfile :=
  Run.run apply (unbound lifecycleState seed) requests

section

variable (lifecycleState : RuntimeProfileLifecycleState) (seed : SeedKeyRefs)

theorem unionSize_unbound :
    (unbound lifecycleState seed).unionSize (unbound lifecycleState seed).binding.keyRefs ≤
      maxBindingKeyRefs := by
  obtain ⟨_, isRaw⟩ := seed.normalized
  rw [unionSize, unbound, AList.empty_union]
  exact (normalizeRefEntries_eq_ok isRaw).2

theorem run_isNamed (requests : List BindingRequest) : (run lifecycleState seed requests).IsNamed :=
  Run.invariant IsNamed (fun _ _ _ _ named success => apply_isNamed named success)
    (unbound lifecycleState seed) requests KeyRefs.isNamed_empty

theorem run_fits (requests : List BindingRequest)
    (condition : Run.Meets apply FitsSeed (unbound lifecycleState seed) requests) :
    (run lifecycleState seed requests).unionSize
      (run lifecycleState seed requests).binding.keyRefs ≤ maxBindingKeyRefs :=
  Run.invariant_where FitsSeed
    (fun profile => profile.unionSize profile.binding.keyRefs ≤ maxBindingKeyRefs)
    (fun _ _ _ _ fitting fits success => apply_fits fits fitting success)
    (unbound lifecycleState seed) requests (unionSize_unbound lifecycleState seed) condition

end

theorem effectiveKeyRefs_isNamed (named : profile.IsNamed) : profile.effectiveKeyRefs.IsNamed := by
  obtain ⟨_, isRaw⟩ := profile.seed.normalized
  exact KeyRefs.IsNamed.union named (normalizeRefEntries_eq_ok isRaw).1

/-- Every change has a later generation and a clear leaves the seed's references, in every run; the
runtime takes the references of every state of a run whose bindings leave room for the seed's. -/
theorem binding_key_refs_stay_appliable (lifecycleState : RuntimeProfileLifecycleState)
    (seed : SeedKeyRefs) (requests : List BindingRequest) :
    (∀ request receipt next,
      apply request (run lifecycleState seed requests) = .ok (receipt, next) →
        (run lifecycleState seed requests).generation < next.generation ∧
        receipt.generation = next.generation ∧
        (request = .clear → next.effectiveKeyRefs = seed.refs)) ∧
    (Run.Meets apply FitsSeed (unbound lifecycleState seed) requests →
      (run lifecycleState seed requests).effectiveKeyRefs.IsAppliable) := by
  have sameSeed : (run lifecycleState seed requests).seed = seed :=
    Run.invariant (fun profile => profile.seed = seed) (by
      intro profile request receipt next same success
      obtain ⟨_, _, _, _, rfl⟩ := apply_eq_ok success
      exact same) (unbound lifecycleState seed) requests rfl
  constructor
  · intro request receipt next success
    obtain ⟨_, _, changed, rfl, rfl⟩ := apply_eq_ok success
    refine ⟨Nat.lt_succ_self _, rfl, ?_⟩
    rintro rfl
    cases changed
    rw [effectiveKeyRefs, AList.empty_union, sameSeed]
  · intro condition
    exact KeyRefs.isAppliable_of
      (effectiveKeyRefs_isNamed (run_isNamed lifecycleState seed requests))
      (run_fits lifecycleState seed requests condition)

/-! ## A binding that fills the bound alone -/

/-- `count` references under names that begin with `first`. -/
def namedRefs (first : String) (count : Nat) : Json :=
  .obj ((List.range count).map fun number =>
    (first ++ String.ofList (List.replicate number '0'), .str "vault://key"))

def oneKeySeed : SeedKeyRefs where
  refs := AList.insert "SEED" "vault://key" ∅
  normalized := ⟨.obj [("SEED", .str "vault://key")], by rfl⟩

def bindRefs (count : Nat) : BindingRequest :=
  .set (.obj [("key_refs", namedRefs "OWN" count)])

theorem binding_of_all_but_one_is_appliable :
    (run .active oneKeySeed [bindRefs 31]).effectiveKeyRefs.IsAppliable := by
  refine (binding_key_refs_stay_appliable .active oneKeySeed [bindRefs 31]).2 ?_
  refine ⟨?_, trivial⟩
  intro _ binding normalized
  have same : Except.ok binding = normalizeModelBinding (.obj [("key_refs", namedRefs "OWN" 31)]) :=
    normalized.symm
  have size : (normalizeModelBinding (.obj [("key_refs", namedRefs "OWN" 31)])).toOption.map
      (fun binding => (unbound .active oneKeySeed).unionSize binding.keyRefs) = some 32 := by
    decide +kernel
  rw [← same] at size
  exact (Option.some.inj size).le

/-- The seed has one reference, and `set_model_binding` accepts 32 others. -/
theorem binding_of_all_is_not_appliable :
    ¬ (run .active oneKeySeed [bindRefs 32]).effectiveKeyRefs.IsAppliable := by
  have wide : (run .active oneKeySeed [bindRefs 32]).effectiveKeyRefs.entries.length = 33 := by
    decide +kernel
  rintro ⟨reads, _⟩
  obtain ⟨_, accepted⟩ := reads 1 (Int.le_refl 1) 0 ⟨.empty, 0, ∅⟩
  rw [BindingWorld.read, if_neg (by decide), if_pos (by rw [wide]; decide)] at accepted
  cases accepted

end BindingProfile

end Foundry
