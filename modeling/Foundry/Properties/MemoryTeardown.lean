import Foundry.Hermes.Memory

/-!
# What a failed memory initialization leaves

A teardown needs the path of the database, which is recorded late: an underlying provider that
fails before is held for ever, and what its constructor opened is never closed.
-/

set_option autoImplicit false

namespace Foundry.Memory

namespace InitWorld

def IsHealthy (world : InitWorld) : Prop :=
  ∃ root identity, world.configuration = .ok (root, identity) ∧ world.isSkipped = false ∧
    world.dataFault = none ∧ world.buildFault = none ∧ world.startFault = none ∧
    world.auditFault = none ∧ world.schemaFault = none ∧
    ∃ path, world.databasePath root identity = .ok path

/-- Once it is built, the underlying provider gets as far as the recorded path; and where it is not
built, no open connection is found. -/
def RecordsPath (world : InitWorld) (idle : Provider) : Prop :=
  ∀ root identity, world.configuration = .ok (root, identity) → world.isSkipped = false →
    world.dataFault = none →
    if world.buildFault.isSome then ∀ connection ∈ world.cached, connection ∈ idle.closed
    else world.startFault = none ∧ ∃ path, world.databasePath root identity = .ok path

end InitWorld

namespace Provider

variable {provider : Provider} {world : InitWorld}

/-- The provider after the teardown that `initialize` begins with. -/
def idle (provider : Provider) : Provider :=
  (provider.shutdownChecked .succeeds).2

/-- The provider is unavailable, holds nothing, has closed what it took over, shuts down, and comes
back where nothing raises. -/
structure IsClean (provider : Provider) : Prop where
  unavailable : provider.available = false
  released : provider.delegate = none
  closes : ∀ connection ∈ provider.taken, connection ∈ provider.closed
  shutsDown : (provider.shutdownChecked .succeeds).1 = true
  restarts : ∀ world : InitWorld, world.IsHealthy →
    (provider.initializeWith .succeeds world).available = true

structure Sound (provider : Provider) : Prop where
  known : ∀ connection ∈ provider.taken,
    connection ∈ provider.closed ∨ connection ∈ provider.owned
  released : provider.delegate = none → ∀ connection ∈ provider.owned,
    connection ∈ provider.closed
  located : provider.delegate ≠ none → provider.dbPath ≠ none

/-! ## Teardown -/

theorem sound_fresh : fresh.Sound where
  known := by rintro connection ⟨⟩
  released := by rintro _ connection ⟨⟩
  located := fun held => absurd rfl held

theorem Sound.shutdownChecked (sound : provider.Sound) :
    (provider.shutdownChecked .succeeds).1 = true ∧ provider.idle.Sound ∧
      provider.idle.delegate = none ∧ provider.idle.dbPath = none ∧
      provider.idle.available = false := by
  unfold idle Provider.shutdownChecked
  cases delegate : provider.delegate with
  | none =>
    exact ⟨rfl, ⟨sound.known, fun _ => sound.released delegate, fun held => absurd rfl held⟩,
      rfl, rfl, rfl⟩
  | some held =>
    cases path : provider.dbPath with
    | none => exact absurd path (sound.located (by rw [delegate]; rintro ⟨⟩))
    | some =>
      refine ⟨rfl, ⟨?_, (by rintro _ connection ⟨⟩), fun held => absurd rfl held⟩, rfl, rfl,
        rfl⟩
      intro connection taken
      refine .inl ?_
      simp only [reset, closeOwnedResources, List.mem_append]
      rcases sound.known connection taken with closed | owned
      · exact .inr closed
      · exact .inl (.inr owned)

theorem Sound.closes (sound : provider.Sound) (released : provider.delegate = none) :
    ∀ connection ∈ provider.taken, connection ∈ provider.closed := by
  intro connection taken
  rcases sound.known connection taken with closed | owned
  · exact closed
  · exact sound.released released connection owned

theorem initializeWith_of_released (released : provider.delegate = none)
    {root : Path} {identity : String} (configured : world.configuration = .ok (root, identity))
    (needed : world.isSkipped = false) :
    provider.initializeWith .succeeds world =
      provider.idle.build .succeeds world root identity := by
  unfold initializeWith idle Provider.shutdownChecked
  rw [released]
  simp only [configured, needed]

theorem Sound.isClean (sound : provider.Sound) (unavailable : provider.available = false)
    (released : provider.delegate = none) : provider.IsClean where
  unavailable := unavailable
  released := released
  closes := sound.closes released
  shutsDown := sound.shutdownChecked.1
  restarts := by
    rintro world ⟨_, _, configured, needed, data, built, started, audit, schemas, _,
      found⟩
    rw [initializeWith_of_released released configured needed, build, data, built, started]
    simp only [found, finish]
    have reopened : ∃ audit, world.reopenedAudit = .ok audit := by
      unfold InitWorld.reopenedAudit
      rw [audit]
      split
      · exact ⟨_, rfl⟩
      · exact ⟨_, rfl⟩
    obtain ⟨_, reopened⟩ := reopened
    rw [reopened, schemas]

theorem not_isClean_of_unlocated (provider : Provider) (held : provider.delegate ≠ none)
    (unlocated : provider.dbPath = none) (reason : String) :
    ¬ (provider.tornDown .succeeds reason).IsClean := by
  intro clean
  have released := clean.released
  unfold tornDown Provider.shutdownChecked at released
  cases delegate : provider.delegate with
  | none => exact held delegate
  | some =>
    rw [delegate, unlocated] at released
    cases released

/-! ## Initialization -/

theorem Sound.finish (sound : provider.Sound) (located : provider.dbPath ≠ none) :
    (provider.finish .succeeds world).Sound ∧
      ((provider.finish .succeeds world).available = false →
        (provider.finish .succeeds world).IsClean) := by
  have tears : ∀ (current : Provider) (reason : String), current.Sound →
      (current.tornDown .succeeds reason).Sound ∧ (current.tornDown .succeeds reason).IsClean := by
    intro current reason isSound
    obtain ⟨_, after, released, _⟩ := isSound.shutdownChecked
    have failed : (current.tornDown .succeeds reason).Sound :=
      ⟨after.known, after.released, after.located⟩
    exact ⟨failed, failed.isClean rfl released⟩
  unfold Provider.finish
  split
  · next reason _ =>
    obtain ⟨isSound, clean⟩ := tears provider reason sound
    exact ⟨isSound, fun _ => clean⟩
  · next audit _ =>
    have replaced : Sound { provider with
        delegate := some { world.delegate with audit := audit }
        closed := world.delegate.audit.toList ++ provider.closed } := by
      refine ⟨?_, (by rintro ⟨⟩), fun _ => located⟩
      intro connection taken
      rcases sound.known connection taken with closed | owned
      · exact .inl (List.mem_append_right _ closed)
      · exact .inr owned
    split
    · next reason _ =>
      obtain ⟨isSound, clean⟩ := tears _ reason replaced
      exact ⟨isSound, fun _ => clean⟩
    · refine ⟨⟨replaced.known, (by rintro ⟨⟩), fun _ => located⟩, ?_⟩
      rintro ⟨⟩

theorem Sound.build (sound : provider.Sound) (released : provider.delegate = none)
    (unlocated : provider.dbPath = none) (root : Path) (identity : String) :
    let after := provider.build .succeeds world root identity
    let safe := world.dataFault = none →
      if world.buildFault.isSome then ∀ connection ∈ world.cached, connection ∈ provider.closed
      else world.startFault = none ∧ ∃ path, world.databasePath root identity = .ok path
    (safe → after.Sound) ∧ (after.available = false → (after.IsClean ↔ safe)) := by
  intro after safe
  have takes : ∀ connection ∈ (provider.takeOver world.cached).taken,
      connection ∈ provider.closed ∨ connection ∈ (provider.takeOver world.cached).owned := by
    intro connection taken
    rcases List.mem_append.mp taken with before | cached
    · exact .inl (sound.closes released connection before)
    · exact .inr (List.mem_append_right _ cached)
  cases data : world.dataFault with
  | some reason =>
    have failed : after = provider.failed reason := by
      simp only [after, Provider.build, data]
    have isSound : (provider.failed reason).Sound :=
      ⟨sound.known, sound.released, sound.located⟩
    rw [failed]
    refine ⟨fun _ => isSound, fun _ => ⟨fun _ => ?_, fun _ => isSound.isClean rfl released⟩⟩
    intro none
    rw [data] at none
    cases none
  | none =>
    cases built : world.buildFault with
    | some reason =>
      have failed : after = (provider.takeOver world.cached).failed reason := by
        simp only [after, Provider.build, data, built]
      have same : safe ↔ ∀ connection ∈ world.cached, connection ∈ provider.closed := by
        simp only [safe, data, built, Option.isSome_some, if_true, forall_const]
      rw [failed, same]
      have isSound : (∀ connection ∈ world.cached, connection ∈ provider.closed) →
          ((provider.takeOver world.cached).failed reason).Sound := by
        intro closed
        refine ⟨takes, fun _ connection owned => ?_, fun held => absurd released held⟩
        rcases List.mem_append.mp owned with before | cached
        · exact sound.released released connection before
        · exact closed connection cached
      refine ⟨isSound, fun _ => ⟨?_, fun closed => (isSound closed).isClean rfl released⟩⟩
      intro clean connection cached
      exact clean.closes connection (List.mem_append_right _ cached)
    | none =>
      have same : safe ↔
          world.startFault = none ∧ ∃ path, world.databasePath root identity = .ok path := by
        simp only [safe, data, built, Option.isSome_none, Bool.false_eq_true, if_false,
          forall_const]
      rw [same]
      cases start : world.startFault with
      | some reason =>
        have fails : after = tornDown { provider.takeOver world.cached with
            delegate := some world.delegate } .succeeds reason := by
          simp only [after, Provider.build, data, built, start]
        rw [fails]
        refine ⟨(by rintro ⟨⟨⟩, _⟩), fun _ => ⟨fun clean => ?_, (by rintro ⟨⟨⟩, _⟩)⟩⟩
        refine absurd clean (not_isClean_of_unlocated _ ?_ ?_ reason)
        · rintro ⟨⟩
        · exact unlocated
      | none =>
        cases found : world.databasePath root identity with
        | error reason =>
          have fails : after = tornDown { provider.takeOver world.cached with
              delegate := some world.delegate } .succeeds reason := by
            simp only [after, Provider.build, data, built, start, found]
          rw [fails]
          refine ⟨(by rintro ⟨_, _, ⟨⟩⟩), fun _ => ⟨fun clean => ?_,
            (by rintro ⟨_, _, ⟨⟩⟩)⟩⟩
          refine absurd clean (not_isClean_of_unlocated _ ?_ ?_ reason)
          · rintro ⟨⟩
          · exact unlocated
        | ok path =>
          have finishes : after = Provider.finish { provider.takeOver world.cached with
              delegate := some world.delegate, dbPath := some path } .succeeds world := by
            simp only [after, Provider.build, data, built, start, found]
          have isSound : Sound { provider.takeOver world.cached with
              delegate := some world.delegate, dbPath := some path } :=
            ⟨takes, (by rintro ⟨⟩), (by rintro _ ⟨⟩)⟩
          have later := @Sound.finish _ world isSound (by rintro ⟨⟩)
          rw [finishes]
          exact ⟨fun _ => later.1, fun failed => ⟨fun _ => ⟨rfl, path, rfl⟩, fun _ =>
            later.2 failed⟩⟩

theorem Sound.initializeWith (sound : provider.Sound) (world : InitWorld) :
    (world.RecordsPath provider.idle → (provider.initializeWith .succeeds world).Sound) ∧
      ((provider.initializeWith .succeeds world).available = false →
        ((provider.initializeWith .succeeds world).IsClean ↔ world.RecordsPath provider.idle)) := by
  obtain ⟨shutsDown, isSound, released, unlocated, unavailable⟩ := sound.shutdownChecked
  have begins : provider.shutdownChecked .succeeds = (true, provider.idle) := by
    rw [← shutsDown]
    rfl
  unfold Provider.initializeWith
  rw [begins]
  cases configuration : world.configuration with
  | error reason =>
    have idles : Sound { provider.idle with reason := reason } :=
      ⟨isSound.known, isSound.released, isSound.located⟩
    refine ⟨fun _ => idles, fun _ => ⟨fun _ root identity configured => ?_, fun _ =>
      idles.isClean unavailable released⟩⟩
    rw [configuration] at configured
    cases configured
  | ok given =>
    obtain ⟨root, identity⟩ := given
    cases skipped : world.isSkipped with
    | true =>
      have idles : Sound { provider.idle with reason := "context_skipped" } :=
        ⟨isSound.known, isSound.released, isSound.located⟩
      refine ⟨fun _ => idles, fun _ => ⟨fun _ root identity _ needed => ?_, fun _ =>
        idles.isClean unavailable released⟩⟩
      rw [skipped] at needed
      cases needed
    | false =>
      have built := @Sound.build provider.idle world isSound released unlocated root identity
      have same : world.RecordsPath provider.idle ↔ (world.dataFault = none →
          if world.buildFault.isSome then
            ∀ connection ∈ world.cached, connection ∈ provider.idle.closed
          else world.startFault = none ∧
            ∃ path, world.databasePath root identity = .ok path) := by
        constructor
        · intro records
          exact records root identity configuration skipped
        · intro records otherRoot other configured _
          rw [configuration] at configured
          cases configured
          exact records
      rw [same]
      exact built

end Provider

/-! ## Runs -/

/-- The teardown succeeds, and an underlying provider that is built gets as far as its path. -/
def Condition (provider : Provider) : ProviderCall → Prop
  | .initializes teardown world => teardown = .succeeds ∧ world.RecordsPath provider.idle
  | .shutdown teardown => teardown = .succeeds

abbrev run (calls : List ProviderCall) : Provider :=
  Run.run Provider.apply .fresh calls

theorem sound_run (calls : List ProviderCall)
    (meets : Run.Meets Provider.apply Condition .fresh calls) : (run calls).Sound := by
  refine Run.invariant_where Condition Provider.Sound ?_ _ calls Provider.sound_fresh meets
  intro provider call reply next condition sound success
  cases call with
  | initializes _ world =>
    obtain ⟨rfl, records⟩ := condition
    cases success
    exact (sound.initializeWith world).1 records
  | shutdown teardown =>
    change teardown = .succeeds at condition
    subst condition
    cases success
    exact sound.shutdownChecked.2.1

/-- After every run whose initializations meet the condition, one that fails leaves nothing behind
exactly if it meets the condition too. -/
theorem failed_initialization_leaves_nothing (calls : List ProviderCall) (world : InitWorld)
    (meets : Run.Meets Provider.apply Condition .fresh calls)
    (fails : ((run calls).initializeWith .succeeds world).available = false) :
    ((run calls).initializeWith .succeeds world).IsClean ↔ world.RecordsPath (run calls).idle :=
  ((sound_run calls meets).initializeWith world).2 fails

/-! ## Faults -/

/-- A world whose provider opens connections 1 and 2 below the profile. -/
def openedWorld : InitWorld where
  lower := id
  configuration := .ok (["profiles", "ally"], "ally")
  isSkipped := false
  dataFault := none
  buildFault := none
  delegate := ⟨some ⟨some ["profiles", "ally", "memory"], some 1, none⟩, none, false, none⟩
  startFault := none
  cached := [2]
  attributeFault := none
  pragmaFault := none
  pathFault := none
  auditFault := none
  auditConnection := 3
  schemaFault := some "reviewed_schema_drift"

theorem schema_drift_leaves_nothing :
    (Provider.fresh.initializeWith .succeeds openedWorld).IsClean := by
  refine (failed_initialization_leaves_nothing [] openedWorld trivial rfl).mpr ?_
  rintro _ _ ⟨⟩ _ _
  exact ⟨rfl, ["profiles", "ally", "memory"], by rfl⟩

/-- The initialization of the underlying provider raises: it stays, and nothing brings the provider
back. -/
theorem failed_start_holds_the_delegate :
    let after := Provider.fresh.initializeWith .succeeds
      { openedWorld with startFault := some "locked", schemaFault := none }
    after.available = false ∧ after.delegate.isSome = true ∧
      (after.shutdownChecked .succeeds).1 = false ∧
      (after.initializeWith .succeeds { openedWorld with schemaFault := none }).available = false ∧
      after.taken = [2] ∧ after.closed = [] := by
  decide +kernel

end Foundry.Memory
