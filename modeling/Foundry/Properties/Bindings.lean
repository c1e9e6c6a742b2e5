import Foundry.Volume.Bindings

/-!
# Binding application

The record of a binding is written after the keys it stands for, and the decision to skip a
call looks at the record alone.  Between the two replacements `.env` is ahead of the record;
a call for a generation in that gap puts older keys over newer ones.
-/

set_option autoImplicit false

namespace Foundry

variable {world next : BindingWorld} {key : List Char}

/-! ## The server key -/

def leavesServerKey (entry : String × List Char) : Bool :=
  entry.1 ≠ "API_SERVER_KEY" &&
    (envValues apiServerKey (splitLines (entry.2 ++ ['\n'])).tail).isEmpty

/-- The rewritten `.env` is within the size that `read_api_key` reads, and has one server key. -/
def keepsServerKey (serverKey : List Char) (resolved : List (String × List Char)) : Bool :=
  resolved.all leavesServerKey &&
    utf8Bytes (joinLines (bindingLines serverKey resolved)) ≤ maxProfileTextBytes

variable {name : String}

theorem isEnvName_letters (isName : isEnvName name = true) :
    ∀ letter ∈ name.toList, letter.isUpper ∨ letter.isDigit ∨ letter = '_' := by
  unfold isEnvName at isName
  cases letters : name.toList with
  | nil =>
    rw [letters] at isName
    cases isName
  | cons =>
    rw [letters] at isName
    simp only [Bool.and_eq_true, decide_eq_true_eq, List.all_eq_true, Bool.or_eq_true,
      beq_iff_eq, or_assoc] at isName
    intro letter member
    rcases List.mem_cons.mp member with rfl | later
    · exact .inl isName.1.1
    · exact isName.2 letter later

theorem nameLetter_plain {letter : Char}
    (isLetter : letter.isUpper ∨ letter.isDigit ∨ letter = '_') :
    isLineBoundary letter = false ∧ letter ≠ '=' := by
  have bounded : 48 ≤ letter.toNat ∧ letter.toNat ≤ 95 ∧ letter.toNat ≠ 61 := by
    rcases isLetter with isUpper | isDigit | rfl
    · have bounds : 65 ≤ letter.val.toNat ∧ letter.val.toNat ≤ 90 := by
        change decide (65 ≤ letter.val ∧ letter.val ≤ 90) = true at isUpper
        rw [decide_eq_true_eq, UInt32.le_iff_toNat_le, UInt32.le_iff_toNat_le] at isUpper
        exact isUpper
      change 48 ≤ letter.val.toNat ∧ letter.val.toNat ≤ 95 ∧ letter.val.toNat ≠ 61
      omega
    · simp only [Char.isDigit, ge_iff_le, Bool.and_eq_true, decide_eq_true_eq,
        UInt32.le_iff_toNat_le] at isDigit
      exact ⟨isDigit.1, Nat.le_trans isDigit.2 (by decide), by
        have := isDigit.2
        simp only [Char.toNat] at *
        change letter.val.toNat ≤ 57 at this
        omega⟩
    · decide
  refine ⟨?_, ?_⟩
  · rw [isLineBoundary, Bool.eq_false_iff]
    intro boundary
    rw [List.contains_iff_mem] at boundary
    simp only [List.mem_cons, List.not_mem_nil, or_false] at boundary
    rcases boundary with rfl | rfl | rfl | rfl | rfl | rfl | rfl | rfl | rfl | rfl <;>
      revert bounded <;> decide
  · rintro rfl
    exact bounded.2.2 rfl

variable {value : List Char}

theorem noReturn_of_hasLineControl (clean : hasLineControl value = false) :
    '\r' ∉ value := by
  intro member
  rw [hasLineControl, List.any_eq_false] at clean
  exact absurd rfl (clean '\r' member)

theorem plain_noReturn {text : List Char} (plain : ∀ letter ∈ text, isLineBoundary letter = false) :
    '\r' ∉ text :=
  fun member => absurd (plain '\r' member) (by decide)

theorem envValues_eq_nil_iff (isName : isEnvName name = true) :
    envValues apiServerKey (splitLines (envLine name.toList value ++ ['\n'])) = [] ↔
      leavesServerKey (name, value) = true := by
  have letters := isEnvName_letters isName
  have plain : ∀ letter ∈ name.toList ++ ['='], isLineBoundary letter = false := by
    intro letter member
    rcases List.mem_append.mp member with inName | separator
    · exact (nameLetter_plain (letters letter inName)).1
    · rw [List.mem_singleton.mp separator]
      decide
  have noSeparator : '=' ∉ name.toList := fun member =>
    (nameLetter_plain (letters '=' member)).2 rfl
  obtain ⟨first, _, cut, named⟩ := splitLines_name plain value
  have whole : envLine name.toList value = name.toList ++ ['='] ++ value := by
    simp [envLine]
  have parts := partitionLine_envLine noSeparator first
  rw [envLine] at parts
  rw [whole, named, List.append_assoc, List.singleton_append, leavesServerKey, cut]
  by_cases same : name = "API_SERVER_KEY"
  · have mine : name.toList = apiServerKey := congrArg String.toList same
    rw [envValues, List.filterMap_cons, parts, Option.bind_some, if_pos mine]
    exact iff_of_false (by rintro ⟨⟩) (by simp [same])
  · have other : name.toList ≠ apiServerKey := fun letters => same (String.toList_injective letters)
    rw [envValues, List.filterMap_cons, parts, Option.bind_some, if_neg other]
    simp [same, envValues]

theorem resolveRefs_checked (resolver : String → Option (List Char)) (refs : List (String × String))
    (resolved : List (String × List Char)) (success : resolveRefs resolver refs = .ok resolved) :
    ∀ entry ∈ resolved, isEnvName entry.1 = true ∧ isResolvedValue entry.2 = true := by
  induction refs generalizing resolved with
  | nil =>
    cases success
    rintro _ ⟨⟩
  | cons ref rest ih =>
    obtain ⟨_, _⟩ := ref
    rw [resolveRefs] at success
    split at success
    · cases success
    · next isName =>
      split at success
      · cases success
      · next value resolves =>
        cases others : resolveRefs resolver rest with
        | error =>
          rw [others] at success
          cases success
        | ok later =>
          rw [others] at success
          cases success
          have isValue : isResolvedValue value = true := by
            rw [resolveCredential] at resolves
            split at resolves
            · cases resolves
            · split at resolves
              · next checked =>
                cases resolves
                exact checked
              · cases resolves
          intro entry member
          rcases List.mem_cons.mp member with rfl | inLater
          · exact ⟨by simpa using isName, isValue⟩
          · exact ih later others entry inLater

variable {profile : ProfileDir}

theorem readApiKey_eq_ok_iff :
    profile.readApiKey = .ok key ↔ isGeneratedKey key = true ∧ ∃ file, profile.env = some file ∧
      file.isPrivate = true ∧ utf8Bytes file.text ≤ maxProfileTextBytes ∧
      envValues apiServerKey (splitLines file.text) = [key] := by
  rw [ProfileDir.readApiKey]
  cases profile.env with
  | none => simp
  | some file =>
    cases isPrivate : file.isPrivate with
    | false => simp [isPrivate]
    | true =>
      by_cases large : maxProfileTextBytes < utf8Bytes file.text
      · have big : ¬utf8Bytes file.text ≤ maxProfileTextBytes := Nat.not_le.mpr large
        simp [isPrivate, large, big]
      · have small := Nat.not_lt.mp large
        simp only [isPrivate, Bool.not_true, Bool.false_or, decide_eq_true_eq, large, if_false,
          Option.some.injEq, exists_eq_left', small, true_and]
        split
        · next value only =>
          rw [only, List.cons.injEq]
          cases generated : isGeneratedKey value with
          | false =>
            refine iff_of_false (by simp) ?_
            rintro ⟨made, rfl, _⟩
            rw [generated] at made
            cases made
          | true =>
            constructor
            · rintro ⟨⟩
              exact ⟨generated, rfl, rfl⟩
            · rintro ⟨_, rfl, _⟩
              rfl
        · next several =>
          refine iff_of_false (by rintro ⟨⟩) ?_
          rintro ⟨_, only⟩
          exact several key only

/-- A key that was read has no line boundary. -/
theorem plain_of_readApiKey (reads : profile.readApiKey = .ok key) :
    ∀ letter ∈ key, isLineBoundary letter = false := by
  obtain ⟨_, file, _, _, _, only⟩ := readApiKey_eq_ok_iff.mp reads
  have member : key ∈ envValues apiServerKey (splitLines file.text) := by
    rw [only]
    exact List.mem_singleton.mpr rfl
  obtain ⟨line, isLine, within⟩ := mem_envValues member
  exact fun letter inValue =>
    plain_of_mem_splitLines file.text line isLine letter (within inValue)

theorem plain_envLine {name : List Char}
    (plainName : ∀ letter ∈ name, isLineBoundary letter = false)
    (plainValue : ∀ letter ∈ value, isLineBoundary letter = false) :
    ∀ letter ∈ envLine name value, isLineBoundary letter = false := by
  intro letter member
  rcases List.mem_append.mp member with inName | inRest
  · exact plainName letter inName
  · rcases List.mem_cons.mp inRest with rfl | inValue
    · decide
    · exact plainValue letter inValue

theorem plain_apiServerKey : ∀ letter ∈ apiServerKey, isLineBoundary letter = false := by
  have plain : (apiServerKey.all fun letter => !isLineBoundary letter) = true := by decide +kernel
  simpa using plain

/-- Of the lines that are written after the server key, exactly its own line gives it. -/
theorem readApiKey_withEnv_iff (profile : ProfileDir) {entries : List (String × List Char)}
    (generated : isGeneratedKey key = true)
    (checked : ∀ entry ∈ entries, isEnvName entry.1 = true ∧ isResolvedValue entry.2 = true) :
    (profile.withEnv (joinLines (envLine apiServerKey key ::
        entries.map fun entry => envLine entry.1.toList entry.2))).readApiKey = .ok key ↔
      (∀ letter ∈ key, isLineBoundary letter = false) ∧
        (∀ entry ∈ entries, leavesServerKey entry = true) ∧
        utf8Bytes (joinLines (envLine apiServerKey key ::
          entries.map fun entry => envLine entry.1.toList entry.2)) ≤ maxProfileTextBytes := by
  have noReturn : ∀ line ∈ envLine apiServerKey key ::
      entries.map fun entry => envLine entry.1.toList entry.2, '\r' ∉ line := by
    intro line member
    rcases List.mem_cons.mp member with rfl | later
    · intro inLine
      simp only [isGeneratedKey, Bool.and_eq_true, Bool.not_eq_true'] at generated
      rcases List.mem_append.mp inLine with inName | inRest
      · exact absurd (plain_apiServerKey '\r' inName) (by decide)
      · rcases List.mem_cons.mp inRest with separator | inKey
        · exact absurd separator (by decide)
        · exact noReturn_of_hasLineControl generated.2 inKey
    · obtain ⟨entry, listed, rfl⟩ := List.mem_map.mp later
      obtain ⟨isName, isValue⟩ := checked entry listed
      simp only [isResolvedValue, Bool.and_eq_true, Bool.not_eq_true'] at isValue
      intro inLine
      rcases List.mem_append.mp inLine with inName | inRest
      · exact absurd (nameLetter_plain (isEnvName_letters isName '\r' inName)).1 (by decide)
      · rcases List.mem_cons.mp inRest with separator | inValue
        · exact absurd separator (by decide)
        · exact noReturn_of_hasLineControl isValue.2 inValue
  have others : envValues apiServerKey ((entries.map fun entry =>
      envLine entry.1.toList entry.2).flatMap fun line => splitLines (line ++ ['\n'])) = [] ↔
      ∀ entry ∈ entries, leavesServerKey entry = true := by
    clear noReturn
    induction entries with
    | nil => simp [envValues]
    | cons entry _ ih =>
      have named := @envValues_eq_nil_iff entry.1 entry.2
        (checked entry (List.mem_cons_self ..)).1
      rw [List.map_cons, List.flatMap_cons, envValues_append, List.append_eq_nil_iff, named,
        ih fun other member => checked other (List.mem_cons_of_mem entry member),
        List.forall_mem_cons]
  have written : (∀ letter ∈ key, isLineBoundary letter = false) →
      envValues apiServerKey (splitLines (joinLines (envLine apiServerKey key ::
        entries.map fun entry => envLine entry.1.toList entry.2))) =
        key :: envValues apiServerKey ((entries.map fun entry =>
          envLine entry.1.toList entry.2).flatMap fun line => splitLines (line ++ ['\n'])) := by
    intro plain
    rw [splitLines_joinLines noReturn, List.flatMap_cons, envValues_append,
      splitLines_plain (plain_envLine plain_apiServerKey plain), envValues, List.filterMap_cons,
      partitionLine_envLine (by decide), Option.bind_some, if_pos rfl, List.filterMap_nil]
    rfl
  constructor
  · intro reads
    have plain := plain_of_readApiKey reads
    obtain ⟨_, _, isFile, _, fits, only⟩ := readApiKey_eq_ok_iff.mp reads
    cases isFile
    rw [written plain, List.cons.injEq] at only
    exact ⟨plain, others.mp only.2, fits⟩
  · rintro ⟨plain, leaves, fits⟩
    refine readApiKey_eq_ok_iff.mpr ⟨generated, _, rfl, rfl, fits, ?_⟩
    rw [written plain, others.mpr leaves]

variable {resolver : String → Option (List Char)} {resolved : List (String × List Char)}
  {refs : List (String × String)}

theorem readApiKey_bindingLines_iff (profile : ProfileDir) (generated : isGeneratedKey key = true)
    (plain : ∀ letter ∈ key, isLineBoundary letter = false)
    (resolves : resolveRefs resolver refs = .ok resolved) :
    (profile.withEnv (joinLines (bindingLines key resolved))).readApiKey = .ok key ↔
      keepsServerKey key resolved = true := by
  have checked := resolveRefs_checked resolver refs resolved resolves
  rw [bindingLines, readApiKey_withEnv_iff profile generated fun entry member =>
    checked entry ((List.mem_insertionSort _).mp member)]
  rw [keepsServerKey, Bool.and_eq_true, List.all_eq_true, decide_eq_true_eq, bindingLines,
    and_iff_right plain]
  simp only [List.mem_insertionSort]

/-! ## The invariant -/

def BindingWorld.recorded (world : BindingWorld) : Int :=
  world.profile.appliedGeneration.getD 0

structure BindingWorld.Sound (key : List Char) (world : BindingWorld) : Prop where
  reads : world.profile.readApiKey = .ok key
  complete : world.profile.isComplete = true
  record : world.profile.appliedGeneration = some world.recorded
  behind : world.recorded ≤ world.written
  callers : ∀ caller pending, world.callers.lookup caller = some pending →
    pending.serverKey = key ∧ 1 ≤ pending.call.generation

/-- A materialized profile whose record and keys agree, and no call under way. -/
structure BindingWorld.Started (key : List Char) (world : BindingWorld) : Prop where
  reads : world.profile.readApiKey = .ok key
  complete : world.profile.isComplete = true
  record : world.profile.appliedGeneration = some world.written
  idle : world.callers = ∅

theorem BindingWorld.Started.sound (started : world.Started key) : world.Sound key where
  reads := started.reads
  complete := started.complete
  record := by
    rw [BindingWorld.recorded, started.record]
    rfl
  behind := by
    rw [BindingWorld.recorded, started.record]
    exact Int.le_refl _
  callers := by
    intro caller pending found
    rw [started.idle] at found
    cases found

/-- What a call that gets to its writes must meet: it is not for a generation older than the
keys in `.env`, and its keys leave the server key readable. -/
def BindingWorld.sparesKeys (world : BindingWorld) (pending : BindingCaller)
    (resolver : String → Option (List Char)) : Bool :=
  match world.profile.decideBinding pending.call resolver with
  | .rewrite resolved =>
    world.written ≤ pending.call.generation && keepsServerKey pending.serverKey resolved
  | _ => true

def BindingWorld.spares (world : BindingWorld) : BindingOperation → Bool
  | .apply caller resolver _ | .interrupt caller resolver =>
    (world.callers.lookup caller).all fun pending => world.sparesKeys pending resolver
  | _ => true

variable {call : BindingCall}

theorem ProfileDir.decideBinding_eq_rewrite
    (decides : profile.decideBinding call resolver = .rewrite resolved) :
    ∃ applied, profile.appliedGeneration = some applied ∧ applied < call.generation ∧
      resolveRefs resolver call.keyRefs.rows = .ok resolved := by
  rw [ProfileDir.decideBinding] at decides
  split at decides
  · cases decides
  · split at decides
    · cases decides
    · next applied recorded =>
      split at decides
      · cases decides
      · split at decides
        · cases decides
        · next success =>
          cases decides
          exact ⟨applied, recorded, by omega, success⟩

variable {pending : BindingCaller}

section

variable (sound : world.Sound key)

include sound

theorem BindingWorld.Sound.without (caller : Nat) :
    BindingWorld.Sound key { world with callers := world.callers.erase caller } where
  reads := sound.reads
  complete := sound.complete
  record := sound.record
  behind := sound.behind
  callers := by
    intro other pending found
    exact sound.callers other pending (Table.lookup_of_erase found)

theorem BindingWorld.Sound.crashed :
    BindingWorld.Sound key { world with callers := ∅ } where
  reads := sound.reads
  complete := sound.complete
  record := sound.record
  behind := sound.behind
  callers := by
    intro caller pending found
    cases found

theorem BindingWorld.Sound.writeEnv (hasKey : pending.serverKey = key)
    (decides : world.profile.decideBinding pending.call resolver = .rewrite resolved)
    (spares : world.sparesKeys pending resolver = true) :
    (world.writeEnv pending resolved).Sound key := by
  obtain ⟨_, _, _, resolves⟩ := ProfileDir.decideBinding_eq_rewrite decides
  rw [BindingWorld.sparesKeys, decides, Bool.and_eq_true, decide_eq_true_eq, hasKey] at spares
  have generated := (readApiKey_eq_ok_iff.mp sound.reads).1
  have plain := plain_of_readApiKey sound.reads
  refine ⟨?_, ?_, sound.record, ?_, sound.callers⟩
  · rw [BindingWorld.writeEnv, hasKey]
    exact (readApiKey_bindingLines_iff world.profile generated plain resolves).mpr spares.2
  · have complete := sound.complete
    rw [ProfileDir.isComplete, Bool.and_eq_true] at complete ⊢
    exact ⟨rfl, complete.2⟩
  · exact Int.le_trans sound.behind spares.1

theorem BindingWorld.Sound.writeRecord (positive : 1 ≤ world.written) :
    (world.writeRecord world.written).Sound key := by
  have applied : (world.writeRecord world.written).profile.appliedGeneration =
      some world.written := by
    have kept : ¬ world.written < 0 := by omega
    simp [BindingWorld.writeRecord, ProfileDir.withBinding, ProfileDir.appliedGeneration,
      recordedGeneration, Json.get?, kept]
  have recorded : (world.writeRecord world.written).recorded = world.written := by
    rw [BindingWorld.recorded, applied]
    rfl
  refine ⟨sound.reads, sound.complete, ?_, ?_, sound.callers⟩
  · rw [recorded, applied]
  · rw [recorded]
    exact Int.le_refl _

end

/-! ## One section -/

/-- Neither the record nor the generation of the keys goes back. -/
def BindingWorld.Advances (before after : BindingWorld) : Prop :=
  before.recorded ≤ after.recorded ∧ before.written ≤ after.written

theorem BindingWorld.Advances.refl (world : BindingWorld) : world.Advances world :=
  ⟨Int.le_refl _, Int.le_refl _⟩

theorem BindingWorld.Advances.trans {first second third : BindingWorld}
    (earlier : first.Advances second) (later : second.Advances third) : first.Advances third :=
  ⟨Int.le_trans earlier.1 later.1, Int.le_trans earlier.2 later.2⟩

theorem BindingWorld.finish_cases (world : BindingWorld) (pending : BindingCaller)
    (resolver : String → Option (List Char)) (writes : BindingWrites) :
    (world.finish pending resolver writes).2 = world ∨
      ∃ resolved, world.profile.decideBinding pending.call resolver = .rewrite resolved ∧
        ((world.finish pending resolver writes).2 = world.writeEnv pending resolved ∨
          (world.finish pending resolver writes).2 =
            (world.writeEnv pending resolved).writeRecord pending.call.generation) := by
  unfold BindingWorld.finish
  cases decides : world.profile.decideBinding pending.call resolver with
  | refuse | skip => exact .inl rfl
  | rewrite resolved =>
    cases writes with
    | neither => exact .inl rfl
    | envOnly => exact .inr ⟨resolved, rfl, .inl rfl⟩
    | both => exact .inr ⟨resolved, rfl, .inr rfl⟩

variable {caller : Nat}

theorem BindingWorld.Sound.finish (sound : world.Sound key) (writes : BindingWrites)
    (found : world.callers.lookup caller = some pending)
    (spares : world.sparesKeys pending resolver = true) :
    (world.finish pending resolver writes).2.Sound key ∧
      world.Advances (world.finish pending resolver writes).2 := by
  obtain ⟨hasKey, positive⟩ := sound.callers caller pending found
  rcases world.finish_cases pending resolver writes with same | ⟨resolved, decides, outcome⟩
  · rw [same]
    exact ⟨sound, .refl world⟩
  · have ahead : world.Advances (world.writeEnv pending resolved) := by
      rw [BindingWorld.sparesKeys, decides, Bool.and_eq_true, decide_eq_true_eq] at spares
      exact ⟨Int.le_refl _, spares.1⟩
    have written := sound.writeEnv hasKey decides spares
    rcases outcome with same | same
    · rw [same]
      exact ⟨written, ahead⟩
    · rw [same]
      have kept := written.writeRecord positive
      refine ⟨kept, ahead.trans ⟨?_, Int.le_refl _⟩⟩
      have recorded : ((world.writeEnv pending resolved).writeRecord
          pending.call.generation).recorded = (world.writeEnv pending resolved).written :=
        Option.some.inj (kept.record.symm.trans (by
          have notNegative : ¬ pending.call.generation < 0 := by omega
          simp [BindingWorld.writeRecord, BindingWorld.writeEnv, ProfileDir.withBinding,
            ProfileDir.appliedGeneration, recordedGeneration, Json.get?, notNegative]))
      rw [recorded]
      exact written.behind

variable {reply : Option BindingReceipt}

theorem BindingWorld.Sound.read (sound : world.Sound key) (success : world.read caller call = .ok (reply, next)) :
    next.Sound key ∧ world.Advances next := by
  rw [BindingWorld.read, sound.reads] at success
  split at success
  · cases success
  · next positive =>
    split at success
    · cases success
    · cases success
      refine ⟨⟨sound.reads, sound.complete, sound.record, sound.behind, ?_⟩, .refl world⟩
      intro other pending found
      obtain ⟨_, rfl⟩ | ⟨_, found⟩ := Table.cases_insert found
      · exact ⟨rfl, Int.not_lt.mp positive⟩
      · exact sound.callers other pending found

theorem BindingWorld.Sound.apply (operation : BindingOperation) (sound : world.Sound key) (spares : world.spares operation = true)
    (success : BindingWorld.apply operation world = .ok (reply, next)) :
    next.Sound key ∧ world.Advances next := by
  cases operation with
  | read => exact sound.read success
  | apply caller _ writes =>
    rw [BindingWorld.apply] at success
    split at success
    · cases success
    · next found =>
      cases success
      rw [BindingWorld.spares, found] at spares
      obtain ⟨kept, ahead⟩ := sound.finish writes found spares
      exact ⟨kept.without caller, ahead⟩
  | interrupt =>
    rw [BindingWorld.apply] at success
    split at success
    · cases success
    · next found =>
      cases success
      rw [BindingWorld.spares, found] at spares
      obtain ⟨kept, ahead⟩ := sound.finish .envOnly found spares
      exact ⟨kept.crashed, ahead⟩
  | timeOut caller =>
    rw [BindingWorld.apply] at success
    split at success
    · cases success
    · cases success
      exact ⟨sound.without caller, .refl world⟩
  | crash =>
    cases success
    exact ⟨sound.crashed, .refl world⟩

/-! ## The laws -/

def BindingCall.Unresolved (call : BindingCall) (resolver : String → Option (List Char)) : Prop :=
  ∃ ref ∈ call.keyRefs.rows, ∃ fault, resolveCredential resolver ref.2 = .error fault

/-- The arguments are accepted, and every reference resolves. -/
structure BindingCall.Resolves (call : BindingCall) (resolver : String → Option (List Char)) :
    Prop where
  generation : 1 ≤ call.generation
  bounded : call.keyRefs.entries.length ≤ maxCredentials
  refs : ∃ resolved, resolveRefs resolver call.keyRefs.rows = .ok resolved

theorem resolveRefs_of_unresolved
    (fails : ∃ ref ∈ refs, ∃ fault, resolveCredential resolver ref.2 = .error fault) :
    ∃ code, resolveRefs resolver refs = .error code := by
  induction refs with
  | nil =>
    obtain ⟨_, ⟨⟩, _⟩ := fails
  | cons ref _ ih =>
    obtain ⟨_, _⟩ := ref
    rw [resolveRefs]
    split
    · exact ⟨_, rfl⟩
    · split
      · exact ⟨_, rfl⟩
      · next resolves =>
        obtain ⟨other, member, fault, failed⟩ := fails
        rcases List.mem_cons.mp member with rfl | later
        · rw [resolves] at failed
          cases failed
        · obtain ⟨code, refused⟩ := ih ⟨other, later, fault, failed⟩
          exact ⟨code, by rw [refused]; rfl⟩

structure BindingWorld.Lawful (key : List Char) (world : BindingWorld) : Prop where
  serverKey : world.profile.readApiKey = .ok key
  unresolved : ∀ caller pending resolver writes, world.callers.lookup caller = some pending →
    pending.call.Unresolved resolver →
    (Run.step BindingWorld.apply world (.apply caller resolver writes)).profile = world.profile
  repaired : ∀ caller call resolver, call.Resolves resolver → world.written ≤ call.generation →
    (Run.run BindingWorld.apply world
      [.read caller call, .apply caller resolver .both]).recorded = call.generation ∧
    (Run.run BindingWorld.apply world
      [.read caller call, .apply caller resolver .both]).written = call.generation

theorem BindingWorld.profile_of_unresolved (writes : BindingWrites)
    (found : world.callers.lookup caller = some pending)
    (unresolved : pending.call.Unresolved resolver) :
    (Run.step BindingWorld.apply world (.apply caller resolver writes)).profile =
      world.profile := by
  obtain ⟨_, refused⟩ := resolveRefs_of_unresolved unresolved
  have kept : (world.finish pending resolver writes).2 = world := by
    rcases world.finish_cases pending resolver writes with same | ⟨_, decides, _⟩
    · exact same
    · obtain ⟨_, _, _, resolves⟩ := ProfileDir.decideBinding_eq_rewrite decides
      rw [refused] at resolves
      cases resolves
  have applied : BindingWorld.apply (.apply caller resolver writes) world =
      .ok (some (world.finish pending resolver writes).1,
        { (world.finish pending resolver writes).2 with
          callers := (world.finish pending resolver writes).2.callers.erase caller }) := by
    rw [BindingWorld.apply, found]
  rw [Run.step_of_ok world _ _ _ applied]
  change (world.finish pending resolver writes).2.profile = world.profile
  rw [kept]

theorem BindingWorld.Sound.repaired (sound : world.Sound key) (caller : Nat) (resolves : call.Resolves resolver)
    (notOlder : world.written ≤ call.generation) :
    (Run.run BindingWorld.apply world
      [.read caller call, .apply caller resolver .both]).recorded = call.generation ∧
    (Run.run BindingWorld.apply world
      [.read caller call, .apply caller resolver .both]).written = call.generation := by
  obtain ⟨positive, bounded, resolved, success⟩ := resolves
  let opened : BindingWorld :=
    { world with callers := world.callers.insert caller ⟨call, key⟩ }
  have reads : BindingWorld.apply (.read caller call) world = .ok (none, opened) := by
    rw [BindingWorld.apply, BindingWorld.read, if_neg (Int.not_lt.mpr positive),
      if_neg (Nat.not_lt.mpr bounded), sound.reads]
  have found : opened.callers.lookup caller = some ⟨call, key⟩ := AList.lookup_insert ..
  have applies : BindingWorld.apply (.apply caller resolver .both) opened =
      .ok (some (opened.finish ⟨call, key⟩ resolver .both).1,
        { (opened.finish ⟨call, key⟩ resolver .both).2 with
          callers := (opened.finish ⟨call, key⟩ resolver .both).2.callers.erase caller }) := by
    rw [BindingWorld.apply, found]
  rw [Run.run_cons, Run.step_of_ok world opened _ none reads, Run.run_cons, Run.run_nil,
    Run.step_of_ok opened _ _ _ applies]
  change (opened.finish ⟨call, key⟩ resolver .both).2.recorded = call.generation ∧
    (opened.finish ⟨call, key⟩ resolver .both).2.written = call.generation
  have behind := sound.behind
  by_cases newer : world.recorded < call.generation
  · have decides : opened.profile.decideBinding call resolver = .rewrite resolved := by
      have same : opened.profile = world.profile := rfl
      rw [same, ProfileDir.decideBinding, sound.complete, sound.record]
      simp only [Bool.not_true, Bool.false_eq_true, if_false]
      rw [if_neg (Int.not_le.mpr newer), success]
    rw [BindingWorld.finish, decides]
    refine ⟨?_, rfl⟩
    have notNegative : ¬ call.generation < 0 := by omega
    simp [BindingWorld.recorded, BindingWorld.writeRecord, BindingWorld.writeEnv,
      ProfileDir.withBinding, ProfileDir.appliedGeneration, recordedGeneration, Json.get?,
      notNegative]
  · have decides : opened.profile.decideBinding call resolver = .skip world.recorded := by
      have same : opened.profile = world.profile := rfl
      rw [same, ProfileDir.decideBinding, sound.complete, sound.record]
      simp only [Bool.not_true, Bool.false_eq_true, if_false]
      rw [if_pos (Int.not_lt.mp newer)]
    rw [BindingWorld.finish, decides]
    change world.recorded = call.generation ∧ world.written = call.generation
    omega

theorem BindingWorld.Sound.lawful (sound : world.Sound key) : world.Lawful key where
  serverKey := sound.reads
  unresolved := fun _ _ _ writes found fails => BindingWorld.profile_of_unresolved writes found fails
  repaired := fun caller _ _ resolves notOlder => sound.repaired caller resolves notOlder

/-! ## Every run -/

theorem binding_application (key : List Char) (world : BindingWorld)
    (operations later : List BindingOperation) (started : world.Started key)
    (spared : Run.Meets BindingWorld.apply
      (fun world operation => world.spares operation = true) world (operations ++ later)) :
    (Run.run BindingWorld.apply world operations).Lawful key ∧
      (Run.run BindingWorld.apply world operations).Advances
        (Run.run BindingWorld.apply world (operations ++ later)) := by
  have pass : ∀ world operation reply next, BindingWorld.spares world operation = true →
      world.Sound key → BindingWorld.apply operation world = .ok (reply, next) →
      next.Sound key ∧ world.Advances next :=
    fun _ operation _ _ spares sound success => sound.apply operation spares success
  have first := Run.relates_where _ (BindingWorld.Sound key) BindingWorld.Advances
    BindingWorld.Advances.refl BindingWorld.Advances.trans pass world operations started.sound
    spared.append_left
  have second := Run.relates_where _ (BindingWorld.Sound key) BindingWorld.Advances
    BindingWorld.Advances.refl BindingWorld.Advances.trans pass _ later first.1
    spared.append_right
  rw [Run.run_append]
  exact ⟨first.1.lawful, second.2⟩

def boundProfile : BindingWorld where
  profile := {
    manifest := some { (⟨none, none, none, none, none, none, none, none, none, none, none, none,
      none, none, none, none, none, none⟩ : ProfileManifest) with
        completionState := some (.str "complete") }
    config := none
    env := some ⟨"API_SERVER_KEY=0123456789abcdef\n".toList, true⟩
    soul := none
    binding := some (.dict [("generation", .int 1)])
    directories := [] }
  written := 1
  callers := ∅

theorem boundProfile_started : boundProfile.Started "0123456789abcdef".toList where
  reads := by decide +kernel
  complete := by decide +kernel
  record := by decide +kernel
  idle := rfl

def bindingOf (generation : Int) : BindingCall where
  generation := generation
  keyRefs := AList.insert "OPENROUTER_API_KEY" s!"binding/{generation}" ∅

/-- The application of generation 3 is cut off between its two replacements. -/
def cutOffBinding : List BindingOperation :=
  [.read 0 (bindingOf 3), .interrupt 0 fun reference => some reference.toList]

def wholeBinding (generation : Int) : List BindingOperation :=
  [.read 0 (bindingOf generation), .apply 0 (fun reference => some reference.toList) .both]

theorem cut_off_binding_is_repaired :
    (Run.run BindingWorld.apply boundProfile cutOffBinding).Lawful "0123456789abcdef".toList ∧
      (Run.run BindingWorld.apply boundProfile cutOffBinding).Advances
        (Run.run BindingWorld.apply boundProfile (cutOffBinding ++ wholeBinding 3)) :=
  binding_application "0123456789abcdef".toList boundProfile cutOffBinding (wholeBinding 3)
    boundProfile_started (by decide +kernel)

theorem older_keys_replace_newer_ones :
    ¬ ∀ (key : List Char) (world : BindingWorld) (operations later : List BindingOperation),
      world.Started key → (Run.run BindingWorld.apply world operations).Lawful key ∧
        (Run.run BindingWorld.apply world operations).Advances
          (Run.run BindingWorld.apply world (operations ++ later)) := by
  intro always
  have ahead := (always _ boundProfile cutOffBinding (wholeBinding 2) boundProfile_started).2.2
  have before : (Run.run BindingWorld.apply boundProfile cutOffBinding).written = 3 := by
    decide +kernel
  have after : (Run.run BindingWorld.apply boundProfile
      (cutOffBinding ++ wholeBinding 2)).written = 2 := by
    decide +kernel
  rw [before, after] at ahead
  omega

end Foundry
