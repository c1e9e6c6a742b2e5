import Foundry.Properties.Bindings
import Foundry.Properties.Materialization

/-!
# Keys in `.env`

The values are checked for a null, a carriage return and a line feed; the readers cut at more
boundaries than these.  A profile that is built, refreshed or bound keeps its keys where no value
is cut, no credential stands twice and the file stays within the size that is read.
-/

set_option autoImplicit false

namespace Foundry

open Script

/-! ## The property -/

def isPlain (text : List Char) : Bool := text.all fun letter => !isLineBoundary letter

/-- The references of a seed pass their checks and resolve to the values, and the disk takes every
write. -/
structure ProfileSeed.Accepts (env : StoreEnv) (seed : ProfileSeed)
    (wanted : List (String × List Char)) : Prop where
  resolves : resolveSeedRefs env.resolver seed.credentialRefs = some wanted
  named : ∀ ref ∈ seed.credentialRefs, isEnvName ref.1 = true ∧ ref.1 ≠ "API_SERVER_KEY"
  distinct : (seed.credentialRefs.map Prod.fst).Nodup
  takes : ∀ place, env.takes place = true

def builtLines (key : List Char) (resolved : List (String × List Char)) : List (List Char) :=
  envLine apiServerKey key :: resolved.map fun entry => envLine entry.1.toList entry.2

def ProfileDir.lines (profile : ProfileDir) : List (List Char) :=
  splitLines ((profile.env.map EnvFile.text).getD [])

def lineName (line : List Char) : Option (List Char) := (partitionLine line).map Prod.fst

def linesOf (name : List Char) (lines : List (List Char)) : List (List Char) :=
  lines.filter fun line => lineName line = some name

def otherLines (wanted : List (String × List Char)) (lines : List (List Char)) :
    List (List Char) :=
  lines.filter fun line => wanted.all fun entry => lineName line ≠ some entry.1.toList

structure ProfileDir.IsRefreshed (env : StoreEnv) (seed : ProfileSeed)
    (wanted : List (String × List Char)) (key : List Char) (before after : ProfileDir) : Prop where
  reads : after.readApiKey = .ok key
  sets : ∀ entry ∈ wanted, linesOf entry.1.toList after.lines = [envLine entry.1.toList entry.2]
  keeps : otherLines wanted after.lines = otherLines wanted before.lines
  again : (refreshSeedCredentials env seed).reached after = after

/-! ## Lines -/

section Lines

variable {wanted : List (String × List Char)} {lines : List (List Char)}

theorem isPlain_iff {text : List Char} :
    isPlain text = true ↔ ∀ letter ∈ text, isLineBoundary letter = false := by
  simp [isPlain]

theorem splitLines_joinLines_plain (plain : ∀ line ∈ lines, isPlain line = true) :
    splitLines (joinLines lines) = lines := by
  have cut : ∀ line ∈ lines, splitLines (line ++ ['\n']) = [line] := fun line member =>
    splitLines_plain (isPlain_iff.mp (plain line member))
  rw [splitLines_joinLines fun line member => plain_noReturn (isPlain_iff.mp (plain line member)),
    List.flatMap_congr cut]
  exact List.flatMap_singleton' lines

theorem envValues_eq (name : List Char) (lines : List (List Char)) :
    envValues name lines =
      (linesOf name lines).filterMap fun line => (partitionLine line).map Prod.snd := by
  induction lines with
  | nil => rfl
  | cons line _ ih =>
    unfold envValues linesOf lineName at *
    cases parts : partitionLine line with
    | none => simpa [parts] using ih
    | some pair =>
      by_cases same : pair.1 = name
      · simpa [parts, same] using ih
      · simpa [parts, same] using ih

/-- The names of the values are those of a list of references that pass their checks. -/
def AreNames (wanted : List (String × List Char)) : Prop :=
  ∀ entry ∈ wanted, isEnvName entry.1 = true

variable {name : String}

theorem lineName_envLine (isName : isEnvName name = true) (value : List Char) :
    lineName (envLine name.toList value) = some name.toList := by
  have noSeparator : '=' ∉ name.toList := fun member =>
    (nameLetter_plain (isEnvName_letters isName '=' member)).2 rfl
  rw [lineName, partitionLine_envLine noSeparator]
  rfl

theorem plain_seedLine (isName : isEnvName name = true) {value : List Char}
    (plain : isPlain value = true) : isPlain (envLine name.toList value) = true :=
  isPlain_iff.mpr (plain_envLine
    (fun letter member => (nameLetter_plain (isEnvName_letters isName letter member)).1)
    (isPlain_iff.mp plain))

/-- A step of the loop: the line is of no wanted name, or takes the value of its name. -/
theorem refreshLines_cons (wanted : List (String × List Char)) (line : List Char)
    (lines : List (List Char)) :
    ((∀ entry ∈ wanted, lineName line ≠ some entry.1.toList) ∧
        refreshLines wanted (line :: lines) = line :: refreshLines wanted lines) ∨
      ∃ entry ∈ wanted, lineName line = some entry.1.toList ∧
        refreshLines wanted (line :: lines) = envLine entry.1.toList entry.2 ::
          refreshLines (wanted.filter fun other => other.1 != entry.1) lines := by
  rw [refreshLines, lineName]
  cases parts : partitionLine line with
  | none => exact .inl ⟨fun _ _ => by simp, rfl⟩
  | some pair =>
    cases found : wanted.find? fun entry => entry.1.toList == pair.1 with
    | none =>
      refine .inl ⟨fun entry member same => ?_, by simp [found]⟩
      have other := List.find?_eq_none.mp found entry member
      simp only [Option.map_some, Option.some.injEq] at same
      exact other (by simp [same])
    | some entry =>
      have named := List.find?_some found
      refine .inr ⟨entry, List.mem_of_find?_eq_some found, ?_, by simp [found]⟩
      simpa using (beq_iff_eq.mp named).symm

variable {line : List Char}

theorem mem_refreshLines (member : line ∈ refreshLines wanted lines) :
    line ∈ lines ∨ ∃ entry ∈ wanted, line = envLine entry.1.toList entry.2 := by
  induction lines generalizing wanted with
  | nil =>
    obtain ⟨entry, listed, rfl⟩ := List.mem_map.mp member
    exact .inr ⟨entry, listed, rfl⟩
  | cons first rest ih =>
    rcases refreshLines_cons wanted first rest with ⟨_, same⟩ | ⟨entry, listed, _, same⟩
    · rw [same] at member
      rcases List.mem_cons.mp member with rfl | later
      · exact .inl (List.mem_cons_self ..)
      · exact (ih later).imp (List.mem_cons_of_mem _) id
    · rw [same] at member
      rcases List.mem_cons.mp member with rfl | later
      · exact .inr ⟨entry, listed, rfl⟩
      · rcases ih later with old | ⟨other, remaining, written⟩
        · exact .inl (List.mem_cons_of_mem _ old)
        · exact .inr ⟨other, List.mem_of_mem_filter remaining, written⟩

/-- The lines of no wanted name stay, whatever of the names is still to come. -/
theorem otherLines_refreshLines (all : List (String × List Char)) (names : AreNames wanted)
    (within : ∀ entry ∈ wanted, entry ∈ all) :
    otherLines all (refreshLines wanted lines) = otherLines all lines := by
  have dropped : ∀ entry ∈ wanted, ∀ line, lineName line = some entry.1.toList →
      ∀ rest, otherLines all (line :: rest) = otherLines all rest := by
    intro entry member line named rest
    refine List.filter_cons_of_neg ?_
    simp only [List.all_eq_true, decide_eq_true_eq, not_forall]
    exact ⟨entry, within entry member, fun other => other named⟩
  induction lines generalizing wanted with
  | nil =>
    refine List.filter_eq_nil_iff.mpr fun line member => ?_
    obtain ⟨entry, listed, rfl⟩ := List.mem_map.mp member
    simp only [List.all_eq_true, decide_eq_true_eq, not_forall]
    exact ⟨entry, within entry listed, fun other =>
      other (lineName_envLine (names entry listed) entry.2)⟩
  | cons line rest ih =>
    rcases refreshLines_cons wanted line rest with ⟨_, same⟩ | ⟨entry, listed, named, same⟩
    · have later := ih names within dropped
      rw [same, otherLines, otherLines, List.filter_cons, List.filter_cons]
      rw [otherLines, otherLines] at later
      rw [later]
    · have remaining : ∀ other ∈ wanted.filter fun other => other.1 != entry.1, other ∈ wanted :=
        fun other member => List.mem_of_mem_filter member
      rw [same, dropped entry listed _ (lineName_envLine (names entry listed) entry.2),
        dropped entry listed _ named]
      exact ih (fun other member => names other (remaining other member))
        (fun other member => within other (remaining other member))
        (fun other member => dropped other (remaining other member))

variable {name : List Char}

theorem linesOf_cons_of_ne (other : lineName line ≠ some name)
    (rest : List (List Char)) : linesOf name (line :: rest) = linesOf name rest :=
  List.filter_cons_of_neg (by simpa using other)

theorem linesOf_cons_self (named : lineName line = some name)
    (rest : List (List Char)) : linesOf name (line :: rest) = line :: linesOf name rest :=
  List.filter_cons_of_pos (by simpa using named)

theorem linesOf_refreshLines_of_absent (names : AreNames wanted)
    (absent : ∀ entry ∈ wanted, entry.1.toList ≠ name) :
    linesOf name (refreshLines wanted lines) = linesOf name lines := by
  induction lines generalizing wanted with
  | nil =>
    refine List.filter_eq_nil_iff.mpr fun line member => ?_
    obtain ⟨entry, listed, rfl⟩ := List.mem_map.mp member
    rw [lineName_envLine (names entry listed)]
    simpa using absent entry listed
  | cons line rest ih =>
    rcases refreshLines_cons wanted line rest with ⟨_, same⟩ | ⟨entry, listed, named, same⟩
    · rw [same, linesOf, linesOf, List.filter_cons, List.filter_cons]
      have later := ih names absent
      rw [linesOf, linesOf] at later
      rw [later]
    · have other : some entry.1.toList ≠ some name := fun equal =>
        absent entry listed (Option.some.inj equal)
      rw [same, linesOf_cons_of_ne (by rwa [lineName_envLine (names entry listed)]),
        linesOf_cons_of_ne (by rwa [named])]
      exact ih (fun other member => names other (List.mem_of_mem_filter member))
        fun other member => absent other (List.mem_of_mem_filter member)

/-- The first line of a wanted name has its value; the others of that name stay. -/
theorem linesOf_refreshLines {entry : String × List Char} (names : AreNames wanted)
    (distinct : (wanted.map Prod.fst).Nodup) (member : entry ∈ wanted) :
    linesOf entry.1.toList (refreshLines wanted lines) =
      envLine entry.1.toList entry.2 :: (linesOf entry.1.toList lines).tail := by
  have own := lineName_envLine (names entry member) entry.2
  induction lines generalizing wanted with
  | nil =>
    change linesOf entry.1.toList (wanted.map fun other => envLine other.1.toList other.2) =
      [envLine entry.1.toList entry.2]
    induction wanted with
    | nil => cases member
    | cons first rest ih =>
      rw [List.map_cons, List.nodup_cons] at distinct
      rw [List.map_cons]
      have later : AreNames rest := fun other listed =>
        names other (List.mem_cons_of_mem _ listed)
      rcases List.mem_cons.mp member with rfl | inRest
      · rw [linesOf_cons_self own, List.cons.injEq, eq_self, true_and]
        refine List.filter_eq_nil_iff.mpr fun line written => ?_
        obtain ⟨other, listed, rfl⟩ := List.mem_map.mp written
        rw [lineName_envLine (later other listed)]
        simp only [Option.some.injEq, decide_eq_true_eq, String.toList_inj]
        intro same
        exact distinct.1 (List.mem_map.mpr ⟨other, listed, same⟩)
      · have apart : first.1 ≠ entry.1 := fun same =>
          distinct.1 (List.mem_map.mpr ⟨entry, inRest, same.symm⟩)
        rw [linesOf_cons_of_ne, ih later distinct.2 inRest]
        rw [lineName_envLine (names first (List.mem_cons_self ..))]
        simpa [String.toList_inj] using apart
  | cons line rest ih =>
    rcases refreshLines_cons wanted line rest with ⟨unnamed, same⟩ | ⟨other, listed, named, same⟩
    · rw [same, linesOf_cons_of_ne (unnamed entry member), linesOf_cons_of_ne (unnamed entry member)]
      exact ih names distinct member
    · by_cases equal : other.1 = entry.1
      · have one : other = entry := List.inj_on_of_nodup_map distinct listed member equal
        subst one
        rw [same, linesOf_cons_self own, linesOf_cons_self named, List.tail_cons,
          linesOf_refreshLines_of_absent]
        · exact fun remaining kept => names remaining (List.mem_of_mem_filter kept)
        · intro remaining kept
          simpa [String.toList_inj] using (List.mem_filter.mp kept).2
      · have apart : some other.1.toList ≠ some entry.1.toList := fun letters =>
          equal (String.toList_injective (Option.some.inj letters))
        rw [same, linesOf_cons_of_ne (by rwa [lineName_envLine (names other listed)]),
          linesOf_cons_of_ne (by rwa [named])]
        refine ih (fun remaining kept => names remaining (List.mem_of_mem_filter kept))
          (distinct.sublist (List.filter_sublist.map _)) ?_
        exact List.mem_filter.mpr ⟨member, by simpa using fun same => equal same.symm⟩

/-- Lines in which every wanted name has its value first are left as they are. -/
theorem refreshLines_of_set (names : AreNames wanted) (set : ∀ entry ∈ wanted,
      (linesOf entry.1.toList lines).head? = some (envLine entry.1.toList entry.2)) :
    refreshLines wanted lines = lines := by
  induction lines generalizing wanted with
  | nil =>
    cases wanted with
    | nil => rfl
    | cons entry => cases set entry (List.mem_cons_self ..)
  | cons line rest ih =>
    rcases refreshLines_cons wanted line rest with ⟨unnamed, same⟩ | ⟨entry, listed, named, same⟩
    · rw [same, ih names fun entry member => ?_]
      rw [← linesOf_cons_of_ne (unnamed entry member)]
      exact set entry member
    · have first := set entry listed
      rw [linesOf_cons_self named, List.head?_cons, Option.some.injEq] at first
      rw [same, ← first, ih fun other member => names other (List.mem_of_mem_filter member)]
      intro other member
      obtain ⟨inWanted, apart⟩ := List.mem_filter.mp member
      have elsewhere := set other inWanted
      rwa [linesOf_cons_of_ne] at elsewhere
      rw [named]
      simpa using fun letters => (bne_iff_ne.mp apart) (String.toList_injective letters.symm)

end Lines

/-! ## The refresh -/

variable {resolved : List (String × List Char)}

section Refresh

variable {env : StoreEnv} {seed : ProfileSeed} {wanted : List (String × List Char)}
  {profile : ProfileDir} {key : List Char}

theorem resolveSeedRefs_checked {resolver : String → Option (List Char)}
    (refs : List (String × String)) (success : resolveSeedRefs resolver refs = some resolved) :
    resolved.map Prod.fst = refs.map Prod.fst ∧
      ∀ entry ∈ resolved, isResolvedValue entry.2 = true := by
  induction refs generalizing resolved with
  | nil =>
    cases success
    exact ⟨rfl, by rintro _ ⟨⟩⟩
  | cons _ _ ih =>
    unfold resolveSeedRefs resolveCredential at success
    split at success
    · cases success
    · next resolves =>
      obtain ⟨_, others, rfl⟩ := Option.map_eq_some_iff.mp success
      obtain ⟨names, values⟩ := ih others
      refine ⟨by simp [names], ?_⟩
      rw [List.forall_mem_cons]
      refine ⟨?_, values⟩
      split at resolves
      · cases resolves
      · split at resolves
        · next checked =>
          cases resolves
          exact checked
        · cases resolves

section

variable (accepts : seed.Accepts env wanted)

include accepts

theorem ProfileSeed.Accepts.names : AreNames wanted := by
  intro entry member
  have listed : entry.1 ∈ seed.credentialRefs.map Prod.fst := by
    rw [← (resolveSeedRefs_checked _ accepts.resolves).1]
    exact List.mem_map_of_mem member
  obtain ⟨ref, inRefs, same⟩ := List.mem_map.mp listed
  rw [← same]
  exact (accepts.named ref inRefs).1

theorem ProfileSeed.Accepts.nodup :
    (wanted.map Prod.fst).Nodup := by
  rw [(resolveSeedRefs_checked _ accepts.resolves).1]
  exact accepts.distinct

theorem ProfileSeed.Accepts.spares :
    ∀ entry ∈ wanted, entry.1.toList ≠ apiServerKey := by
  intro entry member letters
  have listed : entry.1 ∈ seed.credentialRefs.map Prod.fst := by
    rw [← (resolveSeedRefs_checked _ accepts.resolves).1]
    exact List.mem_map_of_mem member
  obtain ⟨ref, inRefs, same⟩ := List.mem_map.mp listed
  exact (accepts.named ref inRefs).2 (same.trans (String.toList_injective letters))

end

theorem decodeBounded_of_fits (bound : Nat) (text : List Char) (fits : utf8Bytes text ≤ bound) :
    decodeBounded (bound + 1) text = some text := by
  induction text generalizing bound with
  | nil => rfl
  | cons letter _ ih =>
    rw [utf8Bytes, List.map_cons, List.sum_cons] at fits
    have later := ih (bound - letter.utf8Size) (by rw [utf8Bytes]; omega)
    have whole : bound + 1 - letter.utf8Size = bound - letter.utf8Size + 1 := by omega
    rw [decodeBounded, if_neg (Nat.succ_ne_zero bound), if_pos (by omega), whole, later]
    rfl

/-- What a refresh leaves of a profile that no binding owns. -/
theorem reached_refresh (accepts : seed.Accepts env wanted) (reads : profile.readApiKey = .ok key)
    (unbound : profile.binding = none) :
    (refreshSeedCredentials env seed).reached profile =
      if refreshLines wanted profile.lines = profile.lines then profile
      else profile.withEnv (joinLines (refreshLines wanted profile.lines)) := by
  obtain ⟨_, file, isFile, isPrivate, fits, _⟩ := readApiKey_eq_ok_iff.mp reads
  have lines : profile.lines = splitLines file.text := by rw [ProfileDir.lines, isFile]; rfl
  unfold refreshSeedCredentials
  rw [reached, read_bind]
  simp only [unbound, Option.isSome_none, Bool.false_eq_true, if_false, isFile, isPrivate,
    decodeBounded_of_fits _ _ fits, accepts.resolves, attempt, accepts.takes, if_true, lines]
  split
  · rfl
  · rfl

theorem lines_withEnv (lines : List (List Char)) (plain : ∀ line ∈ lines, isPlain line = true) :
    (profile.withEnv (joinLines lines)).lines = lines :=
  splitLines_joinLines_plain plain

theorem plain_lines (profile : ProfileDir) : ∀ line ∈ profile.lines, isPlain line = true :=
  fun line member => isPlain_iff.mpr (plain_of_mem_splitLines _ line member)

section

variable (accepts : seed.Accepts env wanted) (reads : profile.readApiKey = .ok key)
  (unbound : profile.binding = none)

include accepts reads unbound

/-- The lines after a refresh whose values no reader cuts. -/
theorem lines_refresh (plain : ∀ entry ∈ wanted, isPlain entry.2 = true) :
    ((refreshSeedCredentials env seed).reached profile).lines =
      refreshLines wanted profile.lines := by
  rw [reached_refresh accepts reads unbound]
  split
  · next same => exact same.symm
  · refine lines_withEnv _ fun line member => ?_
    rcases mem_refreshLines member with old | ⟨entry, listed, rfl⟩
    · exact plain_lines profile line old
    · exact plain_seedLine (accepts.names entry listed) (plain entry listed)

theorem refresh_iff :
    profile.IsRefreshed env seed wanted key ((refreshSeedCredentials env seed).reached profile) ↔
      (∀ entry ∈ wanted, isPlain entry.2 = true) ∧
        (∀ entry ∈ wanted, (linesOf entry.1.toList profile.lines).length ≤ 1) ∧
        (refreshLines wanted profile.lines = profile.lines ∨
          utf8Bytes (joinLines (refreshLines wanted profile.lines)) ≤ maxProfileTextBytes) := by
  have after := reached_refresh accepts reads unbound
  constructor
  · intro refreshed
    have plain : ∀ entry ∈ wanted, isPlain entry.2 = true := by
      intro entry member
      have present : envLine entry.1.toList entry.2 ∈
          ((refreshSeedCredentials env seed).reached profile).lines := by
        refine List.mem_of_mem_filter (p := fun line => lineName line = some entry.1.toList) ?_
        have only := refreshed.sets entry member
        rw [linesOf] at only
        rw [only]
        exact List.mem_singleton.mpr rfl
      have whole := isPlain_iff.mp (plain_lines _ _ present)
      exact isPlain_iff.mpr fun letter inValue =>
        whole letter (List.mem_append_right _ (List.mem_cons_of_mem _ inValue))
    refine ⟨plain, fun entry member => ?_, ?_⟩
    · have only := refreshed.sets entry member
      rw [lines_refresh accepts reads unbound plain,
        linesOf_refreshLines accepts.names accepts.nodup member, List.cons.injEq] at only
      have short := congrArg List.length only.2
      rw [List.length_tail, List.length_nil] at short
      omega
    · by_cases same : refreshLines wanted profile.lines = profile.lines
      · exact .inl same
      · rw [if_neg same] at after
        have stillReads := refreshed.reads
        rw [after] at stillReads
        obtain ⟨_, _, isFile, _, fits, _⟩ := readApiKey_eq_ok_iff.mp stillReads
        cases isFile
        exact .inr fits
  · rintro ⟨plain, once, fits⟩
    have lines := lines_refresh accepts reads unbound plain
    have stillReads : ((refreshSeedCredentials env seed).reached profile).readApiKey = .ok key := by
      rw [after]
      split
      · exact reads
      · next changed =>
        obtain ⟨generated, file, isFile, _, _, only⟩ := readApiKey_eq_ok_iff.mp reads
        refine readApiKey_eq_ok_iff.mpr ⟨generated, _, rfl, rfl, fits.resolve_left changed, ?_⟩
        rw [after, if_neg changed] at lines
        change splitLines (joinLines _) = _ at lines
        have before : profile.lines = splitLines file.text := by
          rw [ProfileDir.lines, isFile]
          rfl
        rw [lines, envValues_eq, linesOf_refreshLines_of_absent accepts.names accepts.spares,
          ← envValues_eq, before, only]
    have sets : ∀ entry ∈ wanted, linesOf entry.1.toList
        ((refreshSeedCredentials env seed).reached profile).lines =
          [envLine entry.1.toList entry.2] := by
      intro entry member
      have none : (linesOf entry.1.toList profile.lines).tail = [] := by
        have short := once entry member
        rw [← List.length_eq_zero_iff, List.length_tail]
        omega
      rw [lines, linesOf_refreshLines accepts.names accepts.nodup member, none]
    refine ⟨stillReads, sets, ?_, ?_⟩
    · rw [lines]
      exact otherLines_refreshLines wanted accepts.names fun _ member => member
    · rw [reached_refresh accepts stillReads]
      · refine if_pos (refreshLines_of_set accepts.names fun entry member => ?_)
        rw [sets entry member, List.head?_cons]
      · rw [after]
        split
        · exact unbound
        · exact unbound

end

end Refresh

/-! ## The build -/

section Build

variable {env : StoreEnv} {seed : ProfileSeed} {wanted : List (String × List Char)}
  {key : List Char}

def ProfileVolume.Holds (env : StoreEnv) (seed : ProfileSeed) (profile : ProfileDir)
    (volume : ProfileVolume) : Prop :=
  volume.siblings.lookup (seed.temporary env) = some (.directory profile)

theorem buildWrite_stores (takes : ∀ place, env.takes place = true) (profile : ProfileDir)
    (volume : ProfileVolume) :
    wp (fun _ => True) (fun _ => ProfileVolume.Holds env seed profile) (fun _ _ => False)
      (buildWrite env seed profile) volume := by
  refine wp_attempt trivial (AList.lookup_insert ..) fun refused => ?_
  rw [takes] at refused
  cases refused

theorem buildDirectories_answers (takes : ∀ place, env.takes place = true) (names : List String)
    (profile : ProfileDir) (volume : ProfileVolume) :
    wp (fun _ => True) (fun _ _ => True) (fun _ _ => False)
      (buildDirectories env seed profile names) volume := by
  induction names generalizing profile volume with
  | nil => exact wp_answer trivial
  | cons _ _ ih =>
    unfold buildDirectories
    refine wp_bind (wp_mono (buildWrite_stores takes _ volume) (fun _ kept => kept) ?_
      (fun _ _ fails => fails))
    exact fun _ state _ => ih _ state

section

variable (accepts : seed.Accepts env wanted) (created : env.keyFactory = some key)
  (generated : isGeneratedKey key = true) (volume : ProfileVolume)

include accepts created generated

/-- A build answers, and its `.env` has the lines of the key and of the values. -/
theorem buildProfile_keys :
    wp (fun _ => True)
      (fun _ state => ∃ profile, ProfileVolume.Holds env seed profile state ∧
        profile.env = some ⟨joinLines (builtLines key wanted), true⟩)
      (fun _ _ => False) (buildProfile env seed) volume := by
  unfold buildProfile
  refine wp_bind (wp_mono (buildWrite_stores accepts.takes _ volume) (fun _ kept => kept) ?_
    (fun _ _ fails => fails))
  rintro _ made -
  refine wp_bind (wp_mono (buildDirectories_answers accepts.takes _ _ made) (fun _ kept => kept) ?_
    (fun _ _ fails => fails))
  rintro _ filled -
  simp only [created]
  refine wp_bind (wp_unlessRefuse (fun _ => ?_) (fun malformed => ?_))
  · simp only [accepts.resolves]
    refine wp_bind (wp_mono (buildWrite_stores accepts.takes _ filled) (fun _ kept => kept) ?_
      (fun _ _ fails => fails))
    rintro _ keyed -
    refine wp_bind (wp_mono (buildWrite_stores accepts.takes _ keyed) (fun _ kept => kept) ?_
      (fun _ _ fails => fails))
    rintro _ configured -
    refine wp_bind (wp_mono (buildWrite_stores accepts.takes _ configured) (fun _ kept => kept) ?_
      (fun _ _ fails => fails))
    rintro _ spoken -
    refine wp_mono (buildWrite_stores accepts.takes _ spoken) (fun _ kept => kept) ?_
      (fun _ _ fails => fails)
    exact fun _ state holds => ⟨_, holds, rfl⟩
  · rw [generated] at malformed
    cases malformed

/-- The profile that a build leaves reads its key back. -/
theorem build_iff :
    (∃ profile, ProfileVolume.Holds env seed profile ((buildProfile env seed).reached volume) ∧
        profile.readApiKey = .ok key) ↔
      isPlain key = true ∧ (∀ entry ∈ wanted, leavesServerKey entry = true) ∧
        utf8Bytes (joinLines (builtLines key wanted)) ≤ maxProfileTextBytes := by
  have built := (buildProfile_keys accepts created generated volume).2
  split at built
  · obtain ⟨profile, holds, keyed⟩ := built
    have same : profile.readApiKey =
        (ProfileDir.empty.withEnv (joinLines (builtLines key wanted))).readApiKey := by
      rw [ProfileDir.readApiKey, ProfileDir.readApiKey, keyed]
      rfl
    have checked : ∀ entry ∈ wanted, isEnvName entry.1 = true ∧ isResolvedValue entry.2 = true :=
      fun entry member => ⟨accepts.names entry member,
        (resolveSeedRefs_checked _ accepts.resolves).2 entry member⟩
    rw [isPlain_iff, builtLines, ← readApiKey_withEnv_iff .empty generated checked,
      ← builtLines, ← same]
    constructor
    · rintro ⟨_, held, reads⟩
      rw [ProfileVolume.Holds] at holds held
      rw [holds] at held
      cases held
      exact reads
    · exact fun reads => ⟨profile, holds, reads⟩
  · exact built.elim

end

end Build

/-! ## The three writers -/

/-- A binding that is applied leaves the key readable. -/
theorem binding_iff {env : StoreEnv} {world : BindingWorld} {caller : BindingCaller}
    (reads : world.profile.readApiKey = .ok caller.serverKey)
    (decides : world.profile.decideBinding caller.call env.resolver = .rewrite resolved) :
    (BindingWorld.finish caller env.resolver .both world).2.profile.readApiKey =
        .ok caller.serverKey ↔
      keepsServerKey caller.serverKey resolved = true := by
  obtain ⟨_, _, _, resolves⟩ := ProfileDir.decideBinding_eq_rewrite decides
  rw [BindingWorld.finish, decides]
  exact readApiKey_bindingLines_iff world.profile (readApiKey_eq_ok_iff.mp reads).1
    (plain_of_readApiKey reads) resolves

/-- Each of the writers of `.env` keeps the key, and the refresh sets its values, exactly where its
values are not cut into lines of others and the file can be read again. -/
theorem env_keeps_keys_where_values_are_not_cut (env : StoreEnv) (seed : ProfileSeed)
    (wanted : List (String × List Char)) (accepts : seed.Accepts env wanted) :
    (∀ key volume, env.keyFactory = some key → isGeneratedKey key = true →
      ((∃ profile, ProfileVolume.Holds env seed profile ((buildProfile env seed).reached volume) ∧
          profile.readApiKey = .ok key) ↔
        isPlain key = true ∧ (∀ entry ∈ wanted, leavesServerKey entry = true) ∧
          utf8Bytes (joinLines (builtLines key wanted)) ≤ maxProfileTextBytes)) ∧
    (∀ (profile : ProfileDir) key, profile.readApiKey = .ok key → profile.binding = none →
      (profile.IsRefreshed env seed wanted key
          ((refreshSeedCredentials env seed).reached profile) ↔
        (∀ entry ∈ wanted, isPlain entry.2 = true) ∧
          (∀ entry ∈ wanted, (linesOf entry.1.toList profile.lines).length ≤ 1) ∧
          (refreshLines wanted profile.lines = profile.lines ∨
            utf8Bytes (joinLines (refreshLines wanted profile.lines)) ≤ maxProfileTextBytes))) ∧
    ∀ (world : BindingWorld) (caller : BindingCaller) resolved,
      world.profile.readApiKey = .ok caller.serverKey →
      world.profile.decideBinding caller.call env.resolver = .rewrite resolved →
      ((BindingWorld.finish caller env.resolver .both world).2.profile.readApiKey =
          .ok caller.serverKey ↔
        keepsServerKey caller.serverKey resolved = true) :=
  ⟨fun _ volume created generated => build_iff accepts created generated volume,
    fun _ _ reads unbound => refresh_iff accepts reads unbound,
    fun _ _ _ reads decides => binding_iff reads decides⟩

theorem opened_seed_reads_its_key :
    ∃ profile, ProfileVolume.Holds .plain openingSeed profile
        ((buildProfile .plain openingSeed).reached emptyStore) ∧
      profile.readApiKey = .ok "0123456789abcdef".toList :=
  ((env_keeps_keys_where_values_are_not_cut .plain openingSeed
    [(nativeProviderCredential, "value of ref-1".toList)]
    ⟨by decide +kernel, by decide +kernel, by decide +kernel, fun _ => rfl⟩).1
    "0123456789abcdef".toList emptyStore rfl (by decide)).mpr
    ⟨by decide, by decide +kernel, by decide +kernel⟩

def cutStore : StoreEnv :=
  { StoreEnv.plain with resolver := fun _ => some "top\u2028secret".toList }

def keyedProfile : ProfileDir :=
  ProfileDir.empty.withEnv (joinLines [envLine apiServerKey "0123456789abcdef".toList])

/-- The value is accepted, and a refresh does not set it. -/
theorem cut_value_is_never_set :
    openingSeed.Accepts cutStore [(nativeProviderCredential, "top\u2028secret".toList)] ∧
      keyedProfile.readApiKey = .ok "0123456789abcdef".toList ∧ keyedProfile.binding = none ∧
      ¬keyedProfile.IsRefreshed cutStore openingSeed
        [(nativeProviderCredential, "top\u2028secret".toList)] "0123456789abcdef".toList
        ((refreshSeedCredentials cutStore openingSeed).reached keyedProfile) := by
  refine ⟨⟨by decide +kernel, by decide +kernel, by decide +kernel, fun _ => rfl⟩,
    by decide +kernel, rfl, fun refreshed => ?_⟩
  have once := refreshed.sets _ (List.mem_singleton.mpr rfl)
  revert once
  decide +kernel

end Foundry
