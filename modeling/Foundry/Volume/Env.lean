import Mathlib.Data.List.Basic

/-!
# The lines of a `.env` file

`str.splitlines` and `str.partition` as `read_api_key`, `apply_binding` and
`_refresh_seed_credentials` use them.  `splitlines` cuts at more characters than the line
feed that the writers put between their lines.
-/

set_option autoImplicit false

namespace Foundry

/-- The boundaries of `str.splitlines`. -/
def isLineBoundary (letter : Char) : Bool :=
  ['\n', '\r', '\x0b', '\x0c', '\x1c', '\x1d', '\x1e', '\u0085', '\u2028', '\u2029'].contains
    letter

/-- Puts a letter that is no boundary before the lines of the text that follows it. -/
def startLine (letter : Char) : List (List Char) → List (List Char)
  | [] => [[letter]]
  | line :: lines => (letter :: line) :: lines

/-- `str.splitlines`. -/
def splitLines : List Char → List (List Char)
  | [] => []
  | '\r' :: '\n' :: rest => [] :: splitLines rest
  | letter :: rest =>
    if isLineBoundary letter then [] :: splitLines rest
    else startLine letter (splitLines rest)

/-- `"\n".join(lines) + "\n"`. -/
def joinLines (lines : List (List Char)) : List Char :=
  lines.flatMap fun line => line ++ ['\n']

/-- `line.partition("=")`: the name and the value, or nothing without a separator. -/
def partitionLine : List Char → Option (List Char × List Char)
  | [] => none
  | '=' :: value => some ([], value)
  | letter :: rest => (partitionLine rest).map fun pair => (letter :: pair.1, pair.2)

/-- `f"{name}={value}"`. -/
def envLine (name value : List Char) : List Char :=
  name ++ '=' :: value

def envValues (name : List Char) (lines : List (List Char)) : List (List Char) :=
  lines.filterMap fun line =>
    (partitionLine line).bind fun pair => if pair.1 = name then some pair.2 else none

/-! ## Cutting a written text -/

variable {letter : Char}

theorem splitLines_cons (rest : List Char) (noReturn : letter ≠ '\r') :
    splitLines (letter :: rest) =
      if isLineBoundary letter then [] :: splitLines rest
      else startLine letter (splitLines rest) := by
  rw [splitLines]
  intro next same
  exact absurd same noReturn

variable {lines : List (List Char)}

@[simp] theorem splitLines_newline (rest : List Char) :
    splitLines ('\n' :: rest) = [] :: splitLines rest := by
  rw [splitLines_cons rest (by decide), if_pos (by decide)]

theorem startLine_append {rest : List (List Char)} (some : lines ≠ []) :
    startLine letter (lines ++ rest) = startLine letter lines ++ rest := by
  cases lines with
  | nil => exact absurd rfl some
  | cons => rfl

theorem splitLines_ne_nil (text : List Char) (letter : Char) :
    splitLines (text ++ [letter]) ≠ [] := by
  intro empty
  have length : ∀ text : List Char, splitLines text = [] → text = [] := by
    intro text
    induction text using splitLines.induct with
    | case1 => intro; rfl
    | case2 => simp [splitLines]
    | case3 _ _ noPair boundary =>
      intro none
      rw [splitLines, if_pos boundary] at none
      · cases none
      · exact noPair
    | case4 _ rest noPair inner =>
      intro none
      rw [splitLines, if_neg inner] at none
      · cases lines : splitLines rest <;> rw [lines] at none <;> cases none
      · exact noPair
  have nothing := length _ empty
  simp at nothing

variable {text : List Char}

theorem splitLines_append (noReturn : '\r' ∉ text) (rest : List Char) :
    splitLines (text ++ '\n' :: rest) = splitLines (text ++ ['\n']) ++ splitLines rest := by
  induction text with
  | nil =>
    rw [List.nil_append, List.nil_append, splitLines_newline, splitLines_newline]
    rfl
  | cons letter text ih =>
    rw [List.mem_cons, not_or] at noReturn
    rw [List.cons_append, List.cons_append, splitLines_cons _ (Ne.symm noReturn.1),
      splitLines_cons _ (Ne.symm noReturn.1), ih noReturn.2]
    by_cases boundary : isLineBoundary letter = true
    · rw [if_pos boundary, if_pos boundary, List.cons_append]
    · rw [if_neg boundary, if_neg boundary, startLine_append (splitLines_ne_nil text '\n')]

theorem splitLines_joinLines (noReturn : ∀ line ∈ lines, '\r' ∉ line) :
    splitLines (joinLines lines) = lines.flatMap fun line => splitLines (line ++ ['\n']) := by
  induction lines with
  | nil => rfl
  | cons line _ ih =>
    have here := noReturn line (List.mem_cons_self ..)
    have later := ih fun other member => noReturn other (List.mem_cons_of_mem line member)
    rw [joinLines, List.flatMap_cons, List.flatMap_cons, List.append_assoc, List.singleton_append,
      splitLines_append here, ← later]
    rfl

variable {name : List Char}

theorem splitLines_name (plain : ∀ letter ∈ name, isLineBoundary letter = false)
    (value : List Char) :
    ∃ first lines, splitLines (value ++ ['\n']) = first :: lines ∧
      splitLines (name ++ value ++ ['\n']) = (name ++ first) :: lines := by
  induction name with
  | nil =>
    cases cut : splitLines (value ++ ['\n']) with
    | nil => exact absurd cut (splitLines_ne_nil value '\n')
    | cons first lines => exact ⟨first, lines, rfl, cut⟩
  | cons letter _ ih =>
    obtain ⟨first, lines, cut, named⟩ := ih fun other member =>
      plain other (List.mem_cons_of_mem letter member)
    have inner := plain letter (List.mem_cons_self ..)
    have noReturn : letter ≠ '\r' := by
      rintro rfl
      exact absurd inner (by decide)
    refine ⟨first, lines, cut, ?_⟩
    rw [List.cons_append, List.cons_append, splitLines_cons _ noReturn, inner, named]
    rfl

theorem splitLines_plain (plain : ∀ letter ∈ text, isLineBoundary letter = false) :
    splitLines (text ++ ['\n']) = [text] := by
  obtain ⟨_, _, cut, named⟩ := splitLines_name plain []
  rw [List.nil_append, splitLines_newline, splitLines, List.cons.injEq] at cut
  obtain ⟨rfl, rfl⟩ := cut
  simpa using named

theorem plain_of_mem_splitLines (text : List Char) :
    ∀ line ∈ splitLines text, ∀ letter ∈ line, isLineBoundary letter = false := by
  induction text using splitLines.induct with
  | case1 =>
    rintro _ ⟨⟩
  | case2 _ ih =>
    rw [splitLines]
    rintro line member letter inLine
    rcases List.mem_cons.mp member with rfl | later
    · cases inLine
    · exact ih line later letter inLine
  | case3 _ _ noPair boundary ih =>
    rw [splitLines, if_pos boundary]
    · rintro line member other inLine
      rcases List.mem_cons.mp member with rfl | later
      · cases inLine
      · exact ih line later other inLine
    · exact noPair
  | case4 letter rest noPair inner ih =>
    rw [splitLines, if_neg inner]
    · have isInner : isLineBoundary letter = false := by simpa using inner
      cases cut : splitLines rest with
      | nil =>
        intro line member other inLine
        rw [startLine, List.mem_singleton] at member
        rw [member, List.mem_singleton] at inLine
        rw [inLine, isInner]
      | cons first =>
        rw [cut] at ih
        intro line member other inLine
        rcases List.mem_cons.mp member with rfl | later
        · rcases List.mem_cons.mp inLine with rfl | inFirst
          · exact isInner
          · exact ih first (List.mem_cons_self ..) other inFirst
        · exact ih line (List.mem_cons_of_mem _ later) other inLine
    · exact noPair

/-! ## Names and values -/

theorem partitionLine_cons (rest : List Char) (inner : letter ≠ '=') :
    partitionLine (letter :: rest) =
      (partitionLine rest).map fun pair => (letter :: pair.1, pair.2) := by
  rw [partitionLine]
  exact inner

theorem partitionLine_envLine (plain : '=' ∉ name) (value : List Char) :
    partitionLine (envLine name value) = some (name, value) := by
  induction name with
  | nil => rfl
  | cons _ _ ih =>
    rw [List.mem_cons, not_or] at plain
    rw [envLine, List.cons_append, partitionLine_cons _ (Ne.symm plain.1)]
    rw [envLine] at ih
    rw [ih plain.2, Option.map_some]

theorem value_subset_of_partitionLine {line : List Char} {pair : List Char × List Char}
    (parts : partitionLine line = some pair) : pair.2 ⊆ line := by
  induction line generalizing pair with
  | nil => cases parts
  | cons letter rest ih =>
    by_cases separator : letter = '='
    · rw [separator, partitionLine, Option.some.injEq] at parts
      subst parts
      exact List.subset_cons_self letter rest
    · rw [partitionLine_cons rest separator, Option.map_eq_some_iff] at parts
      obtain ⟨inner, later, rfl⟩ := parts
      have below : inner.2 ⊆ rest := ih later
      exact List.subset_cons_of_subset letter below

theorem mem_envValues {value : List Char}
    (member : value ∈ envValues name lines) : ∃ line ∈ lines, value ⊆ line := by
  obtain ⟨line, isLine, cut⟩ := List.mem_filterMap.mp member
  obtain ⟨_, parts, named⟩ := Option.bind_eq_some_iff.mp cut
  rw [Option.ite_none_right_eq_some, Option.some.injEq] at named
  obtain ⟨-, rfl⟩ := named
  exact ⟨line, isLine, value_subset_of_partitionLine parts⟩

theorem envValues_append (name : List Char) (first second : List (List Char)) :
    envValues name (first ++ second) = envValues name first ++ envValues name second :=
  List.filterMap_append ..

end Foundry
