import Foundry.Lib.Codes
import Foundry.Model.JsonText

/-!
# Canonical text

`json.dumps` with `allow_nan` off prints the values whose numbers have a text; from that text the
value can be told.
-/

set_option autoImplicit false

namespace Foundry

open Code

namespace Json

/-! ## What can be printed -/

def isNumberLetter (letter : Char) : Bool :=
  letter.isDigit || letter = '-' || letter = '+' || letter = '.' || letter = 'e'

/-- The `repr` of a float that is neither NaN nor infinite; a point or an exponent tells it from an
integer. -/
def isFiniteFloat (literal : String) : Bool :=
  (literal.toList.head?.any fun letter => letter.isDigit || letter = '-') &&
    literal.toList.all isNumberLetter &&
    literal.toList.any fun letter => letter = '.' || letter = 'e'

/-- `sys.int_info.default_max_str_digits`: `repr` raises for a longer integer. -/
def maxIntDigits : Nat := 4300

mutual

/-- `json.dumps` does not raise. -/
def isPrintable : Json → Bool
  | .null | .bool _ | .str _ => true
  | .int value => (Nat.toDigits 10 value.natAbs).length ≤ maxIntDigits
  | .float literal => isFiniteFloat literal
  | .arr items => itemsPrintable items
  | .obj members => membersPrintable members

def itemsPrintable : List Json → Bool
  | [] => true
  | item :: rest => isPrintable item && itemsPrintable rest

def membersPrintable : List (String × Json) → Bool
  | [] => true
  | (_, value) :: rest => isPrintable value && membersPrintable rest

end

/-! ## Strings -/

def hexValue (letter : Char) : Nat :=
  "0123456789abcdef".toList.idxOf letter

variable {value : Nat}

theorem hexValue_hexDigit (small : value < 16) : hexValue (hexDigit value) = value := by
  revert value
  decide

def unitValue (first second third fourth : Char) : Nat :=
  hexValue first * 4096 + hexValue second * 256 + hexValue third * 16 + hexValue fourth

theorem unitValue_hexDigit {unit : Nat} (small : unit < 65536) :
    unitValue (hexDigit (unit / 4096 % 16)) (hexDigit (unit / 256 % 16))
      (hexDigit (unit / 16 % 16)) (hexDigit (unit % 16)) = unit := by
  have small' (value : Nat) : value % 16 < 16 := Nat.mod_lt _ (by decide)
  simp only [unitValue, hexValue_hexDigit (small' _)]
  omega

def readLetter : List Char → Option (Char × List Char)
  | '\\' :: 'u' :: a :: b :: c :: d :: rest =>
    let high := unitValue a b c d
    if 55296 ≤ high ∧ high < 56320 then
      match rest with
      | '\\' :: 'u' :: a :: b :: c :: d :: rest =>
        some (Char.ofNat (65536 + (high - 55296) * 1024 + (unitValue a b c d - 56320)), rest)
      | _ => none
    else some (Char.ofNat high, rest)
  | '\\' :: 'n' :: rest => some ('\n', rest)
  | '\\' :: 'r' :: rest => some ('\r', rest)
  | '\\' :: 't' :: rest => some ('\t', rest)
  | '\\' :: 'b' :: rest => some (Char.ofNat 8, rest)
  | '\\' :: 'f' :: rest => some (Char.ofNat 12, rest)
  | '\\' :: letter :: rest => some (letter, rest)
  | letter :: rest => some (letter, rest)
  | [] => none

theorem readLetter_escapeChar (letter : Char) (rest : List Char) :
    readLetter (escapeChar letter ++ rest) = some (letter, rest) := by
  have valid : letter.toNat < 55296 ∨ 57343 < letter.toNat ∧ letter.toNat < 1114112 :=
    letter.valid
  unfold escapeChar
  split_ifs with quote backslash newline carriage tab backspace feed printable basic
  · subst quote
    rfl
  · subst backslash
    rfl
  · subst newline
    rfl
  · subst carriage
    rfl
  · subst tab
    rfl
  · have same : Char.ofNat 8 = letter := by rw [← backspace, Char.ofNat_toNat]
    subst same
    rfl
  · have same : Char.ofNat 12 = letter := by rw [← feed, Char.ofNat_toNat]
    subst same
    rfl
  · rw [List.singleton_append, readLetter.eq_def]
    split <;> simp_all
  · have unit := unitValue_hexDigit basic
    have plain : ¬ (55296 ≤ letter.toNat ∧ letter.toNat < 56320) := by omega
    simp only [escapeUnit, List.cons_append, List.nil_append, readLetter, unit, plain, if_false,
      Char.ofNat_toNat]
  · have high := @unitValue_hexDigit (55296 + (letter.toNat - 65536) / 1024) (by omega)
    have low := @unitValue_hexDigit (56320 + (letter.toNat - 65536) % 1024) (by omega)
    have surrogate : 55296 ≤ 55296 + (letter.toNat - 65536) / 1024 ∧
        55296 + (letter.toNat - 65536) / 1024 < 56320 := by omega
    have whole : 65536 + (55296 + (letter.toNat - 65536) / 1024 - 55296) * 1024 +
        (56320 + (letter.toNat - 65536) % 1024 - 56320) = letter.toNat := by omega
    simp only [escapeUnit, List.cons_append, List.nil_append, readLetter, high, surrogate, low,
      whole, and_self, if_true, Char.ofNat_toNat]

theorem escapeChar_head (letter : Char) :
    ∃ head rest, escapeChar letter = head :: rest ∧ head ≠ '"' := by
  unfold escapeChar
  split_ifs with quote
  -- A printable letter stands for itself; every other begins with a backslash.
  all_goals first
    | exact ⟨'\\', _, rfl, by decide⟩
    | exact ⟨letter, [], rfl, quote⟩

theorem quoted_delimits : Delimits (fun _ => True) quoted := by
  intro left right after later _ _ same
  have letters := (Delimits.of_reader readLetter readLetter_escapeChar).flatMap_stop
    escapeChar_head
  have inner : (left.toList.flatMap escapeChar ++ ['"']) ++ after =
      (right.toList.flatMap escapeChar ++ ['"']) ++ later := (List.cons.inj same).2
  obtain ⟨spelled, rest⟩ := letters trivial trivial inner
  exact ⟨String.toList_inj.mp spelled, rest⟩

/-! ## Numbers -/

theorem toList_toString_int (value : Int) :
    (toString value).toList =
      if 0 ≤ value then Nat.toDigits 10 value.toNat
      else '-' :: Nat.toDigits 10 (-value).toNat := by
  rw [Int.toString_eq_repr, Int.repr_eq_if]
  split
  · exact Nat.toList_repr
  · rw [String.toList_append, Nat.toList_repr]
    rfl

theorem isDigit_of_mem_toDigits {letter : Char}
    (member : letter ∈ Nat.toDigits 10 value) : letter.isDigit = true :=
  Nat.isDigit_of_mem_toDigits (by decide) (by decide) member

theorem toDigits_injective : Function.Injective (Nat.toDigits 10) := by
  intro left right same
  rw [← @Nat.ofDigitChars_ten_toDigits left, same, Nat.ofDigitChars_ten_toDigits]

theorem int_letters {value : Int} {letter : Char} (member : letter ∈ (toString value).toList) :
    letter.isDigit = true ∨ letter = '-' := by
  rw [toList_toString_int] at member
  split at member
  · exact .inl (isDigit_of_mem_toDigits member)
  · rcases List.mem_cons.mp member with sign | digit
    · exact .inr sign
    · exact .inl (isDigit_of_mem_toDigits digit)

theorem toDigits_head_ne_minus (value : Nat) (rest : List Char) :
    Nat.toDigits 10 value ≠ '-' :: rest := by
  intro same
  have digit := @isDigit_of_mem_toDigits value '-' (by rw [same]; exact List.mem_cons_self)
  exact absurd digit (by decide)

theorem int_text_injective {left right : Int}
    (same : (toString left).toList = (toString right).toList) : left = right := by
  rw [toList_toString_int, toList_toString_int] at same
  split at same <;> split at same
  · have digits := toDigits_injective same
    omega
  · exact absurd same (toDigits_head_ne_minus _ _)
  · exact absurd same.symm (toDigits_head_ne_minus _ _)
  · have digits := toDigits_injective (List.cons.inj same).2
    omega

/-! ## Values -/

inductive Lead where
  | null
  | true
  | false
  | number
  | text
  | list
  | object
deriving DecidableEq

def lead : Json → Lead
  | .null => .null
  | .bool Bool.true => .true
  | .bool Bool.false => .false
  | .int _ | .float _ => .number
  | .str _ => .text
  | .arr _ => .list
  | .obj _ => .object

def leadOf (letter : Char) : Lead :=
  if letter = 'n' then .null
  else if letter = 't' then .true
  else if letter = 'f' then .false
  else if letter = '"' then .text
  else if letter = '[' then .list
  else if letter = '\x7b' then .object
  else .number

theorem leadOf_number {letter : Char} (number : isNumberLetter letter = true) :
    leadOf letter = .number := by
  unfold leadOf
  split_ifs with h1 h2 h3 h4 h5 h6
  all_goals first
    | rfl
    | (subst letter; exact absurd number (by decide))

variable {value : Json}

theorem spell_number (number : value.lead = .number) (printable : value.isPrintable = true) :
    value.spell ≠ [] ∧ ∀ letter ∈ value.spell, isNumberLetter letter = true := by
  cases value with
  | int =>
    constructor
    · rw [spell, toList_toString_int]
      split
      · exact Nat.toDigits_ne_nil
      · exact List.cons_ne_nil _ _
    · intro letter member
      rcases int_letters member with digit | sign
      · simp [isNumberLetter, digit]
      · simp [isNumberLetter, sign]
  | float =>
    simp only [isPrintable, isFiniteFloat, Bool.and_eq_true, List.all_eq_true] at printable
    obtain ⟨⟨begun, letters⟩, _⟩ := printable
    refine ⟨?_, letters⟩
    intro empty
    rw [spell] at empty
    rw [empty] at begun
    cases begun
  | bool value => cases value <;> cases number
  | null | str | arr | obj => cases number

theorem spell_head (printable : value.isPrintable = true) :
    ∃ head rest, value.spell = head :: rest ∧ leadOf head = value.lead := by
  by_cases number : value.lead = .number
  · obtain ⟨nonempty, letters⟩ := spell_number number printable
    obtain ⟨head, rest, word⟩ := List.exists_cons_of_ne_nil nonempty
    refine ⟨head, rest, word, ?_⟩
    rw [number]
    exact leadOf_number (letters head (by rw [word]; exact List.mem_cons_self))
  · cases value with
    | null => exact ⟨'n', _, rfl, rfl⟩
    | bool value =>
      cases value with
      | true => exact ⟨'t', _, rfl, rfl⟩
      | false => exact ⟨'f', _, rfl, rfl⟩
    | int | float => exact absurd rfl number
    | str => exact ⟨'"', _, rfl, rfl⟩
    | arr => exact ⟨'[', _, rfl, rfl⟩
    | obj => exact ⟨'\x7b', _, rfl, rfl⟩

theorem int_ne_float {value : Int} {literal : String} (finite : isFiniteFloat literal = true) :
    (toString value).toList ≠ literal.toList := by
  intro same
  simp only [isFiniteFloat, Bool.and_eq_true, List.any_eq_true, Bool.or_eq_true,
    decide_eq_true_eq] at finite
  obtain ⟨_, _, member, mark⟩ := finite
  rw [← same] at member
  rcases int_letters member with digit | sign
  · rcases mark with rfl | rfl <;> exact absurd digit (by decide)
  · rcases mark with rfl | rfl <;> cases sign

theorem number_inj {left right : Json} (lefts : left.lead = .number) (rights : right.lead = .number)
    (printable : left.isPrintable = true) (printed : right.isPrintable = true)
    (same : left.spell = right.spell) : left = right := by
  cases left with
  | int value =>
    cases right with
    | int => rw [int_text_injective same]
    | float => exact absurd same (int_ne_float printed)
    | bool value => cases value <;> cases rights
    | null | str | arr | obj => cases rights
  | float =>
    cases right with
    | int => exact absurd same.symm (int_ne_float printable)
    | float => rw [String.toList_inj.mp same]
    | bool value => cases value <;> cases rights
    | null | str | arr | obj => cases rights
  | bool value => cases value <;> cases lefts
  | null | str | arr | obj => cases lefts

section

variable {left right : Json} {after later : List Char}

theorem lead_eq (printable : left.isPrintable = true)
    (printed : right.isPrintable = true) (same : left.spell ++ after = right.spell ++ later) :
    left.lead = right.lead := by
  obtain ⟨_, _, word, leads⟩ := spell_head printable
  obtain ⟨_, _, spelled, led⟩ := spell_head printed
  rw [word, spelled, List.cons_append, List.cons_append, List.cons.injEq] at same
  rw [← leads, ← led, same.1]

theorem number_delimits (number : left.lead = .number) (printable : left.isPrintable = true)
    (printed : right.isPrintable = true) (ended : Closes isNumberLetter after)
    (closed : Closes isNumberLetter later) (same : left.spell ++ after = right.spell ++ later) :
    left = right ∧ after = later := by
  have other : right.lead = .number := (lead_eq printable printed same).symm.trans number
  obtain ⟨text, rest⟩ := append_inj_of_closes (spell_number number printable).2
    (spell_number other printed).2 ended closed same
  exact ⟨number_inj number other printable printed text, rest⟩

end

/-- What comes after an item of a list, up to the end of the list. -/
def restOfItems (rest : List Json) : List Char :=
  if rest.isEmpty then [] else ',' :: spellItems rest

theorem spellItems_cons (item : Json) (rest : List Json) :
    spellItems (item :: rest) = item.spell ++ restOfItems rest := by
  cases rest with
  | nil => simp [spellItems, restOfItems]
  | cons => rfl

def restOfMembers (rest : List (String × Json)) : List Char :=
  if rest.isEmpty then [] else ',' :: spellMembers rest

theorem spellMembers_cons (name : String) (value : Json) (rest : List (String × Json)) :
    spellMembers ((name, value) :: rest) =
      quoted name ++ ':' :: (value.spell ++ restOfMembers rest) := by
  cases rest with
  | nil => simp [spellMembers, restOfMembers]
  | cons => rfl

theorem closes_restOfItems (rest : List Json) (after : List Char) :
    Closes isNumberLetter (restOfItems rest ++ ']' :: after) := by
  cases rest with
  | nil | cons => exact closes_cons _ rfl

theorem closes_restOfMembers (rest : List (String × Json)) (after : List Char) :
    Closes isNumberLetter (restOfMembers rest ++ '\x7d' :: after) := by
  cases rest with
  | nil | cons => exact closes_cons _ rfl

variable {after : List Char}

theorem restOfItems_cancel {left right : List Json} {later : List Char}
    (same : restOfItems left ++ ']' :: after = restOfItems right ++ ']' :: later) :
    spellItems left ++ ']' :: after = spellItems right ++ ']' :: later := by
  cases left <;> cases right
  case nil.nil => exact same
  case cons.cons => exact (List.cons.inj same).2
  all_goals exact absurd (List.cons.inj same).1 (by decide)

theorem restOfMembers_cancel {left right : List (String × Json)} {later : List Char}
    (same : restOfMembers left ++ '\x7d' :: after = restOfMembers right ++ '\x7d' :: later) :
    spellMembers left ++ '\x7d' :: after = spellMembers right ++ '\x7d' :: later := by
  cases left <;> cases right
  case nil.nil => exact same
  case cons.cons => exact (List.cons.inj same).2
  all_goals exact absurd (List.cons.inj same).1 (by decide)

theorem spell_ne_close {more : List Char}
    (printable : value.isPrintable = true) : value.spell ++ more ≠ ']' :: after := by
  intro same
  obtain ⟨_, _, word, leads⟩ := spell_head printable
  rw [word, List.cons_append, List.cons.injEq] at same
  rw [same.1] at word leads
  have letter := (spell_number leads.symm printable).2 ']' (by rw [word]; exact List.mem_cons_self)
  exact absurd letter (by decide)

mutual

theorem spell_delimits : ∀ (left right : Json) {after later : List Char},
    left.isPrintable = true → right.isPrintable = true → Closes isNumberLetter after →
    Closes isNumberLetter later → left.spell ++ after = right.spell ++ later →
    left = right ∧ after = later
  | .arr items, right, after, later, printable, printed, _, _, same => by
      have leads := lead_eq printable printed same
      cases right with
      | arr others =>
        simp only [spell, List.cons_append, List.append_assoc, List.nil_append,
          List.cons.injEq, true_and] at same
        obtain ⟨rfl, rest⟩ := items_delimit items others printable printed same
        exact ⟨rfl, rest⟩
      | bool value => cases value <;> cases leads
      | _ => cases leads
  | .obj members, right, after, later, printable, printed, _, _, same => by
      have leads := lead_eq printable printed same
      cases right with
      | obj others =>
        simp only [spell, List.cons_append, List.append_assoc, List.nil_append,
          List.cons.injEq, true_and] at same
        obtain ⟨rfl, rest⟩ := members_delimit members others printable printed same
        exact ⟨rfl, rest⟩
      | bool value => cases value <;> cases leads
      | _ => cases leads
  | .str text, right, after, later, printable, printed, _, _, same => by
      have leads := lead_eq printable printed same
      cases right with
      | str =>
        obtain ⟨rfl, rest⟩ := quoted_delimits trivial trivial same
        exact ⟨rfl, rest⟩
      | bool value => cases value <;> cases leads
      | _ => cases leads
  | .null, right, after, later, printable, printed, _, _, same => by
      have leads := lead_eq printable printed same
      cases right with
      | null => exact ⟨rfl, List.append_cancel_left same⟩
      | bool value => cases value <;> cases leads
      | _ => cases leads
  | .bool value, right, after, later, printable, printed, _, _, same => by
      have leads := lead_eq printable printed same
      cases right with
      | bool other =>
        cases value <;> cases other
        case false.false | true.true => exact ⟨rfl, List.append_cancel_left same⟩
        all_goals cases leads
      | _ => cases value <;> cases leads
  | .int value, right, after, later, printable, printed, ended, closed, same =>
    number_delimits rfl printable printed ended closed same
  | .float literal, right, after, later, printable, printed, ended, closed, same =>
    number_delimits rfl printable printed ended closed same

theorem items_delimit : ∀ (left right : List Json) {after later : List Char},
    itemsPrintable left = true → itemsPrintable right = true →
    spellItems left ++ ']' :: after = spellItems right ++ ']' :: later →
    left = right ∧ after = later
  | [], [], _, _, _, _, same => ⟨rfl, (List.cons.inj same).2⟩
  | [], other :: others, after, later, _, printed, same => by
      rw [itemsPrintable, Bool.and_eq_true] at printed
      rw [spellItems_cons, List.append_assoc] at same
      exact absurd same.symm (spell_ne_close printed.1)
  | item :: rest, [], after, later, printable, _, same => by
      rw [itemsPrintable, Bool.and_eq_true] at printable
      rw [spellItems_cons, List.append_assoc] at same
      exact absurd same (spell_ne_close printable.1)
  | item :: rest, other :: others, after, later, printable, printed, same => by
      rw [itemsPrintable, Bool.and_eq_true] at printable printed
      rw [spellItems_cons, spellItems_cons, List.append_assoc, List.append_assoc] at same
      obtain ⟨rfl, tails⟩ := spell_delimits item other printable.1 printed.1
        (closes_restOfItems rest after) (closes_restOfItems others later) same
      obtain ⟨rfl, ends⟩ := items_delimit rest others printable.2 printed.2
        (restOfItems_cancel tails)
      exact ⟨rfl, ends⟩

theorem members_delimit : ∀ (left right : List (String × Json)) {after later : List Char},
    membersPrintable left = true → membersPrintable right = true →
    spellMembers left ++ '\x7d' :: after = spellMembers right ++ '\x7d' :: later →
    left = right ∧ after = later
  | [], [], _, _, _, _, same => ⟨rfl, (List.cons.inj same).2⟩
  | [], (other, shown) :: others, after, later, _, _, same => by
      rw [spellMembers_cons, quoted] at same
      exact absurd (List.cons.inj same).1 (by decide)
  | (name, value) :: rest, [], after, later, _, _, same => by
      rw [spellMembers_cons, quoted] at same
      exact absurd (List.cons.inj same).1 (by decide)
  | (name, value) :: rest, (other, shown) :: others, after, later, printable, printed, same => by
      rw [membersPrintable, Bool.and_eq_true] at printable printed
      rw [spellMembers_cons, spellMembers_cons, List.append_assoc, List.append_assoc] at same
      obtain ⟨rfl, values⟩ := quoted_delimits trivial trivial same
      rw [List.cons_append, List.cons_append, List.cons.injEq, List.append_assoc,
        List.append_assoc] at values
      obtain ⟨rfl, tails⟩ := spell_delimits value shown printable.1 printed.1
        (closes_restOfMembers rest after) (closes_restOfMembers others later) values.2
      obtain ⟨rfl, ends⟩ := members_delimit rest others printable.2 printed.2
        (restOfMembers_cancel tails)
      exact ⟨rfl, ends⟩

end

theorem spell_injective {left right : Json} (printable : left.isPrintable = true)
    (printed : right.isPrintable = true) (same : left.spell = right.spell) : left = right :=
  (spell_delimits left right printable printed closes_nil closes_nil (by rw [same])).1

end Json

end Foundry
