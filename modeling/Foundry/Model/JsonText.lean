import Foundry.Model.Payloads

/-!
# JSON text

`json.dumps` with `ensure_ascii`, compact separators and `sort_keys`: the text of a
JSON value.  An object spells its members in the order the value lists them, which is
the key order.
-/

set_option autoImplicit false

namespace Foundry

namespace Json

def hexDigit (value : Nat) : Char :=
  "0123456789abcdef".toList.getD value '0'

/-- One `\uXXXX` escape. -/
def escapeUnit (unit : Nat) : List Char :=
  ['\\', 'u', hexDigit (unit / 4096 % 16), hexDigit (unit / 256 % 16),
    hexDigit (unit / 16 % 16), hexDigit (unit % 16)]

/-- `ESCAPE_ASCII`: the characters that are not printable ASCII, the quote and the
backslash are escaped, and a character outside the basic plane is a surrogate pair. -/
def escapeChar (letter : Char) : List Char :=
  if letter = '"' then ['\\', '"']
  else if letter = '\\' then ['\\', '\\']
  else if letter = '\n' then ['\\', 'n']
  else if letter = '\r' then ['\\', 'r']
  else if letter = '\t' then ['\\', 't']
  else if letter.toNat = 8 then ['\\', 'b']
  else if letter.toNat = 12 then ['\\', 'f']
  else if 32 ≤ letter.toNat ∧ letter.toNat ≤ 126 then [letter]
  else if letter.toNat < 65536 then escapeUnit letter.toNat
  else
    escapeUnit (55296 + (letter.toNat - 65536) / 1024) ++
      escapeUnit (56320 + (letter.toNat - 65536) % 1024)

def quoted (text : String) : List Char :=
  '"' :: (text.toList.flatMap escapeChar ++ ['"'])

mutual

def spell : Json → List Char
  | .null => "null".toList
  | .bool true => "true".toList
  | .bool false => "false".toList
  | .int value => (toString value).toList
  | .float literal => literal.toList
  | .str value => quoted value
  | .arr items => '[' :: (spellItems items ++ [']'])
  | .obj members => '{' :: (spellMembers members ++ ['}'])

def spellItems : List Json → List Char
  | [] => []
  | [item] => spell item
  | item :: next :: rest => spell item ++ ',' :: spellItems (next :: rest)

def spellMembers : List (String × Json) → List Char
  | [] => []
  | [(name, value)] => quoted name ++ ':' :: spell value
  | (name, value) :: next :: rest =>
    quoted name ++ ':' :: (spell value ++ ',' :: spellMembers (next :: rest))

end

/-- `len(json.dumps(value).encode())`: the text is ASCII. -/
def size (value : Json) : Nat :=
  value.spell.length

/-- A member list without repeated names, and what `dict` reads of it. -/
def keys : Json → List String
  | .obj members => members.map Prod.fst
  | _ => []

/-- `name in value`. -/
def has (name : String) (value : Json) : Bool :=
  value.keys.contains name

/-- `set(value) == {...}` of an object. -/
def hasExactly (names : List String) (value : Json) : Bool :=
  value.keys.all (· ∈ names) && names.all (· ∈ value.keys)

/-! ## Escaped text -/

end Json

end Foundry
