import Sequitur.Json.Basic

/-!
# Writing JSON

Two layouts: compact, without any blank, and pretty, with one item or member per line and two
spaces for each level.  Empty arrays and objects stay on one line in both.

In a string literal the quotation mark, the backslash and the control characters below U+0020 are
escaped, the latter by a letter where JSON has one and by four lower-case digits where it has none.
Every other character stands for itself.

## What is here

* `Json.compact`, `Json.pretty`.
-/

set_option autoImplicit false

namespace Sequitur

namespace Json

/-! ## Literals -/

/-- A lower-case hexadecimal digit. -/
def hexDigit (n : Nat) : Char :=
  Nat.digitChar (n % 16)

/-- One character of a string literal. -/
def escape (c : Char) : List Char :=
  if c = '"' then ['\\', '"']
  else if c = '\\' then ['\\', '\\']
  else if c = '\x08' then ['\\', 'b']
  else if c = '\x0c' then ['\\', 'f']
  else if c = '\n' then ['\\', 'n']
  else if c = '\r' then ['\\', 'r']
  else if c = '\t' then ['\\', 't']
  else if c.toNat < 0x20 then
    ['\\', 'u', '0', '0', hexDigit (c.toNat / 16), hexDigit c.toNat]
  else [c]

/-- A string literal.  What denotes no text is written as a surrogate without its partner. -/
def literal : Option String → List Char
  | some s => '"' :: (s.toList.flatMap escape ++ ['"'])
  | none => "\"\\ud800\"".toList

/-- A number with the digits it has. -/
def Numeral.chars (n : Numeral) : List Char :=
  (if n.negative then ['-'] else []) ++ n.whole ++
    (if n.fraction.isEmpty then [] else '.' :: n.fraction) ++
    (match n.exponent with
      | none => []
      | some (negative, digits) => 'e' :: ((if negative then ['-'] else []) ++ digits))

/-! ## Compact -/

mutual
/-- A value without blanks. -/
def compactChars : Json → List Char
  | null => "null".toList
  | bool true => "true".toList
  | bool false => "false".toList
  | number n => n.chars
  | string s => literal s
  | array items => '[' :: (compactItems items ++ [']'])
  | object members => '\x7b' :: (compactMembers members ++ ['\x7d'])

/-- The items of an array, separated by commas. -/
def compactItems : List Json → List Char
  | [] => []
  | [j] => compactChars j
  | j :: rest => compactChars j ++ ',' :: compactItems rest

/-- The members of an object, separated by commas. -/
def compactMembers : List (Option String × Json) → List Char
  | [] => []
  | [(k, j)] => literal k ++ ':' :: compactChars j
  | (k, j) :: rest => literal k ++ ':' :: (compactChars j ++ ',' :: compactMembers rest)
end

/-- A value on one line, without blanks. -/
def compact (j : Json) : String :=
  String.ofList (compactChars j)

/-! ## Pretty -/

/-- A new line at a level. -/
def newLine (level : Nat) : List Char :=
  '\n' :: List.replicate (2 * level) ' '

mutual
/-- A value with its inner lines at the levels below `level`. -/
def prettyChars (level : Nat) : Json → List Char
  | null => "null".toList
  | bool true => "true".toList
  | bool false => "false".toList
  | number n => n.chars
  | string s => literal s
  | array [] => "[]".toList
  | array (j :: rest) =>
    '[' :: (prettyItems (level + 1) (j :: rest) ++ newLine level ++ [']'])
  | object [] => "\x7b\x7d".toList
  | object (m :: rest) =>
    '\x7b' :: (prettyMembers (level + 1) (m :: rest) ++ newLine level ++ ['\x7d'])

/-- The items of an array, each on a line of its own. -/
def prettyItems (level : Nat) : List Json → List Char
  | [] => []
  | [j] => newLine level ++ prettyChars level j
  | j :: rest => newLine level ++ prettyChars level j ++ ',' :: prettyItems level rest

/-- The members of an object, each on a line of its own. -/
def prettyMembers (level : Nat) : List (Option String × Json) → List Char
  | [] => []
  | [(k, j)] => newLine level ++ literal k ++ ':' :: ' ' :: prettyChars level j
  | (k, j) :: rest =>
    newLine level ++ literal k ++ ':' :: ' ' :: (prettyChars level j ++
      ',' :: prettyMembers level rest)
end

/-- A value laid out over lines, two spaces for each level, without a newline at the end. -/
def pretty (j : Json) : String :=
  String.ofList (prettyChars 0 j)

end Json

end Sequitur
