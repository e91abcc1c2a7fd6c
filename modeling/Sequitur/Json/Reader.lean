import Sequitur.Json.Basic
import Sequitur.Text.Hex
import Sequitur.Text.Symbol

/-!
# Reading JSON

Strict JSON: no comments, no trailing commas, no byte-order mark, blanks only where the grammar has
them and only the four that it knows, and nothing after the value.

The reader is liberal in three ways, so that whoever looks at the value may decide.  Nesting has no
limit, a number may have any size, and a string literal may denote no text, be it for a surrogate
without a partner or for a byte that belongs to no character.

## What is here

* `Json.read?` — the value that a text spells, with `Json.readText?` for a text without strays.
-/

set_option autoImplicit false

namespace Sequitur

namespace Json

/-! ## Blanks and words -/

/-- The four characters that may stand between tokens. -/
def isSpace : Symbol → Bool
  | .char c => c = ' ' || c = '\t' || c = '\n' || c = '\r'
  | .stray _ => false

/-- The text from the first symbol that is not a blank. -/
def skipSpace (s : List Symbol) : List Symbol :=
  s.dropWhile isSpace

/-- The text after a word that it begins with. -/
def word? (w : List Char) (s : List Symbol) : Option (List Symbol) :=
  if (w.map Symbol.char).isPrefixOf s then some (s.drop w.length) else none

/-! ## String literals -/

/-- One element of a string literal: a character, the code unit of a `\u` escape, or a stray. -/
inductive Piece where
  | char (c : Char)
  | unit (value : Nat)
  | stray
  deriving DecidableEq

/-- The value of a hexadecimal digit of either case. -/
def hexValue? : Symbol → Option Nat
  | .stray _ => none
  | .char c => (Text.hexDigit? c).map Fin.val

/-- The character of an escape by one letter. -/
def escapeLetter? : Char → Option Char
  | '"' => some '"'
  | '\\' => some '\\'
  | '/' => some '/'
  | 'b' => some '\x08'
  | 'f' => some '\x0c'
  | 'n' => some '\n'
  | 'r' => some '\r'
  | 't' => some '\t'
  | _ => none

/-- The pieces of a string literal from behind its opening quotation mark, and the text behind the
closing one. -/
def pieces? : List Symbol → Option (List Piece × List Symbol)
  | [] => none
  | .char '"' :: rest => some ([], rest)
  | .char '\\' :: .char 'u' :: a :: b :: c :: d :: rest => do
    let n := ((((← hexValue? a) * 16) + (← hexValue? b)) * 16 + (← hexValue? c)) * 16 +
      (← hexValue? d)
    let (ps, after) ← pieces? rest
    some (.unit n :: ps, after)
  | .char '\\' :: .char e :: rest => do
    let c ← escapeLetter? e
    let (ps, after) ← pieces? rest
    some (.char c :: ps, after)
  | .char '\\' :: _ => none
  | .char c :: rest =>
    if c.toNat < 0x20 then none
    else do
      let (ps, after) ← pieces? rest
      some (.char c :: ps, after)
  | .stray _ :: rest => do
    let (ps, after) ← pieces? rest
    some (.stray :: ps, after)

/-- Whether a code unit is the first half of a pair. -/
def isHighSurrogate (n : Nat) : Bool :=
  0xD800 ≤ n && n < 0xDC00

/-- Whether a code unit is the second half of a pair. -/
def isLowSurrogate (n : Nat) : Bool :=
  0xDC00 ≤ n && n < 0xE000

/-- The characters that the pieces of a literal denote, if they denote any. -/
def pieceChars? : List Piece → Option (List Char)
  | [] => some []
  | .char c :: rest => do some (c :: (← pieceChars? rest))
  | .stray :: _ => none
  | .unit n :: .unit m :: rest =>
    if isHighSurrogate n then
      if isLowSurrogate m then do
        some (Char.ofNat (0x10000 + (n - 0xD800) * 0x400 + (m - 0xDC00)) :: (← pieceChars? rest))
      else none
    else if isLowSurrogate n then none
    else do some (Char.ofNat n :: (← pieceChars? (.unit m :: rest)))
  | .unit n :: rest =>
    if isHighSurrogate n || isLowSurrogate n then none
    else do some (Char.ofNat n :: (← pieceChars? rest))

/-- A string literal from behind its opening quotation mark. -/
def literal? (s : List Symbol) : Option (Option String × List Symbol) := do
  let (ps, rest) ← pieces? s
  some ((pieceChars? ps).map String.ofList, rest)

/-! ## Numbers -/

/-- Whether a symbol is a decimal digit. -/
def isDigit : Symbol → Bool
  | .char c => '0' ≤ c && c ≤ '9'
  | .stray _ => false

/-- The digits at the head of a text, and the text behind them. -/
def digits (s : List Symbol) : List Char × List Symbol :=
  ((s.takeWhile isDigit).filterMap Symbol.char?, s.dropWhile isDigit)

/-- The digits before the point: a single zero, or digits that do not begin with a zero. -/
def whole? (s : List Symbol) : Option (List Char × List Symbol) :=
  match digits s with
  | ([], _) => none
  | ('0' :: _ :: _, _) => none
  | (ds, rest) => some (ds, rest)

/-- The point and the digits behind it, of which there is at least one; or nothing. -/
def fraction? (s : List Symbol) : Option (List Char × List Symbol) :=
  match s with
  | .char '.' :: rest =>
    match digits rest with
    | ([], _) => none
    | (ds, rest) => some (ds, rest)
  | _ => some ([], s)

/-- The digits of an exponent, of which there is at least one. -/
def exponentDigits? (negative : Bool) (s : List Symbol) :
    Option (Option (Bool × List Char) × List Symbol) :=
  match digits s with
  | ([], _) => none
  | (ds, rest) => some (some (negative, ds), rest)

/-- The exponent, or nothing. -/
def exponent? (s : List Symbol) : Option (Option (Bool × List Char) × List Symbol) :=
  match s with
  | .char e :: rest =>
    if e = 'e' ∨ e = 'E' then
      match rest with
      | .char '+' :: rest => exponentDigits? false rest
      | .char '-' :: rest => exponentDigits? true rest
      | rest => exponentDigits? false rest
    else some (none, s)
  | _ => some (none, s)

/-- A number after its sign. -/
def unsigned? (negative : Bool) (s : List Symbol) : Option (Numeral × List Symbol) := do
  let (whole, rest) ← whole? s
  let (fraction, rest) ← fraction? rest
  let (exponent, rest) ← exponent? rest
  some ({ negative, whole, fraction, exponent }, rest)

/-- A number. -/
def numeral? : List Symbol → Option (Numeral × List Symbol)
  | .char '-' :: rest => unsigned? true rest
  | s => unsigned? false s

/-! ## Values -/

mutual
/-- A value at the head of a text, blanks in front allowed, and the text behind it.  The number
bounds the depth of the search and is at most used up by one per symbol and token. -/
def value? : Nat → List Symbol → Option (Json × List Symbol)
  | 0, _ => none
  | bound + 1, s =>
    match skipSpace s with
    | .char '[' :: rest =>
      match skipSpace rest with
      | .char ']' :: rest => some (.array [], rest)
      | rest => do
        let (items, rest) ← items? bound rest
        some (.array items, rest)
    | .char '\x7b' :: rest =>
      match skipSpace rest with
      | .char '\x7d' :: rest => some (.object [], rest)
      | rest => do
        let (members, rest) ← members? bound rest
        some (.object members, rest)
    | .char '"' :: rest => do
      let (content, rest) ← literal? rest
      some (.string content, rest)
    | .char 'n' :: rest => (word? ['u', 'l', 'l'] rest).map fun rest ↦ (.null, rest)
    | .char 't' :: rest => (word? ['r', 'u', 'e'] rest).map fun rest ↦ (.bool true, rest)
    | .char 'f' :: rest => (word? ['a', 'l', 's', 'e'] rest).map fun rest ↦ (.bool false, rest)
    | s => (numeral? s).map fun (n, rest) ↦ (.number n, rest)

/-- The items of an array that is not empty, with the closing bracket. -/
def items? : Nat → List Symbol → Option (List Json × List Symbol)
  | 0, _ => none
  | bound + 1, s => do
    let (item, rest) ← value? bound s
    match skipSpace rest with
    | .char ',' :: rest =>
      let (items, rest) ← items? bound rest
      some (item :: items, rest)
    | .char ']' :: rest => some ([item], rest)
    | _ => none

/-- The members of an object that is not empty, with the closing brace. -/
def members? : Nat → List Symbol → Option (List (Option String × Json) × List Symbol)
  | 0, _ => none
  | bound + 1, s =>
    match skipSpace s with
    | .char '"' :: rest => do
      let (key, rest) ← literal? rest
      match skipSpace rest with
      | .char ':' :: rest =>
        let (value, rest) ← value? bound rest
        match skipSpace rest with
        | .char ',' :: rest =>
          let (members, rest) ← members? bound rest
          some ((key, value) :: members, rest)
        | .char '\x7d' :: rest => some ([(key, value)], rest)
        | _ => none
      | _ => none
    | _ => none
end

/-- The value that a text spells, with nothing but blanks around it. -/
def read? (s : List Symbol) : Option Json := do
  let (j, rest) ← value? (2 * s.length + 2) s
  if (skipSpace rest).isEmpty then some j else none

/-- The value that a text without strays spells. -/
def readText? (s : String) : Option Json :=
  read? (Symbol.ofString s)

end Json

end Sequitur
