import Sequitur.Text.Hex
import Sequitur.Text.Symbol

/-!
# Percent-encoding

In a URL a byte can be written as a percent sign and two hexadecimal digits.  Which characters have
to be written so depends on the part of the URL: controls and everything outside ASCII always, and
a set of ASCII characters that grows from the fragment to the user name.

## What is here

* `Percent.encode`, with the sets for each part of a URL.
* `Percent.decode` — the text that is meant, if the bytes spell one.
-/

set_option autoImplicit false

namespace Sequitur

namespace Percent

/-! ## What is encoded -/

/-- Whether a character is a control character of ASCII or lies outside ASCII. -/
def isControl (c : Char) : Bool :=
  c.toNat < 0x20 || 0x7E < c.toNat

/-- A control character, or one of the given characters. -/
def isControlOr (extra : List Char) (c : Char) : Bool :=
  isControl c || extra.contains c

/-- What is encoded in a fragment. -/
def inFragment : Char → Bool :=
  isControlOr [' ', '"', '<', '>', '`']

/-- What is encoded in a path. -/
def inPath : Char → Bool :=
  isControlOr [' ', '"', '<', '>', '`', '#', '?', '\x7b', '\x7d']

/-- What is encoded in a user name or a password. -/
def inUserinfo : Char → Bool :=
  isControlOr [' ', '"', '<', '>', '`', '#', '?', '\x7b', '\x7d',
    '/', ':', ';', '=', '@', '[', '\\', ']', '^', '|']

/-- What is encoded in the query of a URL with a scheme of no special meaning. -/
def inQuery : Char → Bool :=
  isControlOr [' ', '"', '#', '<', '>']

/-- What is encoded in the query of a URL with a scheme such as `http`. -/
def inSpecialQuery : Char → Bool :=
  isControlOr [' ', '"', '#', '<', '>', '\'']

/-! ## Encoding -/

/-- A byte as a percent sign and two digits. -/
def encodeByte (b : UInt8) : List Char :=
  ['%', (Text.hexChar (Text.hexDigit (b.toNat / 16))).toUpper,
    (Text.hexChar (Text.hexDigit b.toNat)).toUpper]

/-- The characters with those of a set written byte by byte. -/
def encode (isEncoded : Char → Bool) (cs : List Char) : List Char :=
  cs.flatMap fun c ↦ if isEncoded c then (String.utf8EncodeChar c).flatMap encodeByte else [c]

/-! ## Decoding -/

/-- The bytes that are meant; a percent sign without two digits behind it means itself. -/
def decodeBytes : List Char → List UInt8
  | [] => []
  | '%' :: a :: b :: cs =>
    match Text.hexDigit? a, Text.hexDigit? b with
    | some m, some n => UInt8.ofNat (16 * m.val + n.val) :: decodeBytes cs
    | _, _ => '%'.toUInt8 :: decodeBytes (a :: b :: cs)
  | c :: cs => String.utf8EncodeChar c ++ decodeBytes cs

/-- The characters that are meant, if the bytes spell characters. -/
def decode? (cs : List Char) : Option (List Char) :=
  (Symbol.ofBytes (decodeBytes cs)).mapM Symbol.char?

end Percent

end Sequitur
