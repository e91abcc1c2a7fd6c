/-!
# Text out of bytes

A file or a response is a run of bytes, and most but not all of them spell characters.  A `Symbol`
is one character or one byte that belongs to no character, and `Symbol.ofBytes` reads any run of
bytes as symbols: a well-formed UTF-8 sequence becomes its character, and a byte at which none
starts becomes a stray.

Keeping the strays, rather than refusing the text at the first one, lets a reader decide whether
the place where it stands matters.

## What is here

* `Symbol`, `Symbol.ofBytes`, `Symbol.ofString`.
* `Symbol.lossyText` — the text with U+FFFD for what is astray.
-/

set_option autoImplicit false

namespace Sequitur

/-- One character of a text, or one byte that is part of no character. -/
inductive Symbol where
  | char (c : Char)
  | stray (byte : UInt8)
  deriving DecidableEq

namespace Symbol

/-! ## Reading UTF-8 -/

/-- The six payload bits of a continuation byte. -/
def continuation? (b : UInt8) : Option Nat :=
  if 0x80 ≤ b && b < 0xC0 then some (b.toNat - 0x80) else none

/-- The character that starts at the head of the bytes, with the number of bytes that spell it.
Overlong spellings, surrogates and numbers above U+10FFFF spell nothing. -/
def character? : List UInt8 → Option (Char × Nat)
  | [] => none
  | b :: rest =>
    if b < 0x80 then some (Char.ofNat b.toNat, 1)
    else if 0xC2 ≤ b && b < 0xE0 then do
      let c₁ ← rest[0]?.bind continuation?
      some (Char.ofNat ((b.toNat - 0xC0) * 0x40 + c₁), 2)
    else if 0xE0 ≤ b && b < 0xF0 then do
      let c₁ ← rest[0]?.bind continuation?
      let c₂ ← rest[1]?.bind continuation?
      let n := ((b.toNat - 0xE0) * 0x40 + c₁) * 0x40 + c₂
      if 0x800 ≤ n ∧ ¬ (0xD800 ≤ n ∧ n < 0xE000) then some (Char.ofNat n, 3) else none
    else if 0xF0 ≤ b && b < 0xF5 then do
      let c₁ ← rest[0]?.bind continuation?
      let c₂ ← rest[1]?.bind continuation?
      let c₃ ← rest[2]?.bind continuation?
      let n := (((b.toNat - 0xF0) * 0x40 + c₁) * 0x40 + c₂) * 0x40 + c₃
      if 0x10000 ≤ n ∧ n < 0x110000 then some (Char.ofNat n, 4) else none
    else none

/-- The symbols of the bytes; the first `skip` bytes belong to a character already read. -/
def ofBytesFrom : Nat → List UInt8 → List Symbol
  | _, [] => []
  | skip + 1, _ :: rest => ofBytesFrom skip rest
  | 0, b :: rest =>
    match character? (b :: rest) with
    | some (c, n) => .char c :: ofBytesFrom (n - 1) rest
    | none => .stray b :: ofBytesFrom 0 rest

/-- A run of bytes as symbols. -/
def ofBytes (bytes : List UInt8) : List Symbol :=
  ofBytesFrom 0 bytes

/-! ## Texts as symbols -/

/-- A text as symbols, none of them astray. -/
def ofString (s : String) : List Symbol :=
  s.toList.map .char

/-- The character of a symbol. -/
def char? : Symbol → Option Char
  | .char c => some c
  | .stray _ => none

/-- Whether a byte may come second in a character of three or four bytes that begins with `b`. -/
def continues (b second : UInt8) : Bool :=
  if b = 0xE0 then 0xA0 ≤ second && second < 0xC0
  else if b = 0xED then 0x80 ≤ second && second < 0xA0
  else if b = 0xF0 then 0x90 ≤ second && second < 0xC0
  else if b = 0xF4 then 0x80 ≤ second && second < 0x90
  else 0x80 ≤ second && second < 0xC0

/-- How many of the symbols behind a stray byte belong to the same broken-off character. -/
def brokenOff (b : UInt8) : List Symbol → Nat
  | .stray second :: rest =>
    if 0xE0 ≤ b && b < 0xF5 && continues b second then
      match rest with
      | .stray third :: _ => if 0xF0 ≤ b && (continuation? third).isSome then 2 else 1
      | _ => 1
    else 0
  | _ => 0

/-- The characters of symbols of which the first `skip` belong to a broken-off character. -/
def lossyChars : Nat → List Symbol → List Char
  | _, [] => []
  | skip + 1, _ :: rest => lossyChars skip rest
  | 0, .char c :: rest => c :: lossyChars 0 rest
  | 0, .stray b :: rest => '\uFFFD' :: lossyChars (brokenOff b rest) rest

/-- The text that the symbols spell, with one replacement character for each broken-off character
and for each stray byte that is part of none. -/
def lossyText (symbols : List Symbol) : String :=
  String.ofList (lossyChars 0 symbols)

end Symbol

end Sequitur
