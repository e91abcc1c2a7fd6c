import Sequitur.Distinct

/-!
# Punycode

A label of a domain name that has characters outside ASCII is written in ASCII: first its ASCII
characters, then, behind a hyphen, where the others are to be inserted.  The others are taken in the
order of their code points, and each insertion is written as the distance from the one before, in
a number system with digits `a` to `z` and `0` to `9` whose thresholds adapt to the distances seen.

## What is here

* `Punycode.encode`, `Punycode.decode?` — on characters, without the `xn--` in front.
-/

set_option autoImplicit false

namespace Sequitur

namespace Punycode

/-! ## Digits and thresholds -/

/-- The character of a digit below 36. -/
def digitChar (d : Nat) : Char :=
  if d < 26 then Char.ofNat ('a'.toNat + d) else Char.ofNat ('0'.toNat + (d - 26))

/-- The digit of a character of either case. -/
def digit? (c : Char) : Option Nat :=
  if 'a' ≤ c ∧ c ≤ 'z' then some (c.toNat - 'a'.toNat)
  else if 'A' ≤ c ∧ c ≤ 'Z' then some (c.toNat - 'A'.toNat)
  else if '0' ≤ c ∧ c ≤ '9' then some (c.toNat - '0'.toNat + 26)
  else none

/-- The threshold of the digit at a place, places being counted in steps of 36 from 36 on. -/
def threshold (place bias : Nat) : Nat :=
  if place ≤ bias then 1 else if bias + 26 ≤ place then 26 else place - bias

theorem threshold_pos (place bias : Nat) : 0 < threshold place bias := by
  unfold threshold
  split
  · omega
  · split <;> omega

/-- A distance divided by 35 until it is at most 455, with 36 for each division. -/
def settle (distance : Nat) : Nat × Nat :=
  if distance ≤ 455 then (distance, 0)
  else ((settle (distance / 35)).1, (settle (distance / 35)).2 + 36)
termination_by distance

/-- The bias after an insertion: `count` is how many characters there are now. -/
def adapt (distance count : Nat) (isFirst : Bool) : Nat :=
  let scaled := if isFirst then distance / 700 else distance / 2
  let settled := settle (scaled + scaled / count)
  settled.2 + 36 * settled.1 / (settled.1 + 38)

/-! ## Encoding -/

/-- The digits of a distance, from a place on. -/
def encodeDistance (bias place distance : Nat) : List Char :=
  let t := threshold place bias
  if distance < t then [digitChar distance]
  else digitChar (t + (distance - t) % (36 - t)) ::
    encodeDistance bias (place + 36) ((distance - t) / (36 - t))
termination_by distance
decreasing_by
  have := threshold_pos place bias
  exact Nat.lt_of_le_of_lt (Nat.div_le_self _ _) (by omega)

/-- What has been written, the distance since the last insertion, the bias, and how many characters
there are so far. -/
structure Encoding where
  written : List Char
  distance : Nat
  bias : Nat
  count : Nat

/-- A character of the label passed while those of one code point are inserted. -/
def Encoding.pass (basic code : Nat) (e : Encoding) (c : Char) : Encoding :=
  if c.toNat < code then { e with distance := e.distance + 1 }
  else if c.toNat = code then
    { written := e.written ++ encodeDistance e.bias 36 e.distance
      distance := 0
      bias := adapt e.distance (e.count + 1) (e.count == basic)
      count := e.count + 1 }
  else e

/-- All insertions, for the code points of a list that grow from `next` on. -/
def insertAll (label : List Char) (basic : Nat) : List Nat → Nat → Encoding → Encoding
  | [], _, e => e
  | code :: codes, next, e =>
    let started := { e with distance := e.distance + (code - next) * (e.count + 1) }
    let passed := label.foldl (Encoding.pass basic code) started
    insertAll label basic codes (code + 1) { passed with distance := passed.distance + 1 }

/-- A label written in ASCII. -/
def encode (label : List Char) : List Char :=
  let basic := label.filter fun c ↦ c.toNat < 0x80
  let codes := (distinct ((label.map Char.toNat).filter fun n ↦ 0x80 ≤ n)).mergeSort
  let start := basic ++ if basic.isEmpty then [] else ['-']
  (insertAll label basic.length codes 0x80
    { written := start, distance := 0, bias := 72, count := basic.length }).written

/-! ## Decoding -/

/-- The distance at the head of some digits, and what follows it; weights have 32 bits. -/
def distance? (bias : Nat) : Nat → Nat → Nat → List Char → Option (Nat × List Char)
  | _, _, _, [] => none
  | place, weight, sum, c :: cs => do
    let d ← digit? c
    let t := threshold place bias
    if d < t then some (sum + d * weight, cs)
    else if UInt32.size ≤ weight * (36 - t) then none
    else distance? bias (place + 36) (weight * (36 - t)) (sum + d * weight) cs

/-- The insertions written by some digits carried out; at most `bound` of them.  Places have 32
bits. -/
def insertFrom? : Nat → (next position bias : Nat) → Bool → List Char → List Char →
    Option (List Char)
  | _, _, _, _, _, label, [] => some label
  | 0, _, _, _, _, _, _ :: _ => none
  | bound + 1, next, position, bias, isFirst, label, cs => do
    let (distance, rest) ← distance? bias 36 1 0 cs
    let count := label.length + 1
    let code := next + (position + distance) / count
    let place := (position + distance) % count
    if UInt32.size ≤ position + distance then none
    else if 0x10FFFF < code ∨ 0xD800 ≤ code ∧ code < 0xE000 then none
    else
      let inserted := label.take place ++ Char.ofNat code :: label.drop place
      insertFrom? bound code (place + 1) (adapt distance count isFirst) false inserted rest

/-- The label that is written by some ASCII characters, if they write one.  The last hyphen ends the
characters of ASCII, of which there is then at least one. -/
def decode? (written : List Char) : Option (List Char) :=
  let digits := (written.reverse.takeWhile (· ≠ '-')).reverse
  let basic := written.take (written.length - digits.length - 1)
  if (basic.isEmpty && written.head? = some '-') || basic.any fun c ↦ 0x80 ≤ c.toNat then none
  else insertFrom? digits.length 0x80 0 72 true basic digits

end Punycode

end Sequitur
