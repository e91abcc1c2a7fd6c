import Sequitur.Text.Hex
import Sequitur.Text.Split

/-!
# Tables of code points

Data about characters, written as text: words with blanks between them, and numbers in hexadecimal.
A word begins with a code point, or with two and a hyphen between them for all from the one to the
other.  What belongs to them may follow behind an equals sign.

## What is here

* `CodeSpan` — a range of code points with a number; `CodeSpan.readAll`, `CodeSpan.find?`.
* `CodeTable.rows` — characters with the sequences of characters that belong to them.
-/

set_option autoImplicit false

namespace Sequitur

namespace CodeTable

/-- The words of a table. -/
def words (text : String) : List (List Char) :=
  (Text.splitWhere (fun c ↦ c = ' ' || c = '\n') text.toList).filter fun word ↦ !word.isEmpty

/-- What stands in front of the first occurrence of a character and what stands behind it. -/
def cut (separator : Char) (cs : List Char) : List Char × List Char :=
  (cs.takeWhile (· ≠ separator), (cs.dropWhile (· ≠ separator)).drop 1)

/-- The number that hexadecimal digits denote. -/
def number (cs : List Char) : Nat :=
  cs.foldl (fun n c ↦ 16 * n + (Text.hexDigit? c).elim 0 Fin.val) 0

/-- The sequence of characters that is written with plus signs between their code points. -/
def sequence (cs : List Char) : List Char :=
  (Text.split '+' cs).map fun code ↦ Char.ofNat (number code)

/-- The characters of a word, from its code point on, each with its sequence; commas separate the
sequences. -/
def row (word : List Char) : List (Char × List Char) :=
  let (code, sequences) := cut '=' word
  (Text.split ',' sequences).zipIdx.map fun (s, i) ↦ (Char.ofNat (number code + i), sequence s)

/-- The characters of a table, each with its sequence. -/
def rows (text : String) : List (Char × List Char) :=
  (words text).flatMap row

end CodeTable

/-- The code points from one to another, both included, and a number that belongs to them. -/
structure CodeSpan where
  first : Nat
  last : Nat
  value : Nat

namespace CodeSpan

/-- Whether a character is in a span. -/
def contains (s : CodeSpan) (c : Char) : Bool :=
  s.first ≤ c.toNat && c.toNat ≤ s.last

/-- The span that a word denotes. -/
def read (word : List Char) : CodeSpan :=
  let (range, value) := CodeTable.cut '=' word
  let (first, last) := CodeTable.cut '-' range
  { first := CodeTable.number first
    last := CodeTable.number (if last.isEmpty then first else last)
    value := CodeTable.number value }

/-- The spans of a table. -/
def readAll (text : String) : List CodeSpan :=
  (CodeTable.words text).map read

/-- The span of a table that a character is in. -/
def find? (table : List CodeSpan) (c : Char) : Option CodeSpan :=
  table.find? fun s ↦ s.contains c

/-- Whether a character is in one of the spans of a table. -/
def covers (table : List CodeSpan) (c : Char) : Bool :=
  table.any fun s ↦ s.contains c

end CodeSpan

end Sequitur
