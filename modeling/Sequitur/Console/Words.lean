import Sequitur.Text.Blank

/-!
# Words of a command line

A line is split into words at blanks.  Between double quotes a blank belongs to the word, and a
backslash makes the character behind it belong to the word, whatever it is.  Quotes and such
backslashes are not part of the word; quotes may open and close in the middle of one.  There are no
empty words.

## What is here

* `Console.words` — the words of a line.
-/

set_option autoImplicit false

namespace Sequitur

namespace Console

/-- A word that has come to its end, unless it is empty. -/
def endWord (word : List Char) : List String :=
  if word.isEmpty then [] else [String.ofList word]

/-- The words of a text, the first of which begins with the characters of `word`.  `quoted` says
whether the text begins between quotes. -/
def wordsFrom : Bool → List Char → List Char → List String
  | _, word, [] => endWord word
  | quoted, word, '"' :: cs => wordsFrom (!quoted) word cs
  | quoted, word, '\\' :: c :: cs => wordsFrom quoted (word ++ [c]) cs
  | _, word, ['\\'] => endWord word
  | quoted, word, c :: cs =>
    if Text.isBlank c && !quoted then endWord word ++ wordsFrom quoted [] cs
    else wordsFrom quoted (word ++ [c]) cs

/-- The words of a line. -/
def words (line : String) : List String :=
  wordsFrom false [] line.toList

end Console

end Sequitur
