/-!
# Switches on a command line

How the words of a command line are told apart: switches by a long name behind two hyphens or by a
letter behind one, the values that some of them take, and everything else.  Letters can stand
together behind one hyphen.  A value follows its switch as the next word, unless that begins with a
hyphen, or is attached: to a long name by an equals sign, to a letter with or without one.  Behind a
word of two hyphens nothing is a switch.

A command line is judged while it is read.  A value or word that stands by itself is judged when the
next switch or word is met, or the end; everything else at once.  So help that is asked for is given
exactly if nothing in front of it was wrong.

## What is here

* `Switch`, `Grammar` — what may be given.
* `Scan` — what has been given.
* `Grammar.scanFront`, `Grammar.scan`.
-/

set_option autoImplicit false

namespace Sequitur

/-! ## What may be given -/

/-- How often a switch may be given and whether it takes a value. -/
inductive Arity where
  | flag
  | count
  | value
  | values
  deriving DecidableEq

namespace Arity

/-- Whether a switch takes a value. -/
def takesValue : Arity → Bool
  | flag => false
  | count => false
  | value => true
  | values => true

/-- Whether a switch may be given again. -/
def isRepeatable : Arity → Bool
  | flag => false
  | count => true
  | value => false
  | values => true

end Arity

/-- A switch, and which values may be given to it. -/
structure Switch where
  name : String
  letter : Option Char := none
  arity : Arity := .flag
  accepts : String → Bool := fun _ ↦ true

/-- What may be given: some switches, some words, each of which may be restricted, and the version
may be asked for. -/
structure Grammar where
  switches : List Switch
  words : List (String → Bool) := []
  hasVersion : Bool := false

/-! ## What has been given -/

/-- Why the words of a command line come to nothing: they make no sense, or ask for help or for the
version. -/
inductive Refusal where
  | usage
  | help
  | version
  deriving DecidableEq

/-- What a command line holds: the switches given, each with its value, and the other words. -/
structure Scan where
  given : List (String × String) := []
  words : List String := []

namespace Scan

/-- Whether a switch has been given. -/
def has (s : Scan) (name : String) : Bool :=
  s.given.any fun g ↦ g.1 = name

/-- The values given to a switch. -/
def valuesOf (s : Scan) (name : String) : List String :=
  (s.given.filter fun g ↦ g.1 = name).map Prod.snd

/-- The value given to a switch. -/
def value? (s : Scan) (name : String) : Option String :=
  s.given.lookup name

/-- A switch given, unless it has been given before or does not accept the value. -/
def give (s : Scan) (w : Switch) (value : String) : Except Refusal Scan :=
  if (s.has w.name && !w.arity.isRepeatable) || !w.accepts value then .error .usage
  else .ok { s with given := s.given ++ [(w.name, value)] }

/-- A word given, if it is accepted. -/
def say (s : Scan) (accepts : String → Bool) (word : String) : Except Refusal Scan :=
  if accepts word then .ok { s with words := s.words ++ [word] } else .error .usage

end Scan

/-- What is not judged yet: a switch that waits for its value or got it as a word of its own, or a
word. -/
inductive Unjudged where
  | nothing
  | waiting (w : Switch)
  | value (w : Switch) (text : String)
  | word (accepts : String → Bool) (text : String)

/-- How far a command line has been read. -/
structure Progression where
  scan : Scan := {}
  pending : Unjudged := .nothing

namespace Progression

/-- What has been given, all of it judged. -/
def settle (p : Progression) : Except Refusal Scan :=
  match p.pending with
  | .nothing => .ok p.scan
  | .waiting _ => .error .usage
  | .value w text => p.scan.give w text
  | .word accepts text => p.scan.say accepts text

/-- Judged so far, with something new that is not. -/
def await (p : Progression) (next : Unjudged) : Except Refusal Progression :=
  p.settle.map fun scan ↦ { scan, pending := next }

/-- Judged so far, with a switch given. -/
def give (p : Progression) (w : Switch) (value : String) : Except Refusal Progression := do
  return { scan := ← (← p.settle).give w value }

/-- Judged so far, with a refusal as the outcome. -/
def refuse (p : Progression) (r : Refusal) : Except Refusal Progression :=
  p.settle.bind fun _ ↦ .error r

/-- How many words have been met. -/
def wordCount (p : Progression) : Nat :=
  p.scan.words.length + if p.pending matches .word _ _ then 1 else 0

end Progression

/-! ## Reading -/

/-- Whether a word is a switch rather than a value. -/
def looksLikeSwitch (word : String) : Bool :=
  word.startsWith "-" && word ≠ "-"

namespace Grammar

/-- What becomes of a switch that is not among those of the grammar: help can always be asked for,
the version where there is one. -/
def other (g : Grammar) (text : String) (p : Progression) : Except Refusal Progression :=
  if text = "help" ∨ text = "h" then p.refuse .help
  else if g.hasVersion && (text = "version" ∨ text = "V") then p.refuse .version
  else .error .usage

/-- The letters behind a hyphen. -/
def readLetters (g : Grammar) : List Char → Progression → Except Refusal Progression
  | [], p => .ok p
  | c :: cs, p =>
    match g.switches.find? fun w ↦ w.letter = some c with
    | none => g.other (String.ofList [c]) p
    | some w =>
      if w.arity.takesValue then
        match cs with
        | [] => p.await (.waiting w)
        | '=' :: value => p.give w (String.ofList value)
        | value => p.give w (String.ofList value)
      else (p.give w "").bind (readLetters g cs)

/-- A long name behind two hyphens, perhaps with a value. -/
def readName (g : Grammar) (text : List Char) (p : Progression) : Except Refusal Progression :=
  let name := String.ofList (text.takeWhile (· ≠ '='))
  match g.switches.find? fun w ↦ w.name = name, text.dropWhile (· ≠ '=') with
  | none, _ => g.other (String.ofList text) p
  | some w, [] => if w.arity.takesValue then p.await (.waiting w) else p.give w ""
  | some w, _ :: value =>
    if w.arity.takesValue then p.give w (String.ofList value) else .error .usage

/-- A word that is the value of a switch or holds switches; nothing if it is neither. -/
def readSwitch? (g : Grammar) (word : String) (p : Progression) :
    Option (Except Refusal Progression) :=
  match p.pending, looksLikeSwitch word, word.toList with
  | .waiting w, false, _ => some (.ok { p with pending := .value w word })
  | _, true, '-' :: '-' :: c :: cs => some (g.readName (c :: cs) p)
  | _, true, ['-', '-'] => none
  | _, true, '-' :: cs => some (g.readLetters cs p)
  | _, _, _ => none

/-- A word that is nothing but a word. -/
def readWord (g : Grammar) (word : String) (p : Progression) : Except Refusal Progression :=
  match g.words[p.wordCount]? with
  | none => .error .usage
  | some accepts => p.await (.word accepts word)

/-- The switches in front of the first other word, which may not be judged yet, and the words from
that one on. -/
def scanFront (g : Grammar) (p : Progression) :
    List String → Except Refusal (Progression × List String)
  | [] => .ok (p, [])
  | word :: words =>
    match g.readSwitch? word p with
    | none => .ok (p, word :: words)
    | some outcome => outcome.bind fun p ↦ scanFront g p words

/-- All words, switches among them up to a word of two hyphens. -/
def scan (g : Grammar) (p : Progression) : List String → Except Refusal Scan
  | [] => p.settle
  | word :: words =>
    match g.readSwitch? word p with
    | some outcome => outcome.bind fun p ↦ scan g p words
    | none =>
      if word = "--" then (words.foldlM (fun p word ↦ g.readWord word p) p).bind (·.settle)
      else (g.readWord word p).bind fun p ↦ scan g p words

end Grammar

end Sequitur
