import Sequitur.Text.Decimal
import Sequitur.Text.Hex
import Sequitur.Url.Domain
import Sequitur.Url.Percent

/-!
# Hosts

The host of a URL: a name, or an address of the Internet protocol in version 4 or 6.  A name whose
last label is a number has to be an address of version 4, which may leave out groups and write them
in octal or hexadecimal.

## What is here

* `UrlError`, with `UrlError.message`.
* `Host`, with `Host.toString`.
* `Host.parse` for schemes with domain names, `Host.parsePlain` for the others.
-/

set_option autoImplicit false

namespace Sequitur

/-! ## Errors -/

/-- Why a text is no URL. -/
inductive UrlError where
  | emptyHost
  | internationalName
  | port
  | ipv4
  | ipv6
  | domainCharacter
  | relativeWithoutBase
  | relativeToRootless
  deriving DecidableEq

/-- The error in words. -/
def UrlError.message : UrlError → String
  | emptyHost => "empty host"
  | internationalName => "invalid international domain name"
  | port => "invalid port number"
  | ipv4 => "invalid IPv4 address"
  | ipv6 => "invalid IPv6 address"
  | domainCharacter => "invalid domain character"
  | relativeWithoutBase => "relative URL without a base"
  | relativeToRootless => "relative URL with a cannot-be-a-base base"

/-! ## Hosts -/

/-- A host.  An address of version 4 has four groups below 256, one of version 6 has eight groups
below 65536. -/
inductive Host where
  | name (text : String)
  | ipv4 (groups : List Nat)
  | ipv6 (groups : List Nat)
  deriving DecidableEq

namespace Host

/-! ## Writing -/

/-- A group of an address of version 6 in hexadecimal. -/
def hexGroup (n : Nat) : String :=
  String.ofList (Nat.toDigits 16 n)

/-- How many zeros a list begins with. -/
def zerosAtHead (groups : List Nat) : Nat :=
  (groups.takeWhile (· = 0)).length

/-- Where the first longest run of zeros begins, counted from `start`, and how long it is. -/
def longestZeros : Nat → List Nat → Nat × Nat
  | start, [] => (start, 0)
  | start, g :: groups =>
    let later := longestZeros (start + 1) groups
    let here := zerosAtHead (g :: groups)
    if later.2 ≤ here then (start, here) else later

/-- Groups separated by colons. -/
def hexGroups (groups : List Nat) : String :=
  ":".intercalate (groups.map hexGroup)

/-- A host as it is written in a URL.  Two colons stand for the longest run of at least two groups
that are zero. -/
protected def toString : Host → String
  | name text => text
  | ipv4 groups => ".".intercalate (groups.map ToString.toString)
  | ipv6 groups =>
    let run := longestZeros 0 groups
    if run.2 < 2 then "[" ++ hexGroups groups ++ "]"
    else "[" ++ hexGroups (groups.take run.1) ++ "::" ++
      hexGroups (groups.drop (run.1 + run.2)) ++ "]"

instance : ToString Host := ⟨Host.toString⟩

/-! ## Addresses of version 4 -/

/-- The number written by digits of a base. -/
def numberInBase? (base : Nat) (cs : List Char) : Option Nat :=
  cs.foldlM (fun n c ↦ do
    let d ← Text.hexDigit? c
    if d.val < base then some (base * n + d.val) else none) 0

/-- A part of an address of version 4: hexadecimal behind `0x`, octal behind `0`, else decimal. -/
def ipv4Part? : List Char → Option Nat
  | [] => none
  | '0' :: 'x' :: cs => numberInBase? 16 cs
  | '0' :: 'X' :: cs => numberInBase? 16 cs
  | '0' :: c :: cs => numberInBase? 8 (c :: cs)
  | cs => numberInBase? 10 cs

/-- The labels of a name without an empty one at the end. -/
def withoutTrailing (labels : List (List Char)) : List (List Char) :=
  if 1 < labels.length ∧ labels.getLast? = some [] then labels.dropLast else labels

/-- Whether a name ends in a number, which makes it an address. -/
def endsInNumber (labels : List (List Char)) : Bool :=
  match (withoutTrailing labels).getLast? with
  | none => false
  | some [] => false
  | some last => last.all (fun c ↦ (Text.digit? c).isSome) || (ipv4Part? last).isSome

/-- The last part of an address, which stands for all groups that are left. -/
def spread : Nat → Nat → List Nat
  | 0, _ => []
  | count + 1, n => n / Nat.pow 256 count % 256 :: spread count n

/-- The address of version 4 written by the labels of a name. -/
def parseIpv4? (labels : List (List Char)) : Option Host := do
  let numbers ← (withoutTrailing labels).mapM ipv4Part?
  let last ← numbers.getLast?
  let left := 5 - numbers.length
  if 4 < numbers.length ∨ Nat.pow 256 left ≤ last ∨ numbers.dropLast.any (255 < ·) then none
  else some (.ipv4 (numbers.dropLast ++ spread left last))

/-! ## Addresses of version 6 -/

/-- A group of one to four hexadecimal digits. -/
def hexGroup? (cs : List Char) : Option Nat :=
  if cs.isEmpty ∨ 4 < cs.length then none else numberInBase? 16 cs

/-- A decimal number below 256 without leading zeros. -/
def decimalByte? (cs : List Char) : Option Nat := do
  if cs.head? = some '0' ∧ cs ≠ ['0'] then none
  else do
    let n ← Text.digitsValue? cs
    if n < 256 then some n else none

/-- Four decimal numbers as the last two groups. -/
def trailingIpv4? (cs : List Char) : Option (List Nat) := do
  match ← (Text.split '.' cs).mapM decimalByte? with
  | [a, b, c, d] => some [256 * a + b, 256 * c + d]
  | _ => none

/-- The groups written between colons, the last two of which may be written as four decimal
numbers if `mayEndInIpv4`. -/
def groups? (mayEndInIpv4 : Bool) (cs : List Char) : Option (List Nat) := do
  if cs.isEmpty then some []
  else do
    let parts := Text.split ':' cs
    let last := parts.getLast?.getD []
    let front ← parts.dropLast.mapM hexGroup?
    let back ← if mayEndInIpv4 && last.contains '.' then trailingIpv4? last
      else (hexGroup? last).map fun n ↦ [n]
    some (front ++ back)

/-- The texts before and behind the first two colons in a row. -/
def splitAtGap? : List Char → Option (List Char × List Char)
  | ':' :: ':' :: cs => some ([], cs)
  | c :: cs => (splitAtGap? cs).map fun p ↦ (c :: p.1, p.2)
  | [] => none

/-- The address of version 6 that a text writes. -/
def parseIpv6? (cs : List Char) : Option Host := do
  match splitAtGap? cs with
  | some (front, back) =>
    let before ← groups? false front
    let behind ← groups? true back
    let count := before.length + behind.length
    if 7 < count then none
    else some (.ipv6 (before ++ List.replicate (8 - count) 0 ++ behind))
  | none =>
    let groups ← groups? true cs
    if groups.length = 8 then some (.ipv6 groups) else none

/-- An address of version 6 in brackets. -/
def parseBracketed (cs : List Char) : Except UrlError Host :=
  if cs.getLast? = some ']' then
    match parseIpv6? (cs.drop 1).dropLast with
    | some host => .ok host
    | none => .error .ipv6
  else .error .ipv6

/-! ## Reading -/

/-- The host of a URL whose scheme has domain names. -/
def parse (cs : List Char) : Except UrlError Host :=
  if cs.head? = some '[' then parseBracketed cs
  else
    match (Percent.decode? cs).bind Domain.toAscii? with
    | none => .error .internationalName
    | some [] => .error .emptyHost
    | some domain =>
      let labels := Text.split '.' domain
      if endsInNumber labels then
        match parseIpv4? labels with
        | some host => .ok host
        | none => .error .ipv4
      else .ok (.name (String.ofList domain))

/-- The characters that no host has. -/
def forbiddenPlain : List Char :=
  ['\x00', '\t', '\n', '\r', ' ', '#', '/', ':', '<', '>', '?', '@', '[', '\\', ']', '^', '|']

/-- The host of a URL whose scheme knows nothing of domain names. -/
def parsePlain (cs : List Char) : Except UrlError Host :=
  if cs.head? = some '[' then parseBracketed cs
  else if cs.any forbiddenPlain.contains then .error .domainCharacter
  else .ok (.name (String.ofList (Percent.encode Percent.isControl cs)))

end Host

end Sequitur
