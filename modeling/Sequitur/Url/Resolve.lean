import Sequitur.Url.Path

/-!
# Reading URLs

A text is read as a URL, either on its own or relative to a base, which lends it the parts that it
does not have.  Blanks around the text, and tabs and line breaks in it, are passed over, and a
backslash counts as a slash where the scheme has domain names.

## What is here

* `Url.parse` — a text on its own.
* `Url.resolve` — a text relative to a base.
-/

set_option autoImplicit false

namespace Sequitur

namespace Url

open UrlPath (isBreak plain)

/-! ## Looking ahead -/

/-- Whether a character is a blank or a control at either end of a text. -/
def isPadding (c : Char) : Bool :=
  c.toNat ≤ 0x20

/-- The text without padding at its ends. -/
def strip (text : String) : List Char :=
  ((text.toList.dropWhile isPadding).reverse.dropWhile isPadding).reverse

/-- The characters from the first one on that is no tab or line break. -/
def ahead (cs : List Char) : List Char :=
  cs.dropWhile isBreak

/-- What follows some characters at the head of a text, if it begins with them. -/
def after? : List Char → List Char → Option (List Char)
  | [], cs => some cs
  | p :: ps, cs =>
    match ahead cs with
    | [] => none
    | c :: rest => if c = p then after? ps rest else none

/-- How many characters of a kind a text begins with, and what follows them. -/
def run (isMember : Char → Bool) (cs : List Char) : Nat × List Char :=
  let isPassed (c : Char) : Bool := isMember c || isBreak c
  ((plain (cs.takeWhile isPassed)).length, cs.dropWhile isPassed)

/-- Whether a character is a slash of either direction. -/
def isAnySlash (c : Char) : Bool :=
  c = '/' || c = '\\'

/-! ## Schemes and what follows a path -/

/-- Whether a character may stand in a scheme behind its first letter. -/
def isSchemeChar (c : Char) : Bool :=
  c.isAlphanum || c = '+' || c = '-' || c = '.'

/-- The scheme that a text begins with, in lower case, and what follows its colon. -/
def scheme? (cs : List Char) : Option (String × List Char) :=
  let isPassed (c : Char) : Bool := isSchemeChar c || isBreak c
  if (ahead cs).head?.any Char.isAlpha then
    match cs.dropWhile isPassed with
    | ':' :: rest => some ((String.ofList (plain (cs.takeWhile isPassed))).toLower, rest)
    | _ => none
  else none

/-- What follows the path: the query behind a question mark and the fragment behind a number sign,
both encoded. -/
def tail (kind : SchemeKind) (cs : List Char) : Option String × Option String :=
  let cs := plain cs
  let beforeFragment := cs.takeWhile (· ≠ '#')
  let encodeQuery := Percent.encode
    (if kind.isSpecial then Percent.inSpecialQuery else Percent.inQuery)
  ((beforeFragment.dropWhile (· ≠ '?')).tail?.map (String.ofList ∘ encodeQuery),
    (cs.dropWhile (· ≠ '#')).tail?.map (String.ofList ∘ Percent.encode Percent.inFragment))

/-- The characters of the path: those before a question mark or a number sign. -/
def pathChars (cs : List Char) : List Char :=
  cs.takeWhile fun c ↦ c ≠ '?' && c ≠ '#'

/-- A URL with another path, and with the query and the fragment that a text ends in. -/
def withTail (u : Url) (path : List Char) (cs : List Char) : Url :=
  { u with
    path := .rooted (String.ofList path)
    query := (tail u.kind cs).1
    fragment := (tail u.kind cs).2 }

/-- A URL whose path is written behind another one. -/
def followed (u : Url) (path cs : List Char) : Url :=
  u.withTail (UrlPath.follow u.kind path (pathChars cs)).path cs

/-- The text behind one slash, if it begins with one. -/
def behindSlash (kind : SchemeKind) (cs : List Char) : List Char :=
  match ahead cs with
  | c :: rest => if kind.isSlash c then rest else c :: rest
  | [] => []

/-- The path behind an authority: a slash is supplied where the scheme wants one, and where
something follows that does not begin with one. -/
def startPath (u : Url) (cs : List Char) : Url :=
  let isBare := match ahead cs with
    | [] => true
    | c :: _ => c = '?' || c = '#' || c = '/'
  if u.kind.isSpecial then u.followed ['/'] (behindSlash u.kind cs)
  else if isBare then u.followed [] (ahead cs)
  else u.followed ['/'] cs

/-! ## Authorities -/

/-- The user name and the password behind a colon, encoded; nothing if both are empty. -/
def userinfo? (cs : List Char) : Option String :=
  let name := Percent.encode Percent.inUserinfo (cs.takeWhile (· ≠ ':'))
  let password := Percent.encode Percent.inUserinfo ((cs.dropWhile (· ≠ ':')).drop 1)
  let written := name ++ if password.isEmpty then [] else ':' :: password
  if written.isEmpty then none else some (String.ofList written)

/-- How many characters belong to the host: those before a colon that is not in brackets. -/
def hostLength : Bool → List Char → Nat
  | _, [] => 0
  | bracketed, c :: cs =>
    if c = ':' && !bracketed then 0
    else hostLength (if c = '[' then true else if c = ']' then false else bracketed) cs + 1

/-- The port that the digits at the head of a text denote, none for that of the scheme or without
digits, and what follows it, which is nothing or begins with a backslash. -/
def readPort (kind : SchemeKind) (cs : List Char) :
    Except UrlError (Option Nat × List Char) :=
  let digits := cs.takeWhile Char.isDigit
  let rest := cs.dropWhile Char.isDigit
  let number := (Text.digitsValue? digits).getD 0
  if 0xFFFF < number || rest.head?.any (· ≠ '\\') then .error .port
  else if digits.isEmpty || kind = .web number then .ok (none, rest)
  else .ok (some number, rest)

/-- The host that some characters spell, with or without domain names. -/
def readHost (kind : SchemeKind) (cs : List Char) : Except UrlError Host :=
  if kind.isSpecial then
    if cs.isEmpty then .error .emptyHost else Host.parse cs
  else Host.parsePlain cs

/-- A host with an optional port behind a colon, for a user, and what follows them. -/
def readHostAndPort (kind : SchemeKind) (userinfo : Option String) (cs : List Char) :
    Except UrlError (Authority × List Char) := do
  let length := hostLength false cs
  let host ← readHost kind (cs.take length)
  let afterHost := cs.drop length
  if host = .name "" && (!afterHost.isEmpty || userinfo.isSome) then throw .emptyHost
  else
    let (port, rest) ← readPort kind (afterHost.drop 1)
    pure ({ userinfo, host, port }, rest)

/-- The URL whose authority begins with a text. -/
def fromAuthority (scheme : String) (cs : List Char) : Except UrlError Url := do
  let kind := SchemeKind.of scheme
  let ends (c : Char) : Bool := kind.isSlash c || c = '?' || c = '#'
  let written := plain (cs.takeWhile fun c ↦ !ends c)
  let rest := cs.dropWhile fun c ↦ !ends c
  let behindUser := (written.reverse.takeWhile (· ≠ '@')).reverse
  let user := written.take (written.length - behindUser.length - 1)
  if written = ['@'] && !rest.isEmpty then throw .emptyHost
  else
    let (authority, unread) ← readHostAndPort kind (userinfo? user) behindUser
    let u : Url := { scheme, authority := some authority, path := .rooted "" }
    pure (u.startPath (unread ++ rest))

/-! ## Files -/

/-- A file on the local machine, up to its path. -/
def localFile : Url :=
  { scheme := "file", authority := some { host := .name "" }, path := .rooted "" }

/-- The host of a file, if it is not on the local machine. -/
def fileHost? (cs : List Char) : Except UrlError (Option Host) :=
  if cs.isEmpty then .ok none
  else (Host.parse cs).map fun h ↦ if h = .name "localhost" then none else some h

/-- A file behind two slashes: the host, unless a drive stands in its place, and the path.  A drive
at the head of the path belongs to the local machine. -/
def fileFromHost (cs : List Char) : Except UrlError Url := do
  let ends (c : Char) : Bool := isAnySlash c || c = '?' || c = '#'
  let hostChars := plain (cs.takeWhile fun c ↦ !ends c)
  if UrlPath.isDrive hostChars then pure (localFile.followed ['/'] cs)
  else
    let rest := cs.dropWhile fun c ↦ !ends c
    match ← fileHost? hostChars with
    | none => pure (localFile.followed ['/'] rest)
    | some host =>
      let w := UrlPath.follow .file ['/'] (pathChars (behindSlash .file rest))
      let u : Url := if w.isLocal then localFile
        else { localFile with authority := some { host } }
      pure (u.withTail w.path rest)

/-- A file behind one slash: its drive or its host is that of the base, unless the path begins with
a drive. -/
def fileFromRoot (base : Option Url) (cs : List Char) : Url :=
  match base with
  | some b =>
    let drive := UrlPath.firstSegment b.path.chars
    if UrlPath.startsWithDrive (plain (behindSlash .file cs)) then localFile.followed [] cs
    else if UrlPath.isNormalDrive drive then localFile.followed ('/' :: drive) cs
    else b.followed [] cs
  | none => localFile.followed [] cs

/-- The URL of a file behind the colon of its scheme, or relative to another file. -/
def file (base : Option Url) (cs : List Char) : Except UrlError Url :=
  match ahead cs with
  | c :: rest =>
    if isAnySlash c then
      match ahead rest with
      | d :: behind =>
        if isAnySlash d then fileFromHost behind else .ok (fileFromRoot base (c :: rest))
      | [] => .ok (fileFromRoot base (c :: rest))
    else
      match base with
      | none => .ok (localFile.followed ['/'] (c :: rest))
      | some b =>
        if c = '?' then .ok { b with query := (tail .file cs).1, fragment := (tail .file cs).2 }
        else if c = '#' then .ok { b with fragment := (tail .file cs).2 }
        else if UrlPath.startsWithDrive (plain cs) then .ok (localFile.followed ['/'] (c :: rest))
        else .ok (b.followed (UrlPath.dropSegment .file b.path.chars) (c :: rest))
  | [] =>
    match base with
    | none => .ok (localFile.followed ['/'] [])
    | some b => .ok { b with fragment := none }

/-! ## References -/

/-- A text without a scheme, relative to a base with segments. -/
def relative (base : Url) (cs : List Char) : Except UrlError Url :=
  let kind := base.kind
  match ahead cs with
  | [] => .ok { base with fragment := none }
  | '?' :: _ => .ok { base with query := (tail kind cs).1, fragment := (tail kind cs).2 }
  | '#' :: _ => .ok { base with fragment := (tail kind cs).2 }
  | c :: rest =>
    if isAnySlash c then
      match after? ['/', '/'] cs, run isAnySlash cs with
      | some behind, _ => fromAuthority base.scheme behind
      | none, (1, _) => .ok (base.followed ['/'] rest)
      | none, (_, behind) => fromAuthority base.scheme behind
    else
      let folder := UrlPath.dropSegment kind base.path.chars
      .ok (base.followed (if folder.isEmpty then ['/'] else folder) (c :: rest))

/-- What follows the colon of a scheme. -/
def afterScheme (base : Option Url) (scheme : String) (cs : List Char) : Except UrlError Url :=
  match SchemeKind.of scheme with
  | .file => file (base.filter fun b ↦ b.scheme = "file") cs
  | .web _ =>
    let (count, behind) := run isAnySlash cs
    match base.filter fun b ↦ count < 2 && b.scheme = scheme with
    | some b => relative b cs
    | none => fromAuthority scheme behind
  | .other =>
    let u : Url := { scheme, path := .rooted "" }
    match after? ['/', '/'] cs, after? ['/'] cs with
    | some behind, _ => fromAuthority scheme behind
    | none, some behind => .ok (u.followed ['/'] behind)
    | none, none =>
      let text := Percent.encode Percent.isControl (plain (pathChars cs))
      .ok { u.withTail [] cs with path := .rootless (String.ofList text) }

/-- The URL that a text means relative to a base. -/
def resolve (base : Option Url) (text : String) : Except UrlError Url :=
  let cs := strip text
  match scheme? cs, base with
  | some (scheme, rest), _ => afterScheme base scheme rest
  | none, none => .error .relativeWithoutBase
  | none, some b =>
    match cs, b.path with
    | '#' :: _, _ => .ok { b with fragment := (tail b.kind cs).2 }
    | _, .rootless _ => .error .relativeToRootless
    | _, .rooted _ => if b.kind = .file then file (some b) cs else relative b cs

/-- The URL that a text means on its own. -/
def parse (text : String) : Except UrlError Url :=
  resolve none text

end Url

end Sequitur
