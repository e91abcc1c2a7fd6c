import Sequitur.Text.Split
import Sequitur.Url.Basic
import Sequitur.Url.Percent

/-!
# Paths of URLs

A path is read segment by segment and written behind another path, which may be empty.  A segment of
one dot means the folder that has been reached and one of two dots the folder above it, each dot
being written plainly or as `%2e`.

A segment can name a drive: a letter and a colon.  No dots lead out of a drive that has a slash
behind it.  In the path of a file the first segment may be written with a bar instead of the colon,
and then belongs to the local machine; something behind such a drive is a segment of its own.

Line breaks and tabs mean nothing, but end a piece of text: what stands in front of them is written
before what follows is looked at.

## What is here

* `UrlPath.isDrive`, `UrlPath.startsWithDrive`.
* `UrlPath.dropSegment` — the path of the folder.
* `UrlPath.follow` — a path written behind another one.
-/

set_option autoImplicit false

namespace Sequitur

namespace UrlPath

/-! ## Line breaks -/

/-- Whether a character is a tab or a line break. -/
def isBreak (c : Char) : Bool :=
  c = '\t' || c = '\n' || c = '\r'

/-- The characters without tabs and line breaks. -/
def plain (cs : List Char) : List Char :=
  cs.filter fun c ↦ !isBreak c

/-! ## Segments -/

/-- Whether a segment means the folder that it is in. -/
def isSingleDot (segment : List Char) : Bool :=
  [".", "%2e"].contains (String.ofList segment).toLower

/-- Whether a segment means the folder above. -/
def isDoubleDot (segment : List Char) : Bool :=
  ["..", ".%2e", "%2e.", "%2e%2e"].contains (String.ofList segment).toLower

/-- Whether a segment names a drive, with a colon. -/
def isNormalDrive : List Char → Bool
  | [letter, ':'] => letter.isAlpha
  | _ => false

/-- Whether a segment names a drive, with a colon or a bar. -/
def isDrive : List Char → Bool
  | [letter, ':'] => letter.isAlpha
  | [letter, '|'] => letter.isAlpha
  | _ => false

/-- Whether a text begins with a drive that is a segment of its own. -/
def startsWithDrive (cs : List Char) : Bool :=
  isDrive (cs.take 2) &&
    ((cs.drop 2).head?.all fun c ↦ c = '/' || c = '\\' || c = '?' || c = '#')

/-- What stands behind the last slash of a path. -/
def lastSegment (path : List Char) : List Char :=
  (path.reverse.takeWhile (· ≠ '/')).reverse

/-- What stands between the first two slashes of a path. -/
def firstSegment (path : List Char) : List Char :=
  (path.drop 1).takeWhile (· ≠ '/')

/-! ## Going up -/

/-- Whether a path ends in a slash. -/
def endsInSlash (path : List Char) : Bool :=
  path.getLast? = some '/'

/-- A path with a slash at its end. -/
def withSlash (path : List Char) : List Char :=
  if endsInSlash path then path else path ++ ['/']

/-- A path without what stands behind its last slash; the drive of a file stays. -/
def dropSegment (kind : SchemeKind) (path : List Char) : List Char :=
  let last := lastSegment path
  if kind = .file && isNormalDrive last then path else path.take (path.length - last.length)

/-- Whether the slash at the end of a path can be left behind on the way up: not the first one, and
not one behind a drive. -/
def canLeave (path : List Char) : Bool :=
  endsInSlash path && path.dropLast.contains '/' &&
    !startsWithDrive (lastSegment path.dropLast ++ ['/'])

/-- The path of the folder above. -/
def goUp (kind : SchemeKind) (path : List Char) : List Char :=
  dropSegment kind (if canLeave path then path.dropLast else path)

/-! ## Following -/

/-- A path as far as it is written, and whether a drive at its head has made it local. -/
structure Walk where
  path : List Char
  isLocal : Bool := false

/-- The pieces of a segment written behind a path, and where the segment then begins.  Behind a path
that consists of a drive a slash comes first. -/
def write (kind : SchemeKind) (start : Nat) (path : List Char) :
    List (List Char) → Nat × List Char
  | [] => (start, path)
  | [] :: pieces => write kind start path pieces
  | piece :: pieces =>
    let written := Percent.encode Percent.inPath piece
    if kind = .file && isNormalDrive (path.drop 1) then
      write kind (start + 1) (path ++ '/' :: written) pieces
    else write kind start (path ++ written) pieces

namespace Walk

/-- One more segment, with or without a slash behind it. -/
def step (kind : SchemeKind) (w : Walk) (hasSlash : Bool) (segment : List Char) : Walk :=
  let (start, path) := write kind w.path.length w.path (Text.splitWhere isBreak segment)
  let before := path.take start
  let written := path.drop start
  let slash := if hasSlash then ['/'] else []
  if isDoubleDot written then
    { w with path := if hasSlash then withSlash (goUp kind before) else goUp kind before }
  else if isSingleDot written then { w with path := withSlash before }
  else if kind = .file && start = 1 && isDrive written then
    { path := before ++ written.take 1 ++ ':' :: slash, isLocal := true }
  else { w with path := path ++ slash }

/-- Segments one after the other, with slashes between them. -/
def steps (kind : SchemeKind) : Walk → List (List Char) → Walk
  | w, [] => w
  | w, segment :: segments => steps kind (w.step kind (!segments.isEmpty) segment) segments

end Walk

/-- A path written behind another one.  The path of a file begins with a single slash. -/
def follow (kind : SchemeKind) (path cs : List Char) : Walk :=
  let w := Walk.steps kind { path } (Text.splitWhere kind.isSlash cs)
  if kind = .file then { w with path := '/' :: w.path.dropWhile (· = '/') } else w

end UrlPath

end Sequitur
