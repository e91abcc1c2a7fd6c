import Sequitur.Url.Host

/-!
# URLs

A URL in its parts, each already in the form in which it is written.  Its path is either empty or
begins with a slash, and has segments behind its slashes, or it is a text without structure; a URL
with the latter cannot be a base for others.

## What is here

* `Url`, with `Url.toString`.
* `Scheme` — the schemes that have a meaning of their own.
-/

set_option autoImplicit false

namespace Sequitur

/-! ## Schemes -/

/-- What a scheme means for the parts of a URL. -/
inductive SchemeKind where
  | web (defaultPort : Nat)
  | file
  | other
  deriving DecidableEq

/-- The kind of a scheme, written in lower case. -/
def SchemeKind.of : String → SchemeKind
  | "http" => web 80
  | "https" => web 443
  | "ws" => web 80
  | "wss" => web 443
  | "ftp" => web 21
  | "file" => file
  | _ => other

namespace SchemeKind

/-- Whether URLs of this kind have domain names and always a path. -/
def isSpecial : SchemeKind → Bool
  | other => false
  | _ => true

/-- Whether a character separates the segments of a path. -/
def isSlash (kind : SchemeKind) (c : Char) : Bool :=
  c = '/' || (kind.isSpecial && c = '\\')

end SchemeKind

/-! ## URLs -/

/-- Who is addressed: an encoded user name with an optional password, a host, and a port unless it
is that of the scheme. -/
structure Authority where
  userinfo : Option String := none
  host : Host
  port : Option Nat := none
  deriving DecidableEq

/-- The path of a URL. -/
inductive UrlPath where
  | rootless (text : String)
  | rooted (text : String)
  deriving DecidableEq

/-- A URL. -/
structure Url where
  scheme : String
  authority : Option Authority := none
  path : UrlPath
  query : Option String := none
  fragment : Option String := none
  deriving DecidableEq

namespace Authority

/-- The authority as it is written. -/
protected def toString (a : Authority) : String :=
  (match a.userinfo with
    | some u => u ++ "@"
    | none => "") ++ toString a.host ++
  (match a.port with
    | some p => ":" ++ toString p
    | none => "")

instance : ToString Authority := ⟨Authority.toString⟩

end Authority

namespace UrlPath

/-- The path as it is written. -/
protected def toString : UrlPath → String
  | rootless text => text
  | rooted text => text

instance : ToString UrlPath := ⟨UrlPath.toString⟩

/-- The characters of a path with segments, none for one without structure. -/
def chars : UrlPath → List Char
  | rootless _ => []
  | rooted text => text.toList

/-- Whether a path with segments begins with an empty one that is not the last. -/
def startsEmpty (path : UrlPath) : Bool :=
  ['/', '/'].isPrefixOf path.chars

end UrlPath

namespace Url

/-- The URL as it is written.  Without an authority, a path that begins with two slashes gets a dot
in front, so that what follows is not read as an authority. -/
protected def toString (u : Url) : String :=
  u.scheme ++ ":" ++
  (match u.authority with
    | some a => "//" ++ toString a
    | none => if u.path.startsEmpty then "/." else "") ++ toString u.path ++
  (match u.query with
    | some q => "?" ++ q
    | none => "") ++
  (match u.fragment with
    | some f => "#" ++ f
    | none => "")

instance : ToString Url := ⟨Url.toString⟩

/-- The kind of the scheme. -/
def kind (u : Url) : SchemeKind :=
  .of u.scheme

end Url

end Sequitur
