import Sequitur.Backend.Http
import Sequitur.Json.Printer

/-!
# Requests and responses as bytes

HTTP/1.1 over a connection that is used for a single exchange.  A request is written with the length
of its body; a response is read once the other side has closed the connection, and may have been
sent in chunks.

## What is here

* `Request.bytes`, `Request.hostName?`, `Request.port`.
* `Response.ofBytes?`.
-/

set_option autoImplicit false

namespace Sequitur

/-! ## Requests -/

namespace Request

/-- The host that a request goes to, without the brackets of an address of version 6. -/
def hostName? (r : Request) : Option String :=
  r.url.authority.map fun a ↦
    match a.host with
    | .ipv6 groups => Host.hexGroups groups
    | host => toString host

/-- The port that a request goes to. -/
def port (r : Request) : Nat :=
  ((r.url.authority.bind Authority.port).getD
    (match r.url.kind with
      | .web standard => standard
      | _ => 80))

/-- The host and the port as a request names them. -/
def hostField (r : Request) : String :=
  match r.url.authority with
  | some a => toString { a with userinfo := none }
  | none => ""

/-- What a request asks for: the path and the query. -/
def target (r : Request) : String :=
  toString r.url.path ++
    match r.url.query with
    | some q => "?" ++ q
    | none => ""

/-- The request as it is sent. -/
def bytes (r : Request) : List UInt8 :=
  let body := match r.body with
    | some j => j.compact
    | none => ""
  let head := r.method.name ++ " " ++ r.target ++ " HTTP/1.1\r\n" ++
    "host: " ++ r.hostField ++ "\r\n" ++ "accept: */*\r\n" ++ "connection: close\r\n" ++
    (if r.body.isSome then "content-type: application/json\r\n" ++
      "content-length: " ++ toString body.utf8ByteSize ++ "\r\n" else "") ++ "\r\n"
  (head ++ body).toUTF8.toList

end Request

/-! ## Responses -/

namespace Response

/-- A line up to its end of carriage return and line feed, and what follows. -/
def line? : List UInt8 → Option (List UInt8 × List UInt8)
  | [] => none
  | 13 :: 10 :: rest => some ([], rest)
  | b :: rest => (line? rest).map fun p ↦ (b :: p.1, p.2)

/-- The lines up to an empty one, at most `bound` of them, and what follows. -/
def headLines? : Nat → List UInt8 → Option (List (List Char) × List UInt8)
  | 0, _ => none
  | bound + 1, bytes => do
    let (line, rest) ← line? bytes
    if line.isEmpty then some ([], rest)
    else do
      let (lines, rest) ← headLines? bound rest
      some ((line.map fun b ↦ Char.ofNat b.toNat) :: lines, rest)

/-- The status in the first line: the three digits behind the version. -/
def status? (line : List Char) : Option Nat :=
  if "HTTP/1.".toList.isPrefixOf line then Text.digitsValue? ((line.drop 9).take 3) else none

/-- Whether a character may surround the value of a field. -/
def isFieldBlank (c : Char) : Bool :=
  c = ' ' || c = '\t'

/-- The value of a field, in lower case. -/
def field? (name : String) (lines : List (List Char)) : Option String :=
  lines.findSome? fun line ↦
    if (String.ofList (line.takeWhile (· ≠ ':'))).toLower = name then
      let value := ((line.dropWhile (· ≠ ':')).drop 1).dropWhile isFieldBlank
      some (String.ofList (value.reverse.dropWhile isFieldBlank).reverse).toLower
    else none

/-- The number that hexadecimal digits denote, as far as there are such digits. -/
def chunkSize? (line : List UInt8) : Option Nat :=
  let digits := (line.map fun b ↦ Char.ofNat b.toNat).takeWhile fun c ↦ (Text.hexDigit? c).isSome
  if digits.isEmpty then none else Host.numberInBase? 16 digits

/-- The contents of chunks, at most `bound` of them, up to the empty one. -/
def chunks? : Nat → List UInt8 → Option (List UInt8)
  | 0, _ => none
  | bound + 1, bytes => do
    let (line, rest) ← line? bytes
    let size ← chunkSize? line
    if size = 0 then some []
    else if rest.length < size + 2 then none
    else do some (rest.take size ++ (← chunks? bound (rest.drop (size + 2))))

/-- The body of a response: in chunks, of a given length, or all that there is. -/
def body? (lines : List (List Char)) (rest : List UInt8) : Option (List UInt8) :=
  if field? "transfer-encoding" lines = some "chunked" then chunks? (rest.length + 1) rest
  else
    match field? "content-length" lines with
    | none => some rest
    | some text => do
      let length ← Text.digitsValue? text.toList
      if rest.length < length then none else some (rest.take length)

/-- The response in all the bytes that came over a connection. -/
def ofBytes? (bytes : List UInt8) : Option Response := do
  let (lines, rest) ← headLines? bytes.length bytes
  let status ← status? (← lines.head?)
  let body ← body? (lines.drop 1) rest
  some { status, body := Symbol.ofBytes body }

end Response

end Sequitur
