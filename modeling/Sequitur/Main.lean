import Sequitur.Backend.Message
import Sequitur.Program.Basic
import Std.Async.DNS
import Std.Async.TCP
import Std.Async.Timer

/-!
# The command line

The outermost layer: what the program asks of the system is done here, on real files, over real
connections and with a real terminal.
-/

set_option autoImplicit false

namespace Sequitur

namespace Main

/-! ## Files -/

/-- What the system says about a file, as a fault. -/
def faultOf : IO.Error → FileFault
  | .noFileOrDirectory _ _ _ => .notFound
  | .alreadyExists _ _ _ => .alreadyThere
  | .inappropriateType _ 20 _ => .notFolder
  | .inappropriateType _ 21 _ => .isFolder
  | e => .other (toString e)

/-- The files in which the store keeps what it knows. -/
def storeFiles : List String :=
  [Directory.dataFile, Directory.nodesFile, Directory.rootFile]

/-- What a file of the store holds, if it is there. -/
def readEntry (path : String) : IO (Option Entry) := do
  try
    let bytes ← IO.FS.readBinFile path
    return some (.file (Symbol.ofBytes bytes.toList))
  catch
    | .noFileOrDirectory _ _ _ => return none
    | _ => return some .folder

/-- The directory of the store as it is now. -/
def readStore (path : String) : IO Directory := do
  let mut d : Directory := { path }
  for name in storeFiles do
    if let some e ← readEntry (Directory.join path name) then
      d := d.set name e
  return d

/-- A file replaced by way of another one, so that nobody sees half of it. -/
def replaceFile (path text : String) : IO (Except StoreError Unit) := do
  try
    let aside := path ++ ".new"
    IO.FS.writeFile aside text
    IO.FS.rename aside path
    return .ok ()
  catch e => return .error (.file path (faultOf e))

/-- The files that an operation has changed written back. -/
def writeStore (before after : Directory) : List String → IO (Except StoreError Unit)
  | [] => return .ok ()
  | name :: names => do
    match after.entry? name with
    | some (.file contents) =>
      if before.entry? name = after.entry? name then writeStore before after names
      else
        match ← replaceFile (after.pathOf name) (Symbol.lossyText contents) with
        | .ok () => writeStore before after names
        | .error e => return .error e
    | _ => writeStore before after names

/-- An operation on the store in a directory. -/
def performOn (path : String) (op : StoreOperation) : IO (Except StoreError op.Result) := do
  let before ← readStore path
  let (answer, after) := op.perform before
  match ← writeStore before after storeFiles with
  | .ok () => return answer
  | .error e => return .error e

/-! ## The backend -/

/-- Where a host listens. -/
def addressOf (host : String) (port : UInt16) : Std.Async.Async Std.Net.SocketAddress := do
  let found : Array Std.Net.IPAddr ← Std.Async.DNS.getAddrInfo host (toString port.toNat)
  match found.toList with
  | .v4 addr :: _ => return .v4 { addr, port }
  | .v6 addr :: _ => return .v6 { addr, port }
  | [] => throw (IO.userError "unknown host")

/-- All that the other side of a connection sends. -/
partial def receiveAll (socket : Std.Async.TCP.Socket.Client) (got : ByteArray) :
    Std.Async.Async ByteArray := do
  match ← socket.recv? 65536 with
  | some more => receiveAll socket (got ++ more)
  | none => return got

/-- What a host answers to some bytes. -/
def exchange (host : String) (port : UInt16) (bytes : ByteArray) :
    Std.Async.Async (Option ByteArray) := do
  let socket ← Std.Async.TCP.Socket.Client.mk
  socket.connect (← addressOf host port)
  socket.send bytes
  return some (← receiveAll socket .empty)

/-- Nothing, after some time. -/
def giveUpAfter (seconds : Nat) : Std.Async.Async (Option ByteArray) := do
  Std.Async.sleep (.ofNat (1000 * seconds))
  return none

/-- A request delivered, if it can be; only plain connections are made. -/
def deliver (timeout : Nat) (r : Request) : IO (Option Response) := do
  match r.hostName? with
  | none => return none
  | some host =>
    if r.url.scheme ≠ "http" then return none
    else
      try
        let bytes := ByteArray.mk r.bytes.toArray
        let answer ← (Std.Async.Async.race (exchange host r.port.toUInt16 bytes)
          (giveUpAfter timeout)).block
        return answer.bind fun got ↦ Response.ofBytes? got.toList
      catch _ => return none

/-! ## The system -/

/-- What is known about the system during a run: where the store is. -/
structure System where
  storePath : String := ""
  timeout : Nat := 30

/-- A new id. -/
def freshId : IO NodeId := do
  let bytes ← IO.getRandomBytes 16
  return .ofRandom (bytes.toList.foldl (fun n b ↦ 256 * n + b.toNat) 0)

/-- New ids, as many as asked for. -/
def freshIds (n : Nat) : IO (Vector NodeId n) :=
  (Vector.replicate n ()).mapM fun _ ↦ freshId

/-- A text printed at once. -/
def put (stream : IO.FS.Stream) (text : String) : IO Unit := do
  stream.putStr text
  stream.flush

/-- Something done by the system. -/
def answer : (e : Effect) → StateT System IO e.Answer
  | .openStore path => do
    modify fun s ↦ { s with storePath := path }
    try
      IO.FS.createDirAll path
      return .ok ()
    catch e => return .error (.file path (faultOf e))
  | .store op => do performOn (← get).storePath op
  | .send r => do deliver (← get).timeout r
  | .fresh n => freshIds n
  | .write path text => do
    try
      IO.FS.writeFile path text
      return .ok ()
    catch e => return .error (faultOf e)
  | .print text => do put (← IO.getStdout) text
  | .complain text => do put (← IO.getStderr) text

/-- Lines heard until the input ends or the user leaves. -/
partial def converse (c : Connection) (session : Session) : StateT System IO Unit := do
  let input ← IO.getStdin
  if ← input.isTty then put (← IO.getStdout) "nd> "
  let line ← input.getLine
  if line.isEmpty then return
  let (sequel, session) ← (Program.hear c line session).interpret answer
  match sequel with
  | .leave => return
  | .stay => converse c session

/-- A whole run: the code with which it ends. -/
def run (words : List String) : StateT System IO UInt32 := do
  let env : Environment := {
    home := ← IO.getEnv "HOME"
    storeDir := ← IO.getEnv "NDTUTOR_HOME"
    apiUrl := ← IO.getEnv "NDTUTOR_API_URL"
    apiTimeout := ← IO.getEnv "NDTUTOR_API_TIMEOUT" }
  if let .ok c := Connection.ofEnvironment none env.apiTimeout then
    modify fun s ↦ { s with timeout := c.timeout }
  match ← (Program.run env words).interpret answer with
  | .exit code => return code.toUInt32
  | .converse c session => do
    converse c session
    return 0

end Main

end Sequitur

/-- Runs the program. -/
def main (words : List String) : IO UInt32 :=
  (Sequitur.Main.run words).run' {}
