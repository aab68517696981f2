import Std.Async.DNS
import Std.Async.TCP
import StorageConsole.Backend.Http
import StorageConsole.CommandLine.Run
import StorageConsole.CommandLine.Watch

/-!
The command line: it reads the arguments, the settings and the stored session, runs the command
against a backend over HTTP, and writes the lines of the answer and the session.
-/
namespace StorageConsole.CommandLine

open Backend (Reply Request)
open Std.Async (Async)

def socketAddress (service : UInt16) : Std.Net.IPAddr → Std.Net.SocketAddress
  | .v4 host => .v4 ⟨host, service⟩
  | .v6 host => .v6 ⟨host, service⟩

/-- Sends bytes over a connection of their own and receives until the other side ends it. -/
def exchange (address : Backend.Http.Address) (bytes : ByteArray) : Async ByteArray := do
  let hosts ← Std.Async.DNS.getAddrInfo address.host (Text.showNat address.service)
  let some host := hosts[0]? | throw (IO.userError "the host has no address")
  let socket ← Std.Async.TCP.Socket.Client.mk
  socket.connect (socketAddress (UInt16.ofNat address.service) host)
  socket.send bytes
  let mut received := ByteArray.empty
  repeat
    match ← socket.recv? 65536 with
    | some bytes => received := received ++ bytes
    | none => break
  return received

/-- The backend's reply; any failure on the way means that it was not reached. -/
def post (request : Request) : IO Reply := do
  match Backend.Http.Address.ofUrl? request.url with
  | none => return .unreachable
  | some address =>
    try
      let bytes ← (exchange address (Backend.Http.message address request)).block
      return Backend.Http.reply bytes.toList
    catch _ => return .unreachable

/-- The text of a file, if it can be read and is a text. -/
def fileText? (path : String) : IO (Option String) := do
  try return String.fromUTF8? (← IO.FS.readBinFile path)
  catch _ => return none

def sessionFiles (key : String) : List String := [Folder.fileOf key, Folder.temporaryFileOf key]

/-- The session's part of a folder. A file that is no text counts as an empty one, which restores
no session either. -/
def readFolder (path key : String) : IO Folder := do
  let place := (← IO.currentDir) / path
  if !(← place.isDir) then return .absent
  let mut folder : Folder := .made .empty
  for entry in ← place.readDir do
    if (sessionFiles key).contains entry.fileName then
      if ← entry.path.isDir then
        folder := folder.put entry.fileName .folder
      else
        let text ← fileText? (filePath path entry.fileName)
        folder := folder.put entry.fileName (.file (text.getD "") false)
  return folder

/-- Puts a file that only its owner may read in the place of another one. -/
def replaceFile (path text : String) : IO Unit := do
  let temporary := path ++ ".tmp"
  try IO.FS.removeFile temporary catch _ => pure ()
  let handle ← IO.FS.Handle.mk temporary .writeNew
  IO.setAccessRights temporary { user := { read := true, write := true } }
  handle.putStr text
  handle.flush
  IO.FS.rename temporary path

def writeFolder (path key : String) (before after : Folder) : IO Unit := do
  for name in sessionFiles key do
    match before.entries.get? name, after.entries.get? name with
    | some (.file _ _), none => IO.FS.removeFile (filePath path name)
    | old, some (.file text ownerOnly) =>
      if old ≠ some (.file text ownerOnly) then
        IO.FS.createDirAll path
        replaceFile (filePath path name) text
    | _, _ => pure ()

/-- Runs something on a console with the stored session, and stores the session that it leaves. -/
def withConsole {α : Type} (config : Config) (table : Route.Table)
    (run : Console → IO (α × Console)) : IO α := do
  let before ← readFolder config.sessionFolder config.sessionKey
  let (result, console) ← run (.start config table (.folder before))
  if let .folder after := console.storage then
    writeFolder config.sessionFolder config.sessionKey before after
  return result

/-- Answers the jobs that wait. There is never more than one, and it waits for the request that was
sent last. -/
partial def answerJobs (c : Console) : IO Console := do
  match c.jobs with
  | [] => return c
  | job :: _ => answerJobs (c.answer job.id (← post (c.requests.getLastD default)))

/-- Gives the control loop its turns and shows what is new, without an end. -/
partial def follow (shown : Watch) (c : Console) : IO Unit := do
  let c ← answerJobs c
  let (lines, shown) := shown.report c
  lines.forM fun line => IO.println line
  (← IO.getStdout).flush
  match c.loop.due? c.loopView with
  | some id => follow shown (c.giveTurn id)
  | none =>
    let pause := min c.loop.interval 1000
    IO.sleep (UInt32.ofNat pause)
    follow shown (c.step (.elapse pause))

def watch (config : Config) (table : Route.Table) (path : String) : IO (Except String Unit) := do
  let start (c : Console) : IO (Console × Console) := do
    let c ← answerJobs (c.run (.coldStart path))
    return (c, c)
  let c ← withConsole config table start
  match c.finished.getLast? with
  | some (_, .landed (.error e)) => return .error e.message
  | _ => return .ok (← follow (.start c) c)

def environment : IO Config.Environment := do
  let values ← Config.variableNames.mapM fun name => return (name, ← IO.getEnv name)
  return fun name => (values.find? (·.1 == name)).bind (·.2)

/-- The lines of a command's answer, or the error that it ends with. -/
def perform (invocation : Invocation) : IO (Except String (List String)) := do
  let file ← match invocation.config with
    | none => pure none
    | some path => fileText? path
  let config := invocation.configure file (← environment)
  match config, Route.Table.build Route.consoleDeclarations with
  | .error e, _ => return .error e.message
  | _, .error e => return .error e.message
  | .ok config, .ok table =>
    match invocation.command with
    | .watch path => return (← watch config table path).map fun () => []
    | command => withConsole config table (·.complete post (command.workflow config))

def usage : String :=
  "Usage: datamesh-console [options] <command>\n\nOptions:\n"
    ++ "  --server-url <url>\n  --config <file>\n  --session-dir <folder>\n\nCommands:\n"
    ++ String.join (commandRules.map fun rule => "  " ++ rule.name ++ "\n")

end StorageConsole.CommandLine

open StorageConsole.CommandLine in
/-- A faulty command line ends with code 2, a failed command with code 1. -/
def main (args : List String) : IO UInt32 := do
  match read args with
  | .error .help =>
    IO.print usage
    return 0
  | .error .wrong =>
    IO.eprint usage
    return 2
  | .ok invocation =>
    match ← perform invocation with
    | .ok lines =>
      lines.forM fun line => IO.println line
      return 0
    | .error message =>
      IO.eprintln ("Error: " ++ message)
      return 1
