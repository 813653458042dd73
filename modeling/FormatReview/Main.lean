import FormatReview.CommandLine.Program
import FormatReview.Upload.Wire
import Std.Async.DNS
import Std.Async.TCP
import Std.Async.Timer

namespace FormatReview.Machine

/-! The command line on the files and the network of a machine. -/

open Std.Async CommandLine

/-! Files. -/

/-- The code of the problem that reading a folder as a file gives. -/
def isFolderCode : UInt32 := 21

def pathText (location : Location) : String := "/" ++ String.intercalate "/" location

def entry? (location : Location) : IO (Option Entry) := do
  try return some (.file (← IO.FS.readBinFile (pathText location)))
  catch
    | .inappropriateType _ code _ => return if code = isFolderCode then some .folder else none
    | .permissionDenied .. => return some .closed
    | _ => return none

def snapshot (paths : List Path) : IO Storage := do
  let home := (Path.ofText (toString (← IO.currentDir))).steps
  let empty : Storage := { home, entries := [] }
  let locations := Location.along [] home ++
    paths.flatMap fun path => (empty.start path).along path.steps
  let entries ← locations.eraseDups.filterMapM fun location => do
    return (← entry? location).map fun entry => (location, entry)
  return { home, entries }

def perform : Storage.Change → IO Unit
  | .makeFolder location => IO.FS.createDir (pathText location)
  | .write location content => IO.FS.writeBinFile (pathText location) content
  | .move source target => IO.FS.rename (pathText source) (pathText target)

def environment : IO Environment :=
  (Key.options.map Key.name ++ Switch.options.map Switch.name).filterMapM fun name => do
    return (← IO.getEnv (variableName name)).map fun value => (variableName name, value)

/-! Network. Connections are plain. -/

def connect (address : Web.Address) : Async TCP.Socket.Client := do
  let number := address.number.getD address.scheme.standard
  let name := String.ofList (address.host.filter fun c => c != '[' && c != ']')
  let client ← TCP.Socket.Client.mk
  let hosts : Array Std.Net.IPAddr ← DNS.getAddrInfo name (toString number)
  match hosts.toList with
  | [] => throw (IO.userError "no address")
  | .v4 host :: _ => client.connect (.v4 ⟨host, UInt16.ofNat number⟩)
  | .v6 host :: _ => client.connect (.v6 ⟨host, UInt16.ofNat number⟩)
  return client

def receive (client : TCP.Socket.Client) : Async ByteArray := do
  let mut bytes := ByteArray.empty
  repeat
    match ← client.recv? 65536 with
    | none => break
    | some more => bytes := bytes ++ more
  return bytes

/-- Sends a request and counts the chunks that went. -/
def send (request : Upload.Request) (sent : IO.Ref Nat) : Async Upload.Reply := do
  let boundary := "form-" ++ toString (← IO.rand 100000000000000000 999999999999999999)
  let client ← connect request.address
  client.send (request.head boundary ++ request.formStart boundary)
  for chunk in request.chunks do
    client.send chunk
    sent.modify (· + 1)
  client.send (Upload.Request.formEnd boundary)
  return .ofBytes (← receive client)

instance : Inhabited Upload.Reply := ⟨.unanswered⟩

def waitLong (seconds : Nat) : Async Upload.Reply := do
  sleep (Std.Time.Millisecond.Offset.ofNat (1000 * seconds))
  return .late

def exchange (request : Upload.Request) (seconds : Nat) : IO Upload.Reaction := do
  let sent ← IO.mkRef 0
  let reply ←
    try
      if request.address.scheme.name = "http" then
        (Async.race (send request sent) (waitLong seconds)).block
      else pure .unanswered
    catch _ => pure .unanswered
  return ⟨← sent.get, reply, []⟩

/-! A run. What is sent does not hang on the reply, so that it is known beforehand. -/

def runOn (options : Options) : IO Transcript := do
  let storage ← snapshot options.paths
  let colour ← (← IO.getStdout).isTty
  let given ← environment
  let attempt (reaction : Upload.Reaction) : Transcript :=
    runOptions ⟨given, storage, fun _ => reaction, colour⟩ options
  match (attempt ⟨0, .unanswered, []⟩).requests with
  | [] => return attempt ⟨0, .unanswered, []⟩
  | request :: _ => return attempt (← exchange request (max options.timeout.toNat 1))

def present (transcript : Transcript) : IO UInt32 := do
  (← IO.getStdout).putStr transcript.output
  transcript.changes.forM perform
  (← IO.getStderr).putStr transcript.messages
  return transcript.code.toUInt32

end FormatReview.Machine

open FormatReview in
def main (arguments : List String) : IO UInt32 := do
  match CommandLine.Options.parse arguments (← Machine.environment) with
  | .error halt => Machine.present (CommandLine.halted halt)
  | .ok options => Machine.present (← Machine.runOn options)
