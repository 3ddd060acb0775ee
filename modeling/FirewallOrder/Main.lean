import FirewallOrder.Command.Help
import FirewallOrder.Command.Run
import FirewallOrder.Http.Wire
import FirewallOrder.Url.Reader
import Std.Async.DNS
import Std.Async.TCP
import Std.Async.Timer
import Std.Internal.UV.System
/-!
# The program

Reads the command line, the environment and the files that a command needs, lets the command run,
and carries its requests over the network. Only plain HTTP is spoken here: a host that wants TLS
cannot be reached, and no certificate is looked at. An answer that redirects is an answer as any
other. A host outside ASCII has to be given by its name in ASCII.
-/

namespace FirewallOrder

open Std.Async Std.Net Http

/-! ## Files and variables -/

/-- Why the machine did not let a file be read. -/
def FileFault.ofIOError : IO.Error → FileFault
  | .noFileOrDirectory .. => .missing
  | .inappropriateType _ code _ => if code = 21 then .isDirectory else .notDirectory
  | .permissionDenied .. => .denied
  | _ => .missing

/-- Reads some files; there are no others. -/
def readFiles (paths : List String) : IO Files := do
  let found ← paths.mapM fun (path : String) => do
    let bytes ← (IO.FS.readBinFile path).toBaseIO
    pure (path, bytes.mapError FileFault.ofIOError)
  pure ⟨fun path => (found.lookup path).getD (.error .missing)⟩

/-- The machine without its files. -/
def readMachine : IO Machine := do
  let env ← Std.Internal.UV.System.osEnviron
  let working ← Std.Internal.UV.System.cwd
  pure { Machine.fileless (.ofNames .plain) env.toList with above := Files.parents working }

/-! ## The network -/

/-- A connection to the first address that accepts one. -/
def connectTo (port : Port) : List IPAddr → Async (Option TCP.Socket.Client)
  | [] => pure none
  | address :: rest => do
    let socket ← TCP.Socket.Client.mk
    let place : SocketAddress :=
      match address with
      | .v4 a => .v4 ⟨a, port.toUInt16⟩
      | .v6 a => .v6 ⟨a, port.toUInt16⟩
    try
      socket.connect place
      pure (some socket)
    catch _ => connectTo port rest

/-- All that comes until the connection is closed. -/
partial def receiveAll (socket : TCP.Socket.Client) (sofar : ByteArray) : Async ByteArray := do
  let more ← try socket.recv? 65536 catch _ => pure none
  match more with
  | some bytes => receiveAll socket (sofar ++ bytes)
  | none => pure sofar

/-- The host of a URL as a resolver takes it. -/
def hostName (url : Url) : String :=
  match url.host with
  | some host => String.ofList (host.text.toList.filter fun c => c != '[' && c != ']')
  | none => ""

/-- One request over a connection of its own. -/
def exchange (request : Request) : Async Http.Answer := do
  let url := request.url
  let port := (url.port.or (Url.defaultPort? url.scheme)).getD 80
  if url.scheme ≠ "http" then return .error (.unreachable url.text)
  let addresses ← try DNS.getAddrInfo (hostName url) (toString port) catch _ => pure #[]
  match ← connectTo port addresses.toList with
  | none => return .error (.unreachable url.text)
  | some socket =>
    try socket.send request.wire.toUTF8 catch _ => pure ()
    let bytes ← receiveAll socket ByteArray.empty
    return match Reply.ofBytes? (bytes.size + 1) bytes.toList with
      | some reply => .ok reply
      | none => .error (.dropped url.text)

instance : Inhabited Http.Answer := ⟨.error .truncated⟩

/-- One request, given up after some seconds. -/
def exchangeWithin (seconds : Nat) (request : Request) : IO Http.Answer := do
  let late : Async Http.Answer := do
    Std.Async.sleep (Std.Time.Millisecond.Offset.ofNat (seconds * 1000))
    pure (.error (.timeout request.url.text))
  (Async.race (exchange request) late).block

/-! ## Commands -/

/-- How many seconds a command waits for an answer. -/
def OrderCommand.patience (machine : Machine) (options : GlobalOptions) : Nat :=
  match options.configure machine with
  | .ok config => config.timeout
  | .error _ => Settings.defaultTimeout

/-- Tells why a command failed. -/
def printFailure (failure : CommandFailure) : IO Unit := do
  if let some code := failure.kind.code then IO.eprintln code
  IO.eprintln ("Error: " ++ failure.message)
  if let some help := failure.help then IO.eprintln ("help: " ++ help)

/-- Runs a command on the order of a ruleset. -/
def runOrder (options : GlobalOptions) (command : OrderCommand) : IO UInt32 := do
  let bare ← readMachine
  let known := { bare with files := ← readFiles (command.paths bare options) }
  let machine := { bare with files := ← readFiles (command.paths known options) }
  let seconds := OrderCommand.patience machine options
  let result ← (command.run machine options).interpret (exchangeWithin seconds)
  match result with
  | .ok text => IO.print text
  | .error failure => printFailure failure
  return (OrderCommand.exitCode result).toUInt32

/-- Runs the program. -/
def runProgram (args : List String) : IO UInt32 := do
  match Invocation.parse args with
  | .ok (.order options command) => runOrder options command
  | .ok (.completions shell) =>
    IO.print shell.script
    return 0
  | .error stop =>
    if stop.exitCode = 0 then IO.println stop.message else IO.eprintln stop.message
    return stop.exitCode.toUInt32

end FirewallOrder

def main (args : List String) : IO UInt32 := FirewallOrder.runProgram args
