/-
  FlowBench.Main
  ──────────────
  **The program.**

  Carries the plan of a command line out in the world: on the files, the
  terminal, and connections without encryption.
-/
import FlowBench.Command.Line
import FlowBench.Http.Message
import Std.Async.DNS
import Std.Async.TCP
import Std.Async.Timer
import Std.Time

namespace FlowBench.Main

open Std.Async

/-! ## §1. Files. -/

/-- What a failure of the system means for a file. -/
def faultOf (e : IO.Error) : FileFault :=
  match e with
  | .noFileOrDirectory .. => .missing
  | .permissionDenied .. => .denied
  | .inappropriateType _ code _ => if code = 20 then .notDirectory else .directory
  | .invalidArgument _ code _ => if code = 36 then .tooLong else .other (toString e)
  | e => .other (toString e)

/-- Reads a file. -/
def readText (file : String) : IO (Except FileFault String) := do
  try
    match String.fromUTF8? (← IO.FS.readBinFile file) with
    | some text => return .ok text
    | none => return .error .notText
  catch e => return .error (faultOf e)

/-- Writes a file. -/
def writeText (file text : String) : IO (Except FileFault Unit) := do
  try
    IO.FS.writeFile file text
    return .ok ()
  catch e => return .error (faultOf e)

/-! ## §2. Connections. -/

/-- The address of a host and a service. -/
def socketAddress (host : Std.Net.IPAddr) (service : Nat) : Std.Net.SocketAddress :=
  match host with
  | .v4 a => .v4 ⟨a, service.toUInt16⟩
  | .v6 a => .v6 ⟨a, service.toUInt16⟩

/-- Connects to the first of the addresses that answers. -/
def connect (service : Nat) : List Std.Net.IPAddr → Async (Option TCP.Socket.Client)
  | [] => return none
  | host :: rest => do
      let client ← TCP.Socket.Client.mk
      try
        client.connect (socketAddress host service)
        return some client
      catch _ => connect service rest

/-- Reads until the other side closes the connection. -/
def readAll (client : TCP.Socket.Client) : Async ByteArray := do
  let mut bytes : ByteArray := .empty
  repeat
    match ← client.recv? 65536 with
    | some more => bytes := bytes ++ more
    | none => break
  return bytes

/-- Sends a request and reads the reply. -/
def converse (r : Http.Request) : Async (Option Http.Reply) := do
  let hosts ← DNS.getAddrInfo r.hostName (toString r.service)
  match ← connect r.service hosts.toList with
  | none => return none
  | some client =>
      client.send r.text.toUTF8
      return Http.Reply.ofBytes? (← readAll client).toList

/-- Sends a request; there is no reply when that fails or takes too long. -/
def exchange (r : Http.Request) : IO (Option Http.Reply) := do
  if r.url.scheme ≠ "http" then return none
  let limit : Async (Option Http.Reply) := do
    sleep (.ofNat r.timeout)
    return none
  try (Async.race (converse r) limit).block
  catch _ => return none

/-! ## §3. Plans. -/

/-- Carries a plan out. -/
def carryOut {α : Type} : Plan α → IO α
  | .done a => return a
  | .read file next => do carryOut (next (← readText file))
  | .write file text next => do carryOut (next (← writeText file text))
  | .print line next => do
      IO.println line
      carryOut next
  | .note line next => do
      IO.eprintln line
      carryOut next
  | .send request next => do carryOut (next (← exchange request))

/-- Where the settings usually are. -/
def settingsPlace : IO String := do
  match ← IO.getEnv "XDG_CONFIG_HOME", ← IO.getEnv "HOME" with
  | some folder, home =>
      if folder.startsWith "/" then return folder ++ "/" ++ Settings.defaultPlace
      else return (home.getD ".") ++ "/.config/" ++ Settings.defaultPlace
  | none, some home => return home ++ "/.config/" ++ Settings.defaultPlace
  | none, none => return Settings.defaultPlace

end FlowBench.Main

open FlowBench in
/-- Reads the command line, carries it out, and gives the exit code. -/
def main (words : List String) : IO UInt32 := do
  let now ← Std.Time.PlainDateTime.now
  let clock := now.format "uuuu-MM-dd HH:mm:ss"
  let url ← IO.getEnv Settings.urlVariable
  let key ← IO.getEnv Settings.keyVariable
  let lookup? (name : String) : Option String :=
    if name = Settings.urlVariable then url
    else if name = Settings.keyVariable then key
    else none
  let code ← Main.carryOut (CommandLine.plan clock (← Main.settingsPlace) lookup? words)
  return code.toUInt32
