import UpperEcho.Cli.Parse
import UpperEcho.Session.Datagram
import UpperEcho.Session.Stream
import UpperEcho.Net.Resolve
import UpperEcho.Log.Logger

/-! The control tool `uctl`: `send`, `usend`, `pipe` and `resolve`, with its exit statuses. -/
namespace UpperEcho.Control

open Cli Host Net

def waitSwitch : Switch :=
  { long := "wait", short := some 'w', placeholder := some "WAIT", defaultValue := some "10",
    help := "Seconds to wait for a datagram reply, 0 waits forever", check := .count64,
    global := true }

def verboseSwitch : Switch :=
  { long := "verbose", short := some 'v', help := "Log debug messages to the console",
    global := true }

def grammar : Command :=
  { name := "ucase", about := "parse program arguments", author := some "ucase",
    version := some "0.2.4", switches := [waitSwitch, verboseSwitch], helpWhenBare := true,
    subcommands := [
      { name := "send", about := "`[dgram]` Send messages to an IPv6 datagram server", rank := 1,
        operands := [
          { name := "HOST-ADDRESS", required := true,
            help := "IPv6 address of the server, [ADDR]:PORT picks another port" },
          { name := "MSG", required := true, many := true }] },
      { name := "usend", about := "`[dgram]` Send messages to the unix datagram server", rank := 2,
        operands := [{ name := "MSG", required := true, many := true }] },
      { name := "pipe", about := "`[stream]` Copy stdin through a stream server to stdout",
        rank := 3,
        operands := [{ name := "ENDPOINT", defaultValue := some "/tmp/socket",
                       help := "Socket path or IPv6 address of the server" }] },
      { name := "resolve", about := "`[name]` Print the addresses a host name resolves to",
        rank := 4,
        operands := [{ name := "HOST", required := true },
                     { name := "SERVICE", help := "Port number" }] }] }

def datagramSocket : String := "/tmp/ud_ucase"

def streamChunk : Nat := 500

def datagramBuffer : Nat := 65536

def toolModule : String := "uctl"

inductive Request where
  | send (host : String) (messages : List String)
  | usend (messages : List String)
  | pipe (endpoint : String)
  | resolve (host : String) (service : Option String)
  deriving DecidableEq, Repr

structure Order where
  wait : Nat
  verbose : Bool
  request : Request
  deriving DecidableEq, Repr

def Order.ofInvocation (inv : Invocation) : Option Order := do
  let wait := match readCount64 ((inv.value? "wait").getD "10") with
    | .ok n => n
    | .error _ => 10
  let request ← match inv.path with
    | ["send"] => some (.send ((inv.value? "HOST-ADDRESS").getD "") (inv.values "MSG"))
    | ["usend"] => some (.usend (inv.values "MSG"))
    | ["pipe"] => some (.pipe ((inv.value? "ENDPOINT").getD "/tmp/socket"))
    | ["resolve"] => some (.resolve ((inv.value? "HOST").getD "") (inv.value? "SERVICE"))
    | _ => none
  return { wait := wait, verbose := inv.has "verbose", request := request }

structure Surroundings where
  net : Network := {}
  hosts : HostTable := localHosts
  streamEchoes : List Endpoint := []
  datagramEchoes : List Endpoint := []
  pid : String := "1"
  clock : String := ""

def lookupFailure : ServiceError :=
  .io (.custom .other "failed to lookup address information: Name or service not known")

def exitStatus (e : ServiceError) : Nat :=
  ((if e.errno = 0 then 1 else e.errno) % 256).toNat

def printReplies (p : Program) (replies : List (Nat × Bytes)) : Program :=
  replies.foldl (fun p r => p.say ("Response " ++ toString r.1 ++ ": " ++ Bytes.toText r.2)) p

def serve (w : Surroundings) (lg : Logger) (p : Program) (o : Order) (stdin : Bytes) :
    Except ServiceError Unit × Program :=
  let timeout := if o.wait == 0 then none else some (o.wait * 1000)
  let echoes (e : Endpoint) := w.datagramEchoes.any (sameEndpoint p e)
  match o.request with
  | .send host msgs =>
    match Endpoint.ofInet6Text host Endpoint.defaultPort >>= fun e =>
        (udp6Connect w.net e).map fun () => e with
    | .error e => (.error e, p)
    | .ok e =>
      let messages := msgs.map Bytes.ofString
      let ((r, x), _, _) := if echoes e then
          exchangeWith (DgramServer.create [] [] datagramBuffer) e.render messages.length messages
            datagramBuffer timeout
        else
          ((exchange { replies := [.fail Errno.connectionRefused.fault] } messages datagramBuffer
            timeout), [], DgramServer.create [] [] datagramBuffer)
      (r, lg.logAll (printReplies p x.replies) x.journal)
  | .usend msgs =>
    match UnixClient.connect p w.pid datagramSocket (echoes (.unix datagramSocket)) with
    | (.error e, logs, p) => (.error e, lg.logAll p logs)
    | (.ok c, logs, p) =>
      let p := lg.logAll p logs
      let messages := msgs.map Bytes.ofString
      let ((r, x), _, _) := exchangeWith (DgramServer.create [] [] datagramBuffer) c.path
        messages.length messages datagramBuffer timeout
      let p := lg.logAll (printReplies p x.replies) x.journal
      let (logs, p) := c.drop p
      (r, lg.logAll p logs)
  | .pipe text =>
    match Endpoint.parse text with
    | .error e => (.error e, p)
    | .ok e =>
      let connected := if echoes e then .error (.io Errno.wrongProtocol.fault)
        else streamConnect w.net p (fun l => w.streamEchoes.any (sameEndpoint p l)) e
      match connected with
      | .error err => (.error err, p)
      | .ok () =>
        let (r, pp) := pipeThroughEcho stdin streamChunk
        let p := p.toStdout pp.output.taken
        match r with
        | .error err => (.error err, p)
        | .ok n =>
          (.ok (), lg.log p ⟨.debug, some toolModule,
            toString n ++ " bytes piped through " ++ e.render⟩)
  | .resolve host service =>
    match resolve w.hosts host service with
    | .ok ips => (.ok (), ips.foldl (fun p ip => p.say ("IP: " ++ ip.render)) p)
    | .error (.service e) => (.error e, p)
    | .error (.unknownHost _) => (.error lookupFailure, p)

def run (w : Surroundings) (p : Program) (args : List String) (stdin : Bytes) : Program × Nat :=
  match read grammar "uctl" "ucase" args with
  | .show text => (p.toStdout (Bytes.ofString text), 0)
  | .fail kind text => (p.toStderr (Bytes.ofString text), if kind.isUsage then 0 else 2)
  | .run inv =>
    match Order.ofInvocation inv with
    | none => (p, 2)
    | some o =>
      let lg : Logger := { sinks := some [.console], maxLevel := .upTo (if o.verbose then .debug else .warn),
                           clock := w.clock }
      match serve w lg p o stdin with
      | (.ok (), p) => (p, 0)
      | (.error e, p) => (p.complain ("uctl: " ++ e.message), exitStatus e)

end UpperEcho.Control
