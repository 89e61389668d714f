import UpperEcho.Cli.Parse
import UpperEcho.Config.Settings
import UpperEcho.Session.Datagram
import UpperEcho.Session.Stream
import UpperEcho.Log.Logger
import UpperEcho.Transform

/-! The daemon `ucased`: its settings, detaching, logging, binding and serving until a failure, and the
peers (`Visitor`) that come while it serves. -/
namespace UpperEcho.Daemon

open Cli Host Net

def grammar : Command :=
  { name := "ucase", about := "parse program arguments", author := some "ucase",
    version := some "0.2.4",
    switches := [
      { long := "config", short := some 'c', placeholder := some "CONFIG",
        help := "Configuration file, instead of /etc/ucased/ucased.toml" },
      { long := "foreground", short := some 'f', help := "Do not detach from the terminal" },
      { long := "transport", short := some 't', placeholder := some "TRANSPORT",
        choices := ["stream", "dgram"],
        help := "Transport to serve, overrides Transport of the configuration" },
      { long := "listen", short := some 'l', placeholder := some "LISTEN",
        help := "Socket path or IPv6 address to listen on, overrides Listen" }] }

def settingsPath : String := "/etc/ucased/ucased.toml"

def logFilePath : String := "/var/log/ucased/ucased.log"

def streamSocket : String := "/tmp/socket"

def datagramSocket : String := "/tmp/ud_ucase"

def datagramBuffer : Nat := 65536

def daemonModule : String := "ucased"

structure Order where
  config : Option String := none
  foreground : Bool := false
  transport : Option TransportKind := none
  listen : Option String := none
  deriving DecidableEq, Repr

def transportNamed : String → Option TransportKind
  | "stream" => some .stream
  | "dgram" => some .dgram
  | _ => none

def Order.ofInvocation (inv : Invocation) : Order :=
  { config := inv.value? "config", foreground := inv.has "foreground",
    transport := (inv.value? "transport").bind transportNamed, listen := inv.value? "listen" }

def settingsFileAt (p : Program) (path : String) : SettingsFile :=
  match p.readFile (Path.ofString path) with
  | .ok bs =>
    match String.fromUTF8? ⟨bs.toArray⟩ with
    | some s => .text s
    | none => .unreadable
  | .error e => if e.isNotFound then .missing else .unreadable

def listenEndpoint (listen : String) (kind : TransportKind) : Except ServiceError Endpoint :=
  Endpoint.parse (if listen.isEmpty then
      (match kind with
        | .stream => streamSocket
        | .dgram => datagramSocket)
    else listen)

structure Plan where
  settings : Settings
  kind : TransportKind
  endpoint : Endpoint
  detach : Bool

def plan (p : Program) (o : Order) : Except ServiceError Plan := do
  let path := o.config.getD settingsPath
  let st ← Settings.load path (settingsFileAt p path)
  let kind ← match o.transport with
    | some k => pure k
    | none => st.transportKind
  let ep ← listenEndpoint (o.listen.getD st.listen) kind
  return { settings := st, kind := kind, endpoint := ep, detach := st.daemonize && !o.foreground }

inductive Service where
  | stream (place : Endpoint) (server : StreamServer)
  | datagram (place : Endpoint) (server : DgramServer)

inductive Visitor where
  | pipe (endpoint : String) (data : Bytes) (bufSize : Nat)
  | datagrams (endpoint replyPath : String) (messages : List Bytes)
  | reset (endpoint : String) (data : Bytes)
  deriving DecidableEq, Repr

inductive Visit where
  | piped (result : Except ServiceError Nat) (output : Bytes)
  | exchanged (result : Except ServiceError Unit) (replies : List (Nat × Bytes))
  | dropped (echoReady : Bool)
  | failed (e : ServiceError)

structure Running where
  logger : Logger
  program : Program
  service : Option Service := none
  status : Option Nat := none

def exitStatus (e : ServiceError) : Nat := (e.errno % 256).toNat

namespace Running

def logAll (d : Running) (rs : List LogRecord) : Running :=
  { d with program := d.logger.logAll d.program rs }

def fail (d : Running) (e : ServiceError) : Running :=
  let d := d.logAll [⟨.error, some daemonModule, "ucased exited: " ++ e.message⟩]
  { d with program := d.program.complain ("ucased: " ++ e.message), service := none,
           status := some (exitStatus e) }

def listensAt (d : Running) (e : Endpoint) : Bool :=
  match d.service with
  | some (.stream place _) => sameEndpoint d.program place e
  | _ => false

def answersAt (d : Running) (e : Endpoint) : Bool :=
  match d.service with
  | some (.datagram place _) => sameEndpoint d.program place e
  | _ => false

def serveStream (d : Running) (c : Channel) : Running :=
  match d.service with
  | some (.stream place s) =>
    let (st, s') := s.serveChannel c
    let d := d.logAll st.logs
    match st.result with
    | .ok _ => { d with service := some (.stream place s') }
    | .error e => d.fail e
  | _ => d

def connectStream (d : Running) (net : Network) (text : String) : Except ServiceError Unit := do
  let e ← Endpoint.parse text
  if d.answersAt e then throw (.io Errno.wrongProtocol.fault)
  streamConnect net d.program d.listensAt e

def exchangeAt (d : Running) (e : Endpoint) (peer : String) (messages : List Bytes) :
    (Except ServiceError Unit × Exchange) × Running :=
  match d.service with
  | some (.datagram place s) =>
    if sameEndpoint d.program place e then
      let (x, steps, s') := exchangeWith s peer messages.length messages datagramBuffer (some 5000)
      let d := d.logAll (steps.flatMap (·.logs))
      let stop := steps.findSome? fun st =>
        match st.result with
        | .error err => if err.isPeerError then none else some err
        | .ok _ => none
      (x, match stop with
        | some err => d.fail err
        | none => { d with service := some (.datagram place s') })
    else (exchange { replies := [.fail Errno.connectionRefused.fault] } messages datagramBuffer
      (some 5000), d)
  | _ => (exchange { replies := [.fail Errno.connectionRefused.fault] } messages datagramBuffer
      (some 5000), d)

def visit (d : Running) (net : Network) : Visitor → Visit × Running
  | .pipe text data bufSize =>
    match d.connectStream net text with
    | .error e => (.failed e, d)
    | .ok () =>
      let (r, pp) := pipeThroughEcho data bufSize
      (.piped r pp.output.taken, d.serveStream (writerChannel data))
  | .reset text data =>
    match d.connectStream net text with
    | .error e => (.failed e, d)
    | .ok () => (.dropped !data.isEmpty, d.serveStream (resetChannel data))
  | .datagrams text replyPath messages =>
    match Endpoint.parse text with
    | .error e => (.failed e, d)
    | .ok (.unix path) =>
      match UnixClient.connectFrom d.program replyPath path (d.answersAt (.unix path))
          (if d.listensAt (.unix path) then some Errno.wrongProtocol.fault else none) with
      | (.error e, _, p) => (.failed e, { d with program := p })
      | (.ok c, _, p) =>
        let ((r, x), d) := { d with program := p }.exchangeAt (.unix path) replyPath messages
        let (_, p) := c.drop d.program
        (.exchanged r x.replies, { d with program := p })
    | .ok e =>
      match udp6Connect net e with
      | .error err => (.failed err, d)
      | .ok () =>
        let ((r, x), d) := d.exchangeAt e e.render messages
        (.exchanged r x.replies, d)

def visitAll (d : Running) (net : Network) : List Visitor → List Visit × Running
  | [] =>
    match d.service with
    | some (.stream place s) =>
      let s' := s.moveTo .accepting
      ([], { d.logAll (s'.journal.drop s.journal.length) with service := some (.stream place s') })
    | _ => ([], d)
  | v :: rest =>
    let (seen, d) := d.visit net v
    let (seens, d) := d.visitAll net rest
    (seen :: seens, d)

def start (d : Running) (net : Network) (pl : Plan) : Running :=
  let st := pl.settings
  let (lg, p) := d.logger.init d.program (parseLevel st.logLevel) st.logTarget logFilePath
    st.logFileSize st.logFileNumber
  let d := { d with logger := lg, program := p }
  let d := d.logAll [⟨.info, some daemonModule, "ucased 0.2.4 serving " ++ pl.kind.label ++ " on " ++
    pl.endpoint.render⟩]
  match bindWithBuffers net d.program pl.endpoint st.receiveBuffer st.sendBuffer with
  | (.error e, p) => { d with program := p }.fail e
  | (.ok (), p) =>
    let service := match pl.kind with
      | .stream => Service.stream pl.endpoint { arrivals := [], bufSize := st.bufferSize }
      | .dgram => Service.datagram pl.endpoint (DgramServer.create [] [] datagramBuffer)
    { d with program := p, service := some service }

end Running

structure Run where
  program : Program
  status : Option Nat
  visits : List Visit
  detachedExit : Option Bool

def unserved (net : Network) (clock : String) (p : Program) (visitors : List Visitor) :
    List Visit × Program :=
  let (seen, d) := ({ logger := { clock := clock }, program := p } : Running).visitAll net visitors
  (seen, d.program)

def run (net : Network) (clock : String) (p : Program) (args : List String)
    (visitors : List Visitor) : Run :=
  let ended (p : Program) (status : Nat) : Run :=
    let (seen, p) := unserved net clock p visitors
    { program := p, status := some status, visits := seen, detachedExit := none }
  match read grammar "ucased" "ucase" args with
  | .show text => ended (p.toStdout (Bytes.ofString text)) 0
  | .fail _ text => ended (p.toStderr (Bytes.ofString text)) 2
  | .run inv =>
    match plan p (Order.ofInvocation inv) with
    | .error e => ended (p.complain ("ucased: " ++ e.message)) (exitStatus e)
    | .ok pl =>
      let inner := if pl.detach then { p with umask := 0, cwd := [], stdout := [], stderr := [] }
        else p
      let d := ({ logger := { clock := clock }, program := inner } : Running).start net pl
      let (seen, d) := d.visitAll net visitors
      if pl.detach then
        { program := { p with fs := d.program.fs }, status := some 0, visits := seen,
          detachedExit := some d.status.isSome }
      else { program := d.program, status := d.status, visits := seen, detachedExit := none }

end UpperEcho.Daemon
