import UpperEcho.Stream.Server

/-! The stream server over a scripted listener, arrival by arrival (`serveArrivals`). -/
namespace UpperEcho

structure StreamRun where
  error : ServiceError
  logs : List LogRecord
  served : List Channel
  record : Record
  rest : List Arrival
  deriving DecidableEq, Repr

namespace StreamRun

def after (logs : List LogRecord) (served : List Channel) (r : StreamRun) : StreamRun :=
  { r with logs := logs ++ r.logs, served := served ++ r.served }

def outcome (r : StreamRun) (s : StreamServer) : Except ServiceError Unit × StreamServer :=
  (.error r.error, { s with
    arrivals := r.rest, served := s.served ++ r.served, record := r.record, journal := s.journal ++ r.logs })

theorem outcomeAfter (r : StreamRun) (logs : List LogRecord) (served : List Channel) (s : StreamServer) :
    (r.after logs served).outcome s =
      r.outcome { s with served := s.served ++ served, journal := s.journal ++ logs } := by
  simp [outcome, after]

theorem outcomeFrame (r : StreamRun) {s t : StreamServer} (bufSize : s.bufSize = t.bufSize)
    (state : s.state = t.state) (served : s.served = t.served) (journal : s.journal = t.journal) :
    r.outcome s = r.outcome t := by
  simp only [outcome, bufSize, state, served, journal]

end StreamRun

def StreamState.move (a b : StreamState) : LogRecord :=
  ⟨.debug, some streamModule, "stream server: " ++ a.label ++ " -> " ++ b.label⟩

def refusedWalk : List LogRecord :=
  [StreamState.move .listening .accepting, StreamState.move .accepting .listening]

def servedWalk (peer : String) : List LogRecord :=
  [StreamState.move .listening .accepting, ⟨.info, some streamModule, "accepted connection from " ++ peer⟩,
    StreamState.move .accepting .serving, StreamState.move .serving .closing,
    StreamState.move .closing .listening]

def serveArrivals (bufSize : Nat) : List Arrival → Record → StreamRun
  | [], record => ⟨.io connectionAborted, refusedWalk, [], record, []⟩
  | .refused e :: rest, record => ⟨.io e, refusedWalk, [], record, rest⟩
  | .peer conn peer :: rest, record =>
    let run := serveConnection bufSize conn record
    match run.1 with
    | .error e => ⟨e, servedWalk peer, [run.2.1], run.2.2, rest⟩
    | .ok n => (serveArrivals bufSize rest run.2.2).after
        (servedWalk peer ++ [⟨.info, some streamModule,
          "connection from " ++ peer ++ " closed, " ++ toString n ++ " bytes echoed"⟩]) [run.2.1]

namespace StreamServer

theorem serveForeverStep (s : StreamServer) :
    s.serveForever = match s.serveOne with
      | (.ok _, s') => s'.serveForever
      | (.error e, s') => (.error e, s') := by
  rw [serveForever.eq_1 s]
  split
  · rename_i n s' served
    rw [served]
  · rename_i e s' failed
    rw [failed]

theorem serveOneAborted (s : StreamServer) (empty : s.arrivals = []) :
    s.serveOne = (.error (.io connectionAborted), (s.moveTo .accepting).moveTo .listening) := by
  simp [serveOne, accept, empty]

theorem serveOneRefused (s : StreamServer) {e : IoFault} {rest : List Arrival}
    (head : s.arrivals = .refused e :: rest) :
    s.serveOne = (.error (.io e), { s.moveTo .accepting with arrivals := rest }.moveTo .listening) := by
  simp [serveOne, accept, head]

theorem serveOnePeer (s : StreamServer) {conn : Channel} {peer : String} {rest : List Arrival}
    (head : s.arrivals = .peer conn peer :: rest) :
    s.serveOne = { s.moveTo .accepting with arrivals := rest }.serveAccepted conn peer := by
  simp [serveOne, accept, head]

theorem serveOneListening (s : StreamServer) : s.serveOne.2.state = .listening := by
  rcases arrivals : s.arrivals with _ | ⟨_ | ⟨e⟩, rest⟩
  · rw [serveOneAborted s arrivals]
    rfl
  · rw [serveOnePeer s arrivals]
    simp only [serveAccepted]
    split <;> rfl
  · rw [serveOneRefused s arrivals]
    rfl

theorem runsOfListening : ∀ (as : List Arrival) (s : StreamServer), s.arrivals = as → s.state = .listening →
    s.serveForever = (serveArrivals s.bufSize as s.record).outcome s
  | [], s, empty, listening => by
    rw [serveForeverStep, serveOneAborted s empty]
    simp [serveArrivals, StreamRun.outcome, refusedWalk, StreamState.move, moveTo, log, listening, empty]
  | .refused e :: rest, s, head, listening => by
    rw [serveForeverStep, serveOneRefused s head]
    simp [serveArrivals, StreamRun.outcome, refusedWalk, StreamState.move, moveTo, log, listening]
  | .peer conn peer :: rest, s, head, listening => by
    rw [serveForeverStep, serveOnePeer s head]
    simp only [serveAccepted, moveTo, log]
    rcases served : serveConnection s.bufSize conn s.record with ⟨e | n, conn', record'⟩
    · simp [serveArrivals, served, StreamRun.outcome, servedWalk, StreamState.move, listening]
    · -- the service ended well: the closing record is logged and the next arrival is served
      dsimp only
      rw [runsOfListening rest _ rfl rfl]
      simp only [serveArrivals, served, StreamRun.outcomeAfter]
      apply StreamRun.outcomeFrame <;> simp [servedWalk, StreamState.move, listening]

end StreamServer

theorem serveForeverArrivals (arrivals : List Arrival) (bufSize : Nat) :
    let r := serveArrivals bufSize arrivals []
    ({ arrivals, bufSize } : StreamServer).serveForever =
      (.error r.error, { arrivals := r.rest, bufSize, served := r.served, record := r.record, journal := r.logs }) ∧
    ∀ s : StreamServer, s.serveOne.2.state = .listening :=
  ⟨StreamServer.runsOfListening arrivals _ rfl rfl, StreamServer.serveOneListening⟩

end UpperEcho
