import Gatehouse.CommandLine
import Gatehouse.Config.Reader
import Gatehouse.Report.LogFilter
import Gatehouse.Server
import Gatehouse.Shutdown

/-!
# A run of the program

The course of a run is fixed here and nothing else: the configuration is
read, overridden, and only then checked, so that an option may mend what a
file got wrong; the log begins in between, so that nothing is reported
before it is known how. Then come the metrics, the listener and the server,
and after a signal the way back.

Everything that touches the machine is a field of `Host`, so the same course
runs on a real machine and on a described one.
-/

namespace Gatehouse

/-- Why a run ends before it serves, or while it does. -/
inductive LaunchError where
  /-- There is no acceptable configuration. -/
  | config (error : Config.ReadError)
  /-- The listener cannot be had. -/
  | io
  /-- The configured target is no destination. -/
  | invalidTarget (error : Server.InvalidTarget)
deriving DecidableEq, Inhabited

/-- A request to stop. -/
inductive Signal where
  | interrupt
  | terminate
deriving DecidableEq, Inhabited

/-- The name of a signal. -/
def Signal.name : Signal → String
  | .interrupt => "SIGINT"
  | .terminate => "SIGTERM"

/-- **What a run asks of its machine.** Listeners are of type `L`, servers
at work of type `R`. -/
structure Host (m : Type → Type) (L R : Type) where
  /-- Opens a path. -/
  openFile : String → m Files.Opened
  /-- The log filter of the environment. -/
  logFilter : Option String
  /-- Begins the log. -/
  startLog : LogFilter → Config.LogFormat → m Unit
  /-- Reports an event to the log. -/
  report : Event → m Unit
  /-- Serves the metrics at an endpoint, and tells whether it can. -/
  exposeMetrics : Endpoint → m Bool
  /-- Listens at an endpoint, if it can. -/
  bind : Endpoint → m (Option L)
  /-- The endpoint of a listener. -/
  endpoint : L → m Endpoint
  /-- Puts a server to work. -/
  start : L → Config → Server → m R
  /-- Waits for a request to stop. -/
  awaitSignal : m Signal
  /-- Stops accepting, and waits for the requests at work. -/
  drain : R → m Unit

namespace Launch

/-- The configuration with the options in force. -/
def override (c : Config) (o : Options) : Config :=
  { c with
    listener := { c.listener with bindAddress := o.bind.getD c.listener.bindAddress }
    backend := { c.backend with targetUrl := o.target.getD c.backend.targetUrl } }

/-- The contents of an opened file. -/
def contents? : Files.Opened → Option Bytes
  | .found (.file data) _ => some data
  | _ => none

section

variable {m : Type → Type} [Monad m] {L R : Type}

/-- The configuration that the options name, overridden but not checked. -/
def readConfig (h : Host m L R) (o : Options) : ExceptT LaunchError m Config :=
  match o.config with
  | none => return override .default o
  | some path => do
    let opened ← h.openFile path
    match Config.ofFile (contents? opened) with
    | .ok c => return override c o
    | .error e => throw (.config e)

/-- Reports events in their order. -/
def reportAll (h : Host m L R) (events : List Event) : m Unit :=
  events.forM h.report

/-- Exposes the metrics, if that is configured. A failure is reported and
changes nothing else. -/
def exposeMetrics (h : Host m L R) (c : Config.Observability) : m Unit := do
  if c.metricsEnabled then
    match Endpoint.parse? c.metricsAddress with
    | none => h.report (.metricsAddressUnreadable c.metricsAddress)
    | some e =>
      if ← h.exposeMetrics e then h.report (.metricsListening e.toText)
      else h.report (.metricsFailed e.toText)

/-- Listens where the configuration says. -/
def listen (h : Host m L R) (c : Config.Listener) : ExceptT LaunchError m L := do
  match Endpoint.parse? c.bindAddress with
  | none => throw .io
  | some e =>
    match ← h.bind e with
    | some l => return l
    | none => throw .io

/-- Gives a database up. -/
def close (h : Host m L R) (d : Option Database) : m Unit :=
  match d with
  | some d => h.report (.databaseClosed d.path)
  | none => pure ()

/-- Serves until a signal comes, and then until no request is left. -/
def serve (h : Host m L R) (c : Config) (l : L) (s : Server) (d : Option Database) :
    m Unit := do
  let (_, notices) := Shutdown.new.subscribe
  h.report (.serverStarting (← h.endpoint l).toText)
  let running ← h.start l c s
  h.report (.signalReceived (← h.awaitSignal).name)
  let (listeners, _) := notices.trigger
  h.report (.shutdownTriggered listeners)
  h.report .serverDraining
  h.drain running
  close h d
  h.report .serverStopped

/-- **The run with the given options.** -/
def run (h : Host m L R) (o : Options) : ExceptT LaunchError m Unit := do
  let c ← readConfig h o
  h.startLog (LogFilter.settle h.logFilter c.observability.logLevel)
    c.observability.logFormat
  if !c.problems.isEmpty then throw (.config (.invalid c.problems))
  h.report (.starting c.listener.bindAddress c.backend.targetUrl c.geoip.enabled)
  ExceptT.lift (exposeMetrics h c.observability)
  let l ← listen h c.listener
  let (d, notes) ← ExceptT.lift (Startup.openDatabase h.openFile c.geoip)
  ExceptT.lift (reportAll h notes)
  match ← ExceptT.lift (Server.assemble h.openFile c (d.map Database.lookup)) with
  | .error e =>
    ExceptT.lift (close h d)
    throw (.invalidTarget e)
  | .ok (s, notes) =>
    ExceptT.lift (reportAll h notes)
    ExceptT.lift (serve h c l s d)
    h.report .shutdownComplete

end

end Launch

/-- What an error is called where the program ends with it. -/
def LaunchError.toText : LaunchError → String
  | .config (.invalid problems) =>
    "Config(Validation([" ++ Text.join ", " (problems.map Config.Problem.toText) ++ "]))"
  | .config .unreadable => "Config(Io)"
  | .config .malformed => "Config(Parse)"
  | .io => "Io"
  | .invalidTarget e =>
    "InvalidUpstream \x7b url: " ++ Text.quote e.url ++ ", reason: "
      ++ Text.quote e.fault.message ++ " \x7d"

/-- The exit status of a run. -/
def exitCode {α : Type} : Except LaunchError α → Nat
  | .ok _ => 0
  | .error _ => 1

end Gatehouse
