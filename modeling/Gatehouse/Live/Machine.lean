import Gatehouse.Chain.World
import Gatehouse.Launch
import Gatehouse.Live.Listener
import Gatehouse.Report.LogLine
import Std.Async.Signal
import Std.Async.Timer

/-!
# A real machine

The run of the program on the machine it is started on: files, clocks,
sockets and signals of the operating system.
-/

namespace Gatehouse.Live

open Http Chain Cache Std.Async

/-- How the log is written. -/
structure LogSettings where
  filter : LogFilter
  format : Config.LogFormat

/-- What everything at work on a machine shares. -/
structure Machine where
  log : IO.Ref (Option LogSettings)
  metrics : IO.Ref Metrics

namespace Machine

/-- Opens a path. -/
def openFile (path : String) : IO Files.Opened := do
  if path.isEmpty || path.toList.any (·.toNat == 0) then return .missing
  let place := (← IO.currentDir) / path
  try
    let about ← place.metadata
    let modified := about.modified.sec.toNat
    match about.type with
    | .dir => return .found .directory modified
    | _ => return .found (.file (← IO.FS.readBinFile place).toList) modified
  catch
    | .noFileOrDirectory .. => return .missing
    | .permissionDenied .. => return .missing
    | .inappropriateType .. => return .missing
    | _ => return .failed

/-- The moment it is. -/
def moment : IO LogLine.Moment := do
  let now := (← Std.Time.Timestamp.now).toNanosecondsSinceUnixEpoch.val.toNat
  return ⟨now / 1000000000, now % 1000000000⟩

/-- Writes an event to the log, if the log is to have it. -/
def report (m : Machine) (e : Event) : IO Unit := do
  match ← m.log.get with
  | none => return
  | some settings =>
    if settings.filter.admits e then
      match settings.format with
      | .json => IO.println (LogLine.json (← moment) e)
      | .pretty => IO.println (LogLine.pretty (← moment) e)

/-- The longest time limit, in seconds. -/
def maxSeconds : Nat := 1000000000

/-- Runs something for at most so many seconds, and for a millisecond in any
case. -/
def within (seconds : Nat) (act : Async Response) : Async (Option Response) :=
  Async.race (do return some (← act)) do
    sleep (.ofNat (max 1 (min seconds maxSeconds * 1000)))
    return none

/-- What a chain with a store may do on the machine. -/
def world (m : Machine) (store : IO.Ref Store) : World Async where
  now := return ⟨← IO.monoNanosNow⟩
  millis := do
    let t ← moment
    return t.seconds * 1000 + t.nanos / 1000000
  onStore f := store.modifyGet f
  choose := fun _ => 0
  report e := m.report e
  count c := m.metrics.modify (·.increment c)
  openFile path := openFile path
  within := within
  abandon := throw (IO.userError "a lifetime leads past the end of the clock")

/-- Answers with the metrics. -/
def exposition (m : Machine) : Handler Async := fun _ => do
  let lines := (← m.metrics.get).lines
  return .text .ok (String.join (lines.map (· ++ "\n")))

/-- Listens at an endpoint, if it can. -/
def bind? (e : Endpoint) : IO (Option Listener) := do
  try return some (← Listener.bind e)
  catch _ => return none

/-- Serves the metrics at an endpoint, and tells whether it can. -/
def exposeMetrics (m : Machine) (e : Endpoint) : Async Bool := do
  match ← bind? e with
  | none => return false
  | some l =>
    background (l.accept m.exposition)
    return true

/-- Puts a server to work. -/
def start (m : Machine) (l : Listener) (c : Config) (s : Server) : Async Listener := do
  let store ← IO.mkRef (Store.empty c.cache.capacity c.cache.maxItemSize)
  background (l.accept (s.serve (m.world store) ask))
  return l

/-- Waits for a signal. -/
def awaitSignal : Async Gatehouse.Signal := do
  let interrupt ← Std.Async.Signal.Waiter.mk .sigint false
  let terminate ← Std.Async.Signal.Waiter.mk .sigterm false
  let interrupted ← interrupt.wait
  let terminated ← terminate.wait
  Async.race (do let _ ← await interrupted; return .interrupt)
    (do let _ ← await terminated; return .terminate)

/-- Stops accepting, and waits for the connections at work. -/
def drain (l : Listener) : Async Unit := do
  l.stop.cancel
  l.drained

/-- **The machine the program runs on.** -/
def host : IO (Host Async Listener Listener) := do
  let m : Machine := ⟨← IO.mkRef none, ← IO.mkRef Metrics.empty⟩
  return {
    openFile := fun path => openFile path
    logFilter := ← IO.getEnv "RUST_LOG"
    startLog := fun filter format => m.log.set (some ⟨filter, format⟩)
    report := fun e => m.report e
    exposeMetrics := m.exposeMetrics
    bind := fun e => bind? e
    endpoint := fun l => l.endpoint
    start := m.start
    awaitSignal := awaitSignal
    drain := drain }

end Machine

end Gatehouse.Live
