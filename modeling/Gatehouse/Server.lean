import Gatehouse.Chain.Assembly
import Gatehouse.Forward.Handler
import Gatehouse.Startup

/-!
# The server

A server is a plan of layers around a forwarder. Making one reads the page
for an unreachable backend and settles the country filter; it fails only
when the configured target is no destination. Everything that is worth a
report on the way is reported in the order in which it happens.
-/

namespace Gatehouse

open Chain Forward

/-- **A server**, ready to answer requests. -/
structure Server where
  plan : Plan
  forwarder : Forwarder

namespace Server

/-- A configured target that is no destination. -/
structure InvalidTarget where
  url : String
  fault : TargetFault
deriving DecidableEq, Inhabited

/-- The text of an invalid target. -/
def InvalidTarget.message (e : InvalidTarget) : String :=
  "invalid upstream target " ++ e.url ++ ": " ++ e.fault.message

/-- The page for an unreachable backend, and what there is to report about
it. -/
def readPage {m : Type → Type} [Monad m] (openFile : String → m Files.Opened)
    (path : Option String) : m (Option Bytes × List Event) := do
  match path with
  | none => return (none, [])
  | some path =>
    match ← openFile path with
    | .found (.file data) _ => return (some data, [])
    | _ => return (none, [.pageUnreadable path])

/-- **The server of a configuration** around a country lookup, and what
there is to report about it. -/
def assemble {m : Type → Type} [Monad m] (openFile : String → m Files.Opened)
    (c : Config) (lookup : Option Country.Lookup) :
    m (Except InvalidTarget (Server × List Event)) := do
  match Target.parse c.backend.targetUrl with
  | .error fault => return .error ⟨c.backend.targetUrl, fault⟩
  | .ok target =>
    let (page, pageNotes) ← readPage openFile c.backend.badGatewayPage
    let (filter, filterNotes) := Startup.countryFilter c.geoip lookup
    let plan := Plan.ofConfig c filter
    return .ok (⟨plan, ⟨target, c.backend.forwardHeaders, page⟩⟩,
      pageNotes ++ filterNotes ++ [.chainAssembled plan.layers])

/-- How the server answers. -/
def serve {m : Type → Type} [Monad m] (s : Server) (w : World m)
    (connect : Connector m) : Handler m :=
  s.plan.serve w (s.forwarder.handle w connect)

end Server

end Gatehouse
