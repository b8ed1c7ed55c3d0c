import Gatehouse.Config.Basic
import Gatehouse.Country.Filter
import Gatehouse.Database.Opening
import Gatehouse.Report.Event

/-!
# From configuration to country filter

A database that cannot be opened is reported and switches filtering off; it
never keeps the gate from starting.

The filter needs a lookup; without one there is none, whatever the lists
say. With one, the lists become a policy, and the operator is told which
policy is in force and whether the block list was left out of it.
-/

namespace Gatehouse.Startup

open Country

/-- **The country database** of a configuration, where filtering is switched
on, and what there is to report about it. -/
def openDatabase {m : Type → Type} [Monad m] (openFile : String → m Files.Opened)
    (c : Config.GeoIp) : m (Option Database × List Event) := do
  if !c.enabled then return (none, [])
  match ← Database.openConfigured openFile c.databasePath with
  | .ok d =>
    return (some d, [.databaseOpened d.path d.metadata.databaseType d.metadata.buildEpoch,
      .databaseLoaded d.path])
  | .error e => return (none, [.databaseUnavailable e.message])

/-- **The country filter** of a configuration around a lookup, and what
there is to report about it. -/
def countryFilter (c : Config.GeoIp) (lookup : Option Lookup) :
    Option Filter × List Event :=
  match lookup with
  | none => (none, [])
  | some lookup =>
    let policy := Policy.ofLists c.allowCountries c.blockCountries
    let notes :=
      if !c.allowCountries.isEmpty && !c.blockCountries.isEmpty then
        [Event.bothLists c.allowCountries c.blockCountries]
      else []
    (some ⟨policy, lookup⟩, notes ++ [.filterEnabled policy])

end Gatehouse.Startup
