import Gatehouse.Cache.Shared
import Gatehouse.Chain.Exchange
import Gatehouse.Main
import Gatehouse.Proofs.Cache.Key
import Gatehouse.Proofs.Chain.Guard
import Gatehouse.Proofs.Chain.Layers
import Gatehouse.Proofs.Chain.Provenance
import Gatehouse.Proofs.Country.Verdict
import Gatehouse.Proofs.Cache.Accounting
import Gatehouse.Proofs.Cache.Alone
import Gatehouse.Proofs.Chain.Onward
import Gatehouse.Proofs.Chain.Annotation
import Gatehouse.Proofs.Forward.Delivery
import Gatehouse.Proofs.Chain.Transparency
import Gatehouse.Proofs.Chain.Variants
import Gatehouse.Proofs.Chain.Endings
import Gatehouse.Proofs.Text
import Gatehouse.Proofs.Address.Carried
import Gatehouse.Proofs.Database.Walk
import Gatehouse.Proofs.Country.Mapped
import Gatehouse.Proofs.Forward.Host
import Gatehouse.Proofs.Chain.Order
import Gatehouse.Proofs.Forward.Frame
import Gatehouse.Proofs.Forward.Stripping
import Gatehouse.Proofs.Address.Written
import Gatehouse.Proofs.Address.Groups
import Gatehouse.Proofs.Cache.Directive
import Gatehouse.Proofs.Forward.Account
import Gatehouse.Proofs.Forward.BodyLimit
import Gatehouse.Proofs.Cache.Restriction
import Gatehouse.Proofs.Forward.Trail
import Gatehouse.Proofs.Chain.Journey
import Gatehouse.Proofs.Chain.Filing
import Gatehouse.Proofs.Chain.Merging
import Gatehouse.Proofs.Chain.Outcome
import Gatehouse.Proofs.Chain.Tally
import Gatehouse.Proofs.Cache.Interleaving
import Gatehouse.Proofs.Cache.Overshoot
import Gatehouse.Proofs.Cache.Eviction
import Gatehouse.Proofs.Notices
import Gatehouse.Proofs.Cache.History
import Gatehouse.Proofs.Cache.Storability
import Gatehouse.Proofs.Chain.Returning
import Gatehouse.Proofs.Chain.Residue
import Gatehouse.Proofs.Address.RoundTrip
import Gatehouse.Proofs.Address.Networks
import Gatehouse.Proofs.Config.Acceptance
import Gatehouse.Proofs.Country.Configured
import Gatehouse.Proofs.Url.Name
import Gatehouse.Proofs.Url.Parts
import Gatehouse.Proofs.Http.Authority
import Gatehouse.Proofs.Forward.Starting
import Gatehouse.Proofs.Forward.Destination
import Gatehouse.Proofs.Country.Editing
import Gatehouse.Proofs.Config.Reporting
