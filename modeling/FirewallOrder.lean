import FirewallOrder.Controller.Memory
import FirewallOrder.Http.Script
import FirewallOrder.Main
import FirewallOrder.Provider.Locks
import FirewallOrder.Proofs.Dialogue.Run
import FirewallOrder.Proofs.Ordering.Plan
import FirewallOrder.Proofs.Ordering.Layout
import FirewallOrder.Proofs.Controller.Keeper
import FirewallOrder.Proofs.Managed.Runs
import FirewallOrder.Proofs.Managed.Arrange
import FirewallOrder.Proofs.Managed.Refuse
import FirewallOrder.Proofs.Managed.Resume
import FirewallOrder.Proofs.Managed.Preview
import FirewallOrder.Proofs.Managed.Session
import FirewallOrder.Proofs.Dialogue.Apart
import FirewallOrder.Proofs.Controller.Portion
import FirewallOrder.Proofs.Managed.Turns
import FirewallOrder.Proofs.Managed.Parallel
import FirewallOrder.Proofs.Ordering.Rearrange
import FirewallOrder.Proofs.Managed.Shared
import FirewallOrder.Proofs.Managed.Overlooked
import FirewallOrder.Proofs.Managed.Checked
import FirewallOrder.Proofs.Ordering.Fewest
import FirewallOrder.Proofs.Controller.Endpoint
import FirewallOrder.Proofs.Url.Path
import FirewallOrder.Proofs.Controller.Function
import FirewallOrder.Proofs.Provider.Errand
import FirewallOrder.Proofs.Provider.Conduct
import FirewallOrder.Proofs.Provider.History
import FirewallOrder.Proofs.Provider.Service
import FirewallOrder.Proofs.Command.Session
import FirewallOrder.Proofs.Command.Logins
import FirewallOrder.Proofs.Controller.Token
import FirewallOrder.Proofs.Controller.Envelope
import FirewallOrder.Proofs.Provider.Outcome
import FirewallOrder.Proofs.Command.ExitCode
import FirewallOrder.Proofs.Json.Decoder
import FirewallOrder.Proofs.Json.Record
import FirewallOrder.Proofs.Controller.Shape
import FirewallOrder.Proofs.Controller.Reply
import FirewallOrder.Proofs.Ruleset.Name
import FirewallOrder.Proofs.Ruleset.Identifier
import FirewallOrder.Proofs.Command.Identifier
import FirewallOrder.Proofs.Json.Canonical
import FirewallOrder.Proofs.Json.RoundTrip
import FirewallOrder.Proofs.Number.Whole
import FirewallOrder.Proofs.Rule.RoundTrip
import FirewallOrder.Proofs.Managed.RoundTrip
import FirewallOrder.Proofs.Command.Layers
import FirewallOrder.Proofs.Command.Credentials
import FirewallOrder.Proofs.Text.ByteOrder
import FirewallOrder.Proofs.Ordering.Report
import FirewallOrder.Proofs.Provider.Locks
import FirewallOrder.Proofs.Ordering.Compact
import FirewallOrder.Proofs.Ordering.Evaluation
import FirewallOrder.Proofs.Managed.Idle
import FirewallOrder.Proofs.Managed.Identity
import FirewallOrder.Proofs.Ruleset.Canonical
