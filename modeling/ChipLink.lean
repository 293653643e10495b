import ChipLink.Arc.Mailbox
import ChipLink.Arc.Message
import ChipLink.Arc.Readiness
import ChipLink.Arch
import ChipLink.BringUp.Component
import ChipLink.BringUp.Status
import ChipLink.BringUp.Step
import ChipLink.BringUp.Watched
import ChipLink.Chip.Basic
import ChipLink.Chip.Error
import ChipLink.Chip.Messaging
import ChipLink.Chip.Registers
import ChipLink.Chip.Route
import ChipLink.Chip.Telemetry
import ChipLink.Duration
import ChipLink.EthAddr
import ChipLink.Ethernet.Cores
import ChipLink.Ethernet.Layout
import ChipLink.Handle.Callbacks
import ChipLink.Handle.Outcome
import ChipLink.Handle.Registry
import ChipLink.Json.Calls
import ChipLink.Json.Printer
import ChipLink.Json.Progress
import ChipLink.Json.Reader
import ChipLink.Json.Records
import ChipLink.Json.Value
import ChipLink.Main
import ChipLink.Proofs.Arc.Codec
import ChipLink.Proofs.Arc.Codes
import ChipLink.Proofs.Arc.Completion
import ChipLink.Proofs.Arc.Conduct
import ChipLink.Proofs.Arc.Exchange
import ChipLink.Proofs.Arc.Expiring
import ChipLink.Proofs.Arc.Interleaving
import ChipLink.Proofs.Arc.Patience
import ChipLink.Proofs.Arc.Responding
import ChipLink.Proofs.Arc.RoundTrip
import ChipLink.Proofs.Arc.Steadying
import ChipLink.Proofs.Arc.Undelivered
import ChipLink.Proofs.Arc.Uses
import ChipLink.Proofs.Arc.Waiting
import ChipLink.Proofs.BringUp.Elapsed
import ChipLink.Proofs.BringUp.Failures
import ChipLink.Proofs.BringUp.Looking
import ChipLink.Proofs.BringUp.Notices
import ChipLink.Proofs.BringUp.Reachable
import ChipLink.Proofs.BringUp.Reactions
import ChipLink.Proofs.BringUp.Sampling
import ChipLink.Proofs.BringUp.Stages
import ChipLink.Proofs.BringUp.Statuses
import ChipLink.Proofs.BringUp.Success
import ChipLink.Proofs.BringUp.Verdicts
import ChipLink.Proofs.BringUp.Watching
import ChipLink.Proofs.Chip.Events
import ChipLink.Proofs.Chip.Failures
import ChipLink.Proofs.Chip.Learning
import ChipLink.Proofs.Chip.Rejecting
import ChipLink.Proofs.Chip.Reporting
import ChipLink.Proofs.Chip.Routing
import ChipLink.Proofs.Handle.Alongside
import ChipLink.Proofs.Handle.Calls
import ChipLink.Proofs.Handle.Complete
import ChipLink.Proofs.Handle.Ledger
import ChipLink.Proofs.Handle.Lending
import ChipLink.Proofs.Handle.Lifecycle
import ChipLink.Proofs.Handle.Meaning
import ChipLink.Proofs.Handle.Mirrored
import ChipLink.Proofs.Register.Grammar
import ChipLink.Proofs.Session.Addresses
import ChipLink.Proofs.Session.Bindings
import ChipLink.Proofs.Session.Calls
import ChipLink.Proofs.Session.Chains
import ChipLink.Proofs.Session.Closing
import ChipLink.Proofs.Session.Elapsed
import ChipLink.Proofs.Session.Evolving
import ChipLink.Proofs.Session.Expiring
import ChipLink.Proofs.Session.Failures
import ChipLink.Proofs.Session.History
import ChipLink.Proofs.Session.Interference
import ChipLink.Proofs.Session.Links
import ChipLink.Proofs.Session.Mailboxes
import ChipLink.Proofs.Session.Named
import ChipLink.Proofs.Session.Observing
import ChipLink.Proofs.Session.Overrides
import ChipLink.Proofs.Session.Overwriting
import ChipLink.Proofs.Session.Performing
import ChipLink.Proofs.Session.Rejected
import ChipLink.Proofs.Session.Reliable
import ChipLink.Proofs.Session.Reporting
import ChipLink.Proofs.Session.Routes
import ChipLink.Proofs.Session.Sleeping
import ChipLink.Proofs.Session.Steady
import ChipLink.Proofs.Session.Telemetry
import ChipLink.Proofs.Session.Transcripts
import ChipLink.Proofs.Session.Twins
import ChipLink.Proofs.Session.Undelivered
import ChipLink.Proofs.Sim.Agreement
import ChipLink.Proofs.Sim.Apart
import ChipLink.Proofs.Sim.Blocks
import ChipLink.Proofs.Sim.Bridge
import ChipLink.Proofs.Sim.Broadcasting
import ChipLink.Proofs.Sim.Building
import ChipLink.Proofs.Sim.Coherence
import ChipLink.Proofs.Sim.Confinement
import ChipLink.Proofs.Sim.Detection
import ChipLink.Proofs.Sim.Everywhere
import ChipLink.Proofs.Sim.Firmware
import ChipLink.Proofs.Sim.NodeMemory
import ChipLink.Proofs.Sim.Nodes
import ChipLink.Proofs.Sim.Polling
import ChipLink.Proofs.Sim.Published
import ChipLink.Proofs.Sim.Reach
import ChipLink.Proofs.Sim.Registers
import ChipLink.Proofs.Sim.Steady
import ChipLink.Proofs.Sim.Words
import ChipLink.Proofs.Sim.Worlds
import ChipLink.Proofs.Text.Numerals
import ChipLink.Proofs.Transport.Commuting
import ChipLink.Proofs.Transport.Failures
import ChipLink.Proofs.Transport.Keeping
import ChipLink.Proofs.Transport.Outcomes
import ChipLink.Proofs.Transport.Recitals
import ChipLink.Proofs.Transport.Runs
import ChipLink.Proofs.Transport.Scenes
import ChipLink.Proofs.Transport.Transcripts
import ChipLink.Proofs.Transport.Unfolding
import ChipLink.Register.Path
import ChipLink.Register.Table
import ChipLink.Session.Desk
import ChipLink.Session.Link
import ChipLink.Session.Request
import ChipLink.Sim.Bench
import ChipLink.Sim.Chip
import ChipLink.Sim.Fabric
import ChipLink.Sim.HostError
import ChipLink.Sim.Memory
import ChipLink.Sim.World
import ChipLink.Survey.Options
import ChipLink.Survey.Report
import ChipLink.Survey.Run
import ChipLink.Text.Numeral
import ChipLink.Text.Quoted
import ChipLink.Text.Unpictured
import ChipLink.Transport.Basic
import ChipLink.Transport.Binding
import ChipLink.Transport.Call
import ChipLink.Transport.Dialogue
import ChipLink.Transport.Fault
import ChipLink.Transport.Scripted
import ChipLink.Word
