import ChainWatch.Json.Parse
import ChainWatch.Json.Print
import ChainWatch.Wire.Decode
import ChainWatch.Wire.Quantity
import ChainWatch.Wire.QuotedInt
import ChainWatch.Chain.Time
import ChainWatch.Chain.Codec
import ChainWatch.Rpc.Reply
import ChainWatch.Beacon.Payload
import ChainWatch.State.Error
import ChainWatch.State.Config
import ChainWatch.Report.Error
import ChainWatch.Sim.Fiber
import ChainWatch.Health.Gates
import ChainWatch.Sim.Window
import ChainWatch.State.Snapshot
import ChainWatch.State.Fetch
import ChainWatch.State.Accounts
import ChainWatch.State.Manager
import ChainWatch.Scripted.Execution
import ChainWatch.Scripted.Beacon
import ChainWatch.Scenario.World
import ChainWatch.Json.Fields
import ChainWatch.Scenario.Step
import ChainWatch.Scenario.Run
import ChainWatch.Url.Parse
import ChainWatch.Http.Execution
import ChainWatch.Daemon.Cli
import ChainWatch.Daemon.Run
import ChainWatch.Main
import ChainWatch.Proofs.Fiber.Ends
import ChainWatch.Proofs.Fiber.Token
import ChainWatch.Proofs.Fiber.Frame
import ChainWatch.Proofs.Fiber.Pool
import ChainWatch.Proofs.State.Frame
import ChainWatch.Proofs.Scenario.Laws
import ChainWatch.Proofs.State.Build
import ChainWatch.Proofs.State.Publication
import ChainWatch.Proofs.Health.Selection
import ChainWatch.Proofs.Health.WaitLock
import ChainWatch.Proofs.Health.Waiters
import ChainWatch.Proofs.State.Walk
import ChainWatch.Proofs.State.Anchor
import ChainWatch.Proofs.Wire.Record
import ChainWatch.Proofs.Chain.Config
import ChainWatch.Proofs.Fiber.Timely
import ChainWatch.Proofs.Health.Deadline
import ChainWatch.Proofs.Fiber.Limit
import ChainWatch.Proofs.Health.Outcomes
import ChainWatch.Proofs.Health.Rounds
import ChainWatch.Proofs.Health.SyncWait
import ChainWatch.Proofs.Health.Pacing
import ChainWatch.Proofs.Fiber.Collect
import ChainWatch.Proofs.State.Batches
import ChainWatch.Proofs.Chain.Clock
import ChainWatch.Proofs.State.Accounts
import ChainWatch.Proofs.Http.BatchReplies
import ChainWatch.Proofs.Wire.Hex
import ChainWatch.Proofs.Chain.AddressText
import ChainWatch.Proofs.Wire.Payloads
import ChainWatch.Proofs.State.Cancellation
import ChainWatch.Proofs.Daemon.Settings
import ChainWatch.Proofs.Fiber.InOrder
