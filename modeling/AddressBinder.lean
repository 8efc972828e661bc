import AddressBinder.Binder.Operation
import AddressBinder.Candidate.Decode
import AddressBinder.Cloud.Codec
import AddressBinder.Cloud.Memory
import AddressBinder.Config.Codec
import AddressBinder.Daemon.Wiring
import AddressBinder.Decision
import AddressBinder.Discovery.Records
import AddressBinder.Http.Metadata
import AddressBinder.Http.NameService
import AddressBinder.Json.Printer
import AddressBinder.Main
import AddressBinder.Simulation.Attempts
import AddressBinder.Simulation.Daemon
import AddressBinder.Simulation.Passes
import AddressBinder.Simulation.Session
import AddressBinder.Proofs.Program.Protocol
import AddressBinder.Proofs.Lifecycle.Run
import AddressBinder.Proofs.Pass.Conduct
import AddressBinder.Proofs.Lifecycle.Part
import AddressBinder.Proofs.Lifecycle.Conduct
import AddressBinder.Proofs.Lifecycle.Move
import AddressBinder.Proofs.Lifecycle.Cast
import AddressBinder.Proofs.Lifecycle.Follow
import AddressBinder.Proofs.Lifecycle.LateAttach
import AddressBinder.Proofs.Lifecycle.Events
import AddressBinder.Proofs.Decision
import AddressBinder.Proofs.Pass.Decide
import AddressBinder.Proofs.Cloud.Entries
import AddressBinder.Proofs.Cloud.Attachments
import AddressBinder.Proofs.Cloud.History
import AddressBinder.Proofs.Lifecycle.Loyalty
import AddressBinder.Proofs.Fleet.Run
import AddressBinder.Proofs.Fleet.Stealing
import AddressBinder.Proofs.Lifecycle.Finding
import AddressBinder.Proofs.Pass.Alone
import AddressBinder.Proofs.Fleet.Convergence
import AddressBinder.Proofs.Lifecycle.Knowledge
import AddressBinder.Proofs.Fleet.Contest
import AddressBinder.Proofs.Cloud.Lending
import AddressBinder.Proofs.Lifecycle.Closing
import AddressBinder.Proofs.Fleet.Restoring
import AddressBinder.Proofs.Lifecycle.Naming
import AddressBinder.Proofs.Lifecycle.Watching
import AddressBinder.Proofs.Lifecycle.Memoryless
import AddressBinder.Proofs.Lifecycle.Steady
import AddressBinder.Proofs.Fleet.Keeping
import AddressBinder.Proofs.Text.Words
import AddressBinder.Proofs.Text.Split
import AddressBinder.Proofs.Text.Items
import AddressBinder.Proofs.Program.Serving
import AddressBinder.Proofs.Candidate.Host
import AddressBinder.Proofs.Discovery.Tokens
import AddressBinder.Proofs.Discovery.Listing
import AddressBinder.Proofs.Discovery.Agreement
import AddressBinder.Proofs.Discovery.Static
import AddressBinder.Proofs.Discovery.Chain
import AddressBinder.Proofs.Http.Strings
import AddressBinder.Proofs.Http.Query
import AddressBinder.Proofs.Json.Strings
import AddressBinder.Proofs.Json.Spelling
import AddressBinder.Proofs.Json.Record
import AddressBinder.Proofs.Net.Ipv4
import AddressBinder.Proofs.Cloud.Codec
import AddressBinder.Proofs.Config.Codec
import AddressBinder.Proofs.Config.Account
import AddressBinder.Proofs.Machine
import AddressBinder.Proofs.Simulation.Instant
import AddressBinder.Proofs.Simulation.Threads
import AddressBinder.Proofs.Simulation.Pausing
import AddressBinder.Proofs.Simulation.Parts
import AddressBinder.Proofs.Simulation.Course
import AddressBinder.Proofs.Daemon.Acceptance
import AddressBinder.Proofs.Daemon.Pool
import AddressBinder.Proofs.Daemon.ServiceUrls
import AddressBinder.Proofs.Daemon.Layout
import AddressBinder.Proofs.Daemon.Tenure
import AddressBinder.Proofs.Pass.Journey
import AddressBinder.Proofs.Program.Rounds
import AddressBinder.Proofs.Simulation.Attempts
import AddressBinder.Proofs.Simulation.Timetable
import AddressBinder.Proofs.Simulation.Shift
import AddressBinder.Proofs.Lifecycle.Unclosed
import AddressBinder.Proofs.Lifecycle.Startup
import AddressBinder.Proofs.Lifecycle.Completion
import AddressBinder.Proofs.Lifecycle.Outcome
import AddressBinder.Proofs.Decision.Ranking
import AddressBinder.Proofs.Lifecycle.Health
import AddressBinder.Proofs.Pass.Unbinding
import AddressBinder.Proofs.Lifecycle.Releasing
import AddressBinder.Proofs.Program.Securing
import AddressBinder.Proofs.Fleet.Outlook
import AddressBinder.Proofs.Fleet.Snapshot
import AddressBinder.Proofs.Candidate.Url
import AddressBinder.Proofs.Candidate.Bare
import AddressBinder.Proofs.Net.Ipv6
import AddressBinder.Proofs.Candidate.Grammar
import AddressBinder.Proofs.Candidate.Resolution
import AddressBinder.Proofs.Cloud.Refusal
import AddressBinder.Proofs.Pass.Choosing
import AddressBinder.Proofs.Http.Packaging
import AddressBinder.Proofs.Daemon.Loading
import AddressBinder.Proofs.Simulation.Transcript
import AddressBinder.Proofs.Daemon.Secrecy
import AddressBinder.Proofs.Pass.Failures
import AddressBinder.Proofs.Text.Offsets
import AddressBinder.Proofs.Candidate.Slices
