import MeshAgent.Main
import MeshAgent.Session.Run
import MeshAgent.Endpoint
import MeshAgent.Wire.Refresh
import MeshAgent.Proofs.Store.Progress
import MeshAgent.Proofs.Store.Transaction
import MeshAgent.Proofs.Store.Reads
import MeshAgent.Proofs.Store.Callback
import MeshAgent.Proofs.Store.Operations
import MeshAgent.Proofs.Store.Calls
import MeshAgent.Proofs.Address.Printed
import MeshAgent.Proofs.Key.Written
import MeshAgent.Proofs.Database.Rows
import MeshAgent.Proofs.Store.Sound
import MeshAgent.Proofs.Store.Effects
import MeshAgent.Proofs.Store.Blocks
import MeshAgent.Proofs.Home.Site
import MeshAgent.Proofs.Home.Reachable
import MeshAgent.Proofs.Home.Callbacks
import MeshAgent.Proofs.Home.Failures
import MeshAgent.Proofs.Home.Runs
import MeshAgent.Proofs.Home.Refinement
import MeshAgent.Proofs.Home.Convergence
import MeshAgent.Proofs.Store.Evolution
import MeshAgent.Proofs.Home.Actions
import MeshAgent.Proofs.Home.Consistency
import MeshAgent.Proofs.Home.LogGrowth
import MeshAgent.Proofs.Home.Status
import MeshAgent.Proofs.Json.Written
import MeshAgent.Proofs.DateTime.Calendar
import MeshAgent.Proofs.DateTime.Written
import MeshAgent.Proofs.DateTime.Valid
import MeshAgent.Proofs.Wire.Fields
import MeshAgent.Proofs.Wire.Messages
import MeshAgent.Proofs.Wire.RoundTrip
import MeshAgent.Proofs.Secret.Authentic
import MeshAgent.Proofs.Store.Fields
import MeshAgent.Proofs.Store.Damaged
import MeshAgent.Proofs.Home.FailClosed
import MeshAgent.Proofs.Home.Tokens
import MeshAgent.Proofs.Secrecy.Masked
import MeshAgent.Proofs.Secrecy.Parallel
import MeshAgent.Proofs.Secrecy.Twin
import MeshAgent.Proofs.Secrecy.Statements
import MeshAgent.Proofs.Secrecy.Writes
import MeshAgent.Proofs.Secrecy.Calls
import MeshAgent.Proofs.Home.Secrecy
import MeshAgent.Proofs.Store.Outcomes
import MeshAgent.Proofs.Store.Refusals
import MeshAgent.Proofs.Home.Taxonomy
import MeshAgent.Proofs.Home.DamagedLog
import MeshAgent.Proofs.Store.Independence
import MeshAgent.Proofs.Home.Commutation
import MeshAgent.Proofs.Home.Nesting
import MeshAgent.Proofs.Home.Handles
import MeshAgent.Proofs.Home.FailingSteps
import MeshAgent.Proofs.Home.Storing
import MeshAgent.Proofs.Home.StoreKey
import MeshAgent.Proofs.Endpoint.Spelled
import MeshAgent.Proofs.Wire.Gate
import MeshAgent.Proofs.Home.Recording
import MeshAgent.Proofs.Home.Refreshing
import MeshAgent.Proofs.Home.Joining
import MeshAgent.Proofs.Key.Spelled
import MeshAgent.Proofs.Terminal.Marked
import MeshAgent.Proofs.CommandLine.Printed
import MeshAgent.Proofs.Home.Looking
import MeshAgent.Proofs.CommandLine.Running
import MeshAgent.Proofs.Yaml.Cursor
import MeshAgent.Proofs.Yaml.Folded
import MeshAgent.Proofs.Yaml.Plain
import MeshAgent.Proofs.Yaml.Quoted
import MeshAgent.Proofs.Yaml.Escaped
import MeshAgent.Proofs.Yaml.Number
import MeshAgent.Proofs.Yaml.Scalar
import MeshAgent.Proofs.Yaml.Value
import MeshAgent.Proofs.Yaml.Line
import MeshAgent.Proofs.Yaml.Mapping
import MeshAgent.Proofs.Yaml.Room
import MeshAgent.Proofs.CommandLine.ReadOnly
import MeshAgent.Proofs.CommandLine.Displayed
import MeshAgent.Proofs.Home.Configured
