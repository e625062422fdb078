import Steading.Activity
import Steading.Address
import Steading.Cluster
import Steading.Cluster.Http
import Steading.Cluster.Reply
import Steading.Cluster.Simulated
import Steading.Cluster.Target
import Steading.CommandLine.Arguments
import Steading.CommandLine.Flag
import Steading.CommandLine.Help
import Steading.CommandLine.Rehearsal
import Steading.CommandLine.Report
import Steading.CommandLine.Session
import Steading.Duration
import Steading.Entitlement
import Steading.Failure
import Steading.Ingress
import Steading.Json.Basic
import Steading.Json.Decode
import Steading.Json.Reader
import Steading.Json.Settled
import Steading.Json.Writer
import Steading.Lifecycle
import Steading.Lock
import Steading.Main
import Steading.Manifest.Config
import Steading.Manifest.Encode
import Steading.Manifest.GameArgs
import Steading.Manifest.Object
import Steading.Manifest.Shape
import Steading.Manifest.Shape.Claim
import Steading.Manifest.Shape.Container
import Steading.Manifest.Shape.Deployment
import Steading.Manifest.Shape.Metadata
import Steading.Manifest.Shape.Pod
import Steading.Manifest.Shape.Volume
import Steading.Manifest.Tenant
import Steading.Modifier
import Steading.Modifier.Key
import Steading.Plan
import Steading.Program
import Steading.Provision
import Steading.Server
import Steading.Server.Scale
import Steading.Server.State
import Steading.Settings
import Steading.Settle
import Steading.Simulation
import Steading.Store
import Steading.Store.Document
import Steading.Store.Edit
import Steading.Store.Faulty
import Steading.Store.Memory
import Steading.Store.Tables
import Steading.Tenant
import Steading.Text.Blank
import Steading.Text.Plain
import Steading.Text.Quoted
import Steading.Timestamp
import Steading.Url
import Steading.Url.Domain
import Steading.Url.Host
import Steading.Url.Path
import Steading.Url.Percent
import Steading.Url.Punycode
import Steading.Url.Reader
import Steading.Validation
import Steading.World.Details
import Steading.World.Launch
import Steading.World.Request
import Steading.World.Yaml
import Steading.Yaml.Cursor
import Steading.Yaml.Decode
import Steading.Yaml.Lexer
import Steading.Yaml.Node
import Steading.Yaml.Scalar
import Steading.Yaml.Tag
import Steading.Yaml.Token
import Steading.Proofs.Records
import Steading.Proofs.Run
import Steading.Proofs.Holdings
import Steading.Proofs.Site
import Steading.Proofs.Provision
import Steading.Proofs.Outcome
import Steading.Proofs.GameArgs
import Steading.Proofs.Agreement
import Steading.Proofs.Ceiling
import Steading.Proofs.Removal
import Steading.Proofs.Rows
import Steading.Proofs.Tables
import Steading.Proofs.Calls
import Steading.Proofs.Creation
import Steading.Proofs.Undoing
import Steading.Proofs.Exclusion
import Steading.Proofs.Turns
import Steading.Proofs.Schedule
import Steading.Proofs.Confinement
import Steading.Proofs.Interference
import Steading.Proofs.Modifiers
import Steading.Proofs.Requests
import Steading.Proofs.LaunchString
import Steading.Proofs.Writes
import Steading.Proofs.Estate
import Steading.Proofs.WellFormed
import Steading.Proofs.Finalizers
import Steading.Proofs.Recreation
import Steading.Proofs.Redaction
import Steading.Proofs.Lockstep
import Steading.Proofs.Secrecy
import Steading.Proofs.JsonText
import Steading.Proofs.RoundTrip
import Steading.Proofs.Disclosure
import Steading.Proofs.Stages
import Steading.Proofs.Rejection
import Steading.Proofs.Deletion
import Steading.Proofs.Scaling
import Steading.Proofs.Patching
import Steading.Proofs.Applying
import Steading.Proofs.AllOrNothing
import Steading.Proofs.Paths
import Steading.Proofs.Sending
import Steading.Proofs.Labels
import Steading.Proofs.Spelling
import Steading.Proofs.ModifierLists
import Steading.Proofs.Acceptance
import Steading.Proofs.Settling
import Steading.Proofs.Rollback
import Steading.Proofs.RequestFormats
import Steading.Proofs.Table
import Steading.Proofs.ClaimHistory
