import Reachability.Gate
import Reachability.Gate.Interleaving
import Reachability.Json.Grammar
import Reachability.Main
import Reachability.Network.Dialogue
import Reachability.Network.Isolated
import Reachability.Service.Grammar
import Reachability.Proofs.Gate.Settled
import Reachability.Proofs.Gate.History
import Reachability.Proofs.Gate.Wakeup
import Reachability.Proofs.Gate.Order
import Reachability.Proofs.Gate.Bystanders
import Reachability.Proofs.Floor.Exclusion
import Reachability.Proofs.Floor.Stays
import Reachability.Proofs.Json.Text
import Reachability.Proofs.Digits
import Reachability.Proofs.Json.Number
import Reachability.Proofs.Json.Value
import Reachability.Proofs.Json.Skip
import Reachability.Proofs.Json.Record
import Reachability.Proofs.Json.Unique
import Reachability.Proofs.Json.Compact
import Reachability.Proofs.Verdict
import Reachability.Proofs.Service.Answers
import Reachability.Proofs.Service.Parameters
import Reachability.Proofs.Service.Asked
import Reachability.Proofs.Address.Text
import Reachability.Proofs.Url.Address
import Reachability.Proofs.Url.Significant
import Reachability.Proofs.Probe.Literal
import Reachability.Proofs.Url.Extend
import Reachability.Proofs.Probe.Health
import Reachability.Proofs.Verdict.Status
import Reachability.Proofs.Probe.Contract
import Reachability.Proofs.Probe.Credentials
import Reachability.Proofs.Json.Meaning
import Reachability.Proofs.Service.Members
import Reachability.Proofs.Service.Secrecy
import Reachability.Proofs.Yaml.Record
import Reachability.Proofs.Settings.File
import Reachability.Proofs.Settings.Load
import Reachability.Proofs.Service.Timeout
import Reachability.Proofs.Text.Trim
import Reachability.Proofs.Diagnostics
import Reachability.Proofs.Service.Accepting
import Reachability.Proofs.Network.Dialogue
import Reachability.Proofs.Service.Kinds
import Reachability.Proofs.Attempt.Datagrams
import Reachability.Proofs.Service.Datagrams
import Reachability.Proofs.Service.Lines
import Reachability.Proofs.Service.Targets
import Reachability.Proofs.Service.Fields
import Reachability.Proofs.Service.Bodies
import Reachability.Proofs.Service.Pipeline
import Reachability.Service.Hall
import Reachability.Proofs.Network.Follows
import Reachability.Proofs.Floor.Steps
import Reachability.Proofs.Service.Hall.Ownership
import Reachability.Proofs.Service.Hall.Outlook
import Reachability.Proofs.Service.Hall.Progress
import Reachability.Proofs.Service.Hall.Pipelines
import Reachability.Proofs.Verdict.Details
import Reachability.Proofs.Verdict.Reason
import Reachability.Proofs.Json.Controls
import Reachability.Proofs.Verdict.Text
import Reachability.Proofs.Domain.Forbidden
import Reachability.Proofs.Text.Utf8
import Reachability.Proofs.Address.Reading
import Reachability.Proofs.Url.Host
import Reachability.Proofs.Url.Scheme
import Reachability.Proofs.Url.Authority
import Reachability.Proofs.Url.Parts
import Reachability.Proofs.Endpoint
import Reachability.Proofs.Endpoint.Port
import Reachability.Proofs.Endpoint.Scheme
import Reachability.Proofs.Verdict.Steps
import Reachability.Proofs.Verdict.Coherence
import Reachability.Proofs.Probe.Cluster
import Reachability.Proofs.Json.Independent
import Reachability.Proofs.Service.Rewritten
import Reachability.Proofs.Json.Natural
import Reachability.Proofs.Probe.Bounds
import Reachability.Proofs.Service.Numbers
import Reachability.Proofs.Settings.Calls
import Reachability.Proofs.Settings.Written
import Reachability.Proofs.Service.Cut
import Reachability.Proofs.Json.Taken
import Reachability.Proofs.Json.Skipped
import Reachability.Proofs.Json.Accepted
import Reachability.Proofs.Json.Listed
import Reachability.Proofs.Service.Shapes
import Reachability.Proofs.HostName
import Reachability.Proofs.Verdict.Insertions
import Reachability.Proofs.Attempt.Timing
import Reachability.Proofs.NameServers
import Reachability.Proofs.ErrorReport
