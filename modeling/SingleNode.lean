import SingleNode.Chart.Installation
import SingleNode.Chart.Values
import SingleNode.CommandLine.Install
import SingleNode.Main
import SingleNode.Proofs.Plan
import SingleNode.Proofs.Telemetry.Operation
import SingleNode.Proofs.Provisioning.Course
import SingleNode.Proofs.Registry.Merged
import SingleNode.Rehearsal
import SingleNode.Session
import SingleNode.Telemetry.Script
import SingleNode.Proofs.Pipeline.Course
import SingleNode.Proofs.Pipeline.CallLog
import SingleNode.Proofs.Provisioning.Transcript
import SingleNode.Proofs.Provisioning.Abort
import SingleNode.Proofs.Provisioning.Retry
import SingleNode.Proofs.Act.Alike
import SingleNode.Proofs.Act.Announcement
import SingleNode.Proofs.Act.Seen
import SingleNode.Proofs.Pipeline.Alike
import SingleNode.Proofs.Pipeline.Seen
import SingleNode.Proofs.Pipeline.StageOrder
import SingleNode.Proofs.Pipeline.Validation
import SingleNode.Proofs.Chart.Files
import SingleNode.Proofs.Machine.Command
import SingleNode.Proofs.Chart.Plan
import SingleNode.Proofs.Act.Only
import SingleNode.Proofs.Chart.Installation
import SingleNode.Proofs.Cluster.Manager
import SingleNode.Proofs.Installation.EffectivePort
import SingleNode.Proofs.Act.Traces
import SingleNode.Proofs.Pipeline.Traces
import SingleNode.Proofs.Machine.Traced
import SingleNode.Proofs.Machine.Lasting
import SingleNode.Proofs.Machine.Shell
import SingleNode.Proofs.Machine.Connection
import SingleNode.Proofs.Machine.Ports
import SingleNode.Proofs.Provisioning.UsablePort
import SingleNode.Proofs.Machine.Discreet
import SingleNode.Proofs.Chart.Secrecy
import SingleNode.Proofs.Settings.Environment
import SingleNode.Proofs.Installation.Target
import SingleNode.Proofs.Installation.Secrecy
import SingleNode.Proofs.Machine.Lifecycle
import SingleNode.Proofs.Installation.Lifecycle
import SingleNode.Proofs.Assoc
import SingleNode.Proofs.Telemetry.Program
import SingleNode.Proofs.Pipeline.Records
import SingleNode.Proofs.Installation.Accomplished
import SingleNode.Proofs.Session.ExitStatus
import SingleNode.Proofs.Yaml.Flow
import SingleNode.Proofs.Yaml.Single
import SingleNode.Proofs.Yaml.Double
import SingleNode.Proofs.Yaml.Plain
import SingleNode.Proofs.Yaml.Reader
import SingleNode.Proofs.Yaml.Value
import SingleNode.Proofs.Cluster.Manifest
import SingleNode.Proofs.Chart.Ingress
import SingleNode.Proofs.Installation.Documents
import SingleNode.Proofs.Machine.Requests
import SingleNode.Proofs.Machine.FileTree
import SingleNode.Proofs.Machine.Introspection
import SingleNode.Proofs.Machine.Migration
import SingleNode.Proofs.Installation.Directories
import SingleNode.Proofs.Installation.Aim
import SingleNode.Proofs.Registry.Override
import SingleNode.Proofs.Text.Split
import SingleNode.Proofs.Mount
import SingleNode.Proofs.CommandLine.Flags
import SingleNode.Proofs.Cluster.Creation
import SingleNode.Proofs.Pipeline.DeprecatedFlags
import SingleNode.Proofs.Text.Trim
import SingleNode.Proofs.Text.Numeral
import SingleNode.Proofs.Port.Mappings
import SingleNode.Proofs.Text.Lines
import SingleNode.Proofs.Cluster.Lookup
import SingleNode.Proofs.Machine.Fate
import SingleNode.Proofs.Settings.Fields
import SingleNode.Proofs.Settings.Groups
import SingleNode.Proofs.Settings.Precedence
import SingleNode.Proofs.Text.Amount
import SingleNode.Proofs.Text.Padding
import SingleNode.Proofs.Text.StrictInteger
