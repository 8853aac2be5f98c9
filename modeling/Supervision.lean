import Supervision.CommandLine.Session
import Supervision.Main
import Supervision.Proofs.Configuration.Directives
import Supervision.Proofs.Configuration.Failure
import Supervision.Proofs.Configuration.Headers
import Supervision.Proofs.Configuration.Text
import Supervision.Reader.Lemmas
import Supervision.Reader.Step
import Supervision.Proofs.Ini.HeaderLines
import Supervision.Proofs.Configuration.HeaderLines
import Supervision.Proofs.Configuration.Access
import Supervision.Proofs.Deployment.Calls
import Supervision.Proofs.Deployment.Order
import Supervision.Proofs.Disk.History
import Supervision.Proofs.CommandLine.Success
import Supervision.Proofs.Record.Acceptance
import Supervision.Proofs.Configuration.Password
import Supervision.Proofs.Configuration.Selector
import Supervision.Proofs.Options.Known
import Supervision.Proofs.Record.Group
import Supervision.Proofs.Record.Parenthesis
import Supervision.Proofs.Record.Composition
import Supervision.Proofs.Configuration.LogLimits
import Supervision.Proofs.CommandLine.Overrides
import Supervision.Proofs.Path.Dirname
import Supervision.Proofs.Deployment.Directories
import Supervision.Proofs.Configuration.WorkingDirectory
import Supervision.Proofs.Record.Extras
import Supervision.Proofs.CommandLine.Loading
import Supervision.Proofs.CommandLine.ErrorLine
import Supervision.Proofs.Reader.Passages
