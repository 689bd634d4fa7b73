import AdminConsole.Client.Company
import AdminConsole.Client.Rehearsal
import AdminConsole.Main
import AdminConsole.Proofs.Access.Evaluation
import AdminConsole.Proofs.Access.Explanation
import AdminConsole.Proofs.Access.Reason
import AdminConsole.Proofs.Client.Check
import AdminConsole.Proofs.Client.CleanLogout
import AdminConsole.Proofs.Client.Deadlock
import AdminConsole.Proofs.Client.Exclusive
import AdminConsole.Proofs.Client.Failure
import AdminConsole.Proofs.Client.Linearization
import AdminConsole.Proofs.Client.Logout
import AdminConsole.Proofs.Client.Pace
import AdminConsole.Proofs.Client.Retirement
import AdminConsole.Proofs.Client.Watch
import AdminConsole.Proofs.Config.Environment
import AdminConsole.Proofs.Config.Replacement
import AdminConsole.Proofs.Json.Skip
import AdminConsole.Proofs.Navigation.Validation
import AdminConsole.Proofs.Notification.History
import AdminConsole.Proofs.Notification.Identifier
import AdminConsole.Proofs.PermissionSet.Canonical
import AdminConsole.Proofs.PermissionSet.NormalForm
import AdminConsole.Proofs.PermissionSet.Separation
import AdminConsole.Proofs.Report.Preview
import AdminConsole.Proofs.Session.AuditTrail
import AdminConsole.Proofs.Session.History
import AdminConsole.Proofs.Session.Noninterference
import AdminConsole.Proofs.Text.Quoted
import AdminConsole.Proofs.UserData.Presentation
import AdminConsole.Proofs.Wire.RoundTrip
import AdminConsole.Wire.UserDataText
