import SqlAnywhere.Configuration.Reader
import SqlAnywhere.Proofs.AppendedText
import SqlAnywhere.Proofs.DeclaredType
import SqlAnywhere.Proofs.FamilyIndependence
import SqlAnywhere.Proofs.ForgettingInFlight
import SqlAnywhere.Proofs.FullName
import SqlAnywhere.Proofs.FullyBound
import SqlAnywhere.Proofs.KeyLayouts
import SqlAnywhere.Proofs.LimitedAgain
import SqlAnywhere.Proofs.LoadedDefault
import SqlAnywhere.Proofs.LoadedWidth
import SqlAnywhere.Proofs.MalformedKeyRow
import SqlAnywhere.Proofs.OwnerCheck
import SqlAnywhere.Proofs.PinnedVersion
import SqlAnywhere.Proofs.QuotedAgain
import SqlAnywhere.Proofs.QuotedNames
import SqlAnywhere.Proofs.RestartLiteral
import SqlAnywhere.Proofs.RowUpdates
import SqlAnywhere.Proofs.SeparatedKeywords
import SqlAnywhere.Proofs.SettledQuoting
import SqlAnywhere.Proofs.SharedEntry
import SqlAnywhere.Query.Execution
import SqlAnywhere.Session.Opening
