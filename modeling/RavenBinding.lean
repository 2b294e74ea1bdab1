import RavenBinding.Binding.Registry
import RavenBinding.Error.Construction
import RavenBinding.Interaction.Console
import RavenBinding.Interaction.World
import RavenBinding.Log.Context
import RavenBinding.Main
import RavenBinding.Proofs.Attempt
import RavenBinding.Proofs.Binding.CaseTwins
import RavenBinding.Proofs.Binding.ConcurrentProvisioning
import RavenBinding.Proofs.Binding.Isolation
import RavenBinding.Proofs.Binding.KeyLocality
import RavenBinding.Proofs.Binding.Lifecycle
import RavenBinding.Proofs.Binding.Operations
import RavenBinding.Proofs.Binding.Provisioning
import RavenBinding.Proofs.Binding.ProvisioningEffects
import RavenBinding.Proofs.Binding.ProvisioningEscapes
import RavenBinding.Proofs.Binding.ReadEffects
import RavenBinding.Proofs.Binding.ReadTotality
import RavenBinding.Proofs.Binding.Refinement
import RavenBinding.Proofs.Binding.Sessions
import RavenBinding.Proofs.Binding.SetUp
import RavenBinding.Proofs.Binding.SetUpOutcome
import RavenBinding.Proofs.Binding.SharedCalls
import RavenBinding.Proofs.Binding.SharedProvisioning
import RavenBinding.Proofs.Binding.Statuses
import RavenBinding.Proofs.Binding.Table
import RavenBinding.Proofs.Binding.Unsent
import RavenBinding.Proofs.Binding.WriteEffects
import RavenBinding.Proofs.FieldMap
import RavenBinding.Proofs.Http.PercentRoundTrip
import RavenBinding.Proofs.Http.PlainHost
import RavenBinding.Proofs.Http.PlainOrigin
import RavenBinding.Proofs.Http.PlainUrl
import RavenBinding.Proofs.Http.ScalarUrl
import RavenBinding.Proofs.Http.SessionRequest
import RavenBinding.Proofs.Interaction.Interference
import RavenBinding.Proofs.Interaction.Run
import RavenBinding.Proofs.Json.BodyRoundTrip
import RavenBinding.Proofs.Json.ReadBounds
import RavenBinding.Proofs.Json.RoundTrip
import RavenBinding.Proofs.Json.SpelledMembers
import RavenBinding.Proofs.Json.StringRoundTrip
import RavenBinding.Proofs.Json.Written
import RavenBinding.Proofs.Log.Attributes
import RavenBinding.Proofs.Log.Disclosure
import RavenBinding.Proofs.Log.Reconfiguration
import RavenBinding.Proofs.Number.DecimalRoundTrip
import RavenBinding.Proofs.Number.Rounding
import RavenBinding.Proofs.Record.JsonText
import RavenBinding.Proofs.Record.LocalDamage
import RavenBinding.Proofs.Record.ReadBack
import RavenBinding.Proofs.Record.Restored
import RavenBinding.Proofs.Record.Stored
import RavenBinding.Proofs.Settings.Agreement
import RavenBinding.Proofs.Settings.EntryFile
import RavenBinding.Proofs.Settings.Precedence
import RavenBinding.Proofs.Settings.Sources
import RavenBinding.Proofs.Smoke.Drawn
import RavenBinding.Proofs.Smoke.ExitStatus
import RavenBinding.Proofs.Smoke.HealthyRun
import RavenBinding.Proofs.Smoke.Recording
import RavenBinding.Proofs.Smoke.Verdict
import RavenBinding.Proofs.Store.Acceptance
import RavenBinding.Proofs.Store.Aliasing
import RavenBinding.Proofs.Store.Arrival
import RavenBinding.Proofs.Store.BaseUrl
import RavenBinding.Proofs.Store.CallFailures
import RavenBinding.Proofs.Store.Calls
import RavenBinding.Proofs.Store.Confinement
import RavenBinding.Proofs.Store.Databases
import RavenBinding.Proofs.Store.DocumentPath
import RavenBinding.Proofs.Store.DocumentRoundTrip
import RavenBinding.Proofs.Store.Exchange
import RavenBinding.Proofs.Store.PlainRequest
import RavenBinding.Proofs.Store.Precondition
import RavenBinding.Proofs.Store.Provenance
import RavenBinding.Proofs.Store.ServerExchange
import RavenBinding.Proofs.Store.SessionLife
import RavenBinding.Proofs.Store.SettledUrl
import RavenBinding.Proofs.Text.CaseFolding
import RavenBinding.Proofs.Text.Cutting
import RavenBinding.Proofs.Text.Scalar
import RavenBinding.Proofs.Text.Utf8RoundTrip
import RavenBinding.Proofs.Text.Utf8WellFormed
import RavenBinding.Smoke.Command
