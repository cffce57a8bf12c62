import SharedChannel.Association
import SharedChannel.Attribute
import SharedChannel.Call
import SharedChannel.Channel
import SharedChannel.Client
import SharedChannel.Config
import SharedChannel.Dial
import SharedChannel.DialOption
import SharedChannel.Dotenv.Binding
import SharedChannel.Dotenv.Interpolation
import SharedChannel.Effect
import SharedChannel.Endpoint
import SharedChannel.Environment
import SharedChannel.Failure
import SharedChannel.FileTree
import SharedChannel.Interceptor
import SharedChannel.Logging.Config
import SharedChannel.Logging.Conversion
import SharedChannel.Logging.Format
import SharedChannel.Logging.Hierarchy
import SharedChannel.Logging.Numeral
import SharedChannel.Logging.Record
import SharedChannel.Logging.Setup
import SharedChannel.Manifest
import SharedChannel.Number.Binary64
import SharedChannel.Number.Reading
import SharedChannel.Number.Shortest
import SharedChannel.Provider
import SharedChannel.Security
import SharedChannel.Service
import SharedChannel.Settings
import SharedChannel.Step
import SharedChannel.Text.Blank
import SharedChannel.Text.CodePoints
import SharedChannel.Text.Digit
import SharedChannel.Text.Lines
import SharedChannel.Text.Printable
import SharedChannel.Text.Quoted
import SharedChannel.Text.Split
import SharedChannel.Text.UpperCase
import SharedChannel.Text.Utf8
import SharedChannel.Text.Word
import SharedChannel.Token
import SharedChannel.Transport
import SharedChannel.Value
import SharedChannel.Value.Digest
import SharedChannel.Value.Duration
import SharedChannel.Value.Search
import SharedChannel.Value.Writing
import SharedChannel.World
import SharedChannel.Proofs.OptionOrder
import SharedChannel.Proofs.Outcome
import SharedChannel.Proofs.Stage
import SharedChannel.Proofs.Dialing
import SharedChannel.Proofs.Plan
import SharedChannel.Proofs.LinearBuild
import SharedChannel.Proofs.OpenChannels
import SharedChannel.Proofs.Session
import SharedChannel.Proofs.Adding
import SharedChannel.Proofs.CallEffects
import SharedChannel.Proofs.Issuers
import SharedChannel.Proofs.Confinement
import SharedChannel.Proofs.CallAgreement
import SharedChannel.Proofs.SurfacedFailure
import SharedChannel.Proofs.ExactSums
import SharedChannel.Proofs.Deadline
import SharedChannel.Proofs.OneAnswer
import SharedChannel.Proofs.FreshTokens
import SharedChannel.Proofs.FileValues
import SharedChannel.Proofs.RepeatedLoad
import SharedChannel.Proofs.TwoRuns
import SharedChannel.Proofs.Secrecy
import SharedChannel.Proofs.ProcessHistory
import SharedChannel.Proofs.SharedConnection
import SharedChannel.Proofs.EffectiveSettings
import SharedChannel.Proofs.SettingsCache
import SharedChannel.Proofs.InterceptorChain
import SharedChannel.Proofs.Closing
import SharedChannel.Proofs.PackageLoggers
import SharedChannel.Proofs.AppendedFiles
import SharedChannel.Proofs.LogHandlers
import SharedChannel.Proofs.LogFiles
import SharedChannel.Proofs.FailedLoad
import SharedChannel.Proofs.FailedSetup
import SharedChannel.Proofs.EndpointChecks
import SharedChannel.Proofs.EndpointChanges
import SharedChannel.Proofs.PlainNumerals
import SharedChannel.Proofs.Origins
import SharedChannel.Proofs.StoreFrame
import SharedChannel.Proofs.LoadedToken
import SharedChannel.Proofs.ConfiguredToken
import SharedChannel.Proofs.StubOutcomes
import SharedChannel.Proofs.StubPhase
import SharedChannel.Proofs.DialTargets
import SharedChannel.Proofs.PluginAnswers
import SharedChannel.Proofs.ClosedClient
