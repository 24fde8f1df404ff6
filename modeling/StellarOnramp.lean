import StellarOnramp.KycGate.CredentialChecks
import StellarOnramp.KycGate.Epochs
import StellarOnramp.KycGate.RecordLifetime
import StellarOnramp.KycGate.Revocation
import StellarOnramp.System.Provenance
import StellarOnramp.KycGate.BbsSoundness
import StellarOnramp.KycGate.DisclosurePartition
import StellarOnramp.Library.BbsScheme
import StellarOnramp.Library.Attempts
import StellarOnramp.Library.JsText
import StellarOnramp.Identity.Binding
import StellarOnramp.Identity.Points
import StellarOnramp.Identity.Credential
import StellarOnramp.Identity.Predicates
import StellarOnramp.Sdk.Expiry
import StellarOnramp.Sdk.Grants
import StellarOnramp.KycRegistry.Trust
import StellarOnramp.Sdk.ClaimEncoding
import StellarOnramp.Identity.Base64
import StellarOnramp.Identity.StatusList
import StellarOnramp.Identity.StatusBits
import StellarOnramp.Identity.DisclosedClaims
import StellarOnramp.Identity.Verification
import StellarOnramp.Identity.VerificationPolicy
import StellarOnramp.Identity.VerificationRuns
import StellarOnramp.Library.Calendar
import StellarOnramp.Identity.StatusRoundTrip
import StellarOnramp.Gateway.StatusCredential
import StellarOnramp.Gateway.StatusPublisher
import StellarOnramp.Library.Doubles
import StellarOnramp.Gateway.StatusResolver
import StellarOnramp.Gateway.PublishedDocuments
import StellarOnramp.Gateway.DocumentSize
import StellarOnramp.Gateway.StatusFetches
import StellarOnramp.Gateway.PublishSuccess
import StellarOnramp.Gateway.PublishResolve
import StellarOnramp.Gateway.ResolverRuns
import StellarOnramp.Gateway.ListSubstitution
import StellarOnramp.Gateway.Invalidation
import StellarOnramp.Gateway.Issuance
import StellarOnramp.Gateway.Jws
import StellarOnramp.Gateway.ClaimDerivation
import StellarOnramp.GatewayHttp.Errors
import StellarOnramp.GatewayHttp.Routing
import StellarOnramp.GatewayHttp.Sessions
import StellarOnramp.GatewayHttp.Handlers
import StellarOnramp.GatewayHttp.App
import StellarOnramp.GatewayHttp.Stages
import StellarOnramp.GatewayHttp.IssueHistory
import StellarOnramp.GatewayHttp.Authorisation
import StellarOnramp.GatewayHttp.ProviderClaims
import StellarOnramp.GatewayHttp.StatusCoverage
import StellarOnramp.Gateway.JwsSigning
import StellarOnramp.Onboard.RevocationIndex
import StellarOnramp.Onboard.FundingKeys
import StellarOnramp.Onboard.Sessions
import StellarOnramp.Onboard.RunRegistry
import StellarOnramp.Library.Broadcast
import StellarOnramp.Onboard.Accounts
import StellarOnramp.Onboard.Portal
import StellarOnramp.Onboard.WalletBinding
import StellarOnramp.Onboard.Verdicts
import StellarOnramp.KycGate.CallArguments
import StellarOnramp.Sdk.AttestArgs
import StellarOnramp.Sdk.HonestAttestation
import StellarOnramp.Gateway.DerSignatures
import StellarOnramp.KycGate.HashToScalar
import StellarOnramp.KycGate.PointEncodings
import StellarOnramp.KycGate.Transcripts
import StellarOnramp.Identity.ClaimCodec
import StellarOnramp.Identity.StatusCodec
import StellarOnramp.Library.JsonParse
import StellarOnramp.Library.JsonOrder
import StellarOnramp.Library.Utf8
import StellarOnramp.Gateway.CanonicalJson
import StellarOnramp.Identity.PredicateAlgebra
import StellarOnramp.Gateway.ResolverWindow
import StellarOnramp.Gateway.RedirectLoop
import StellarOnramp.KycGate.Freshness
import StellarOnramp.Identity.CanonicalBase64
import StellarOnramp.Sdk.ProofWire
import StellarOnramp.Gateway.AgeArithmetic
import StellarOnramp.Onboard.PortalRequests
import StellarOnramp.Gateway.IssuanceOrder
import StellarOnramp.Library.InsertionMaps
import StellarOnramp.Library.WriteThrough
import StellarOnramp.Onboard.AccountStore
import StellarOnramp.Onboard.DurableStores
import StellarOnramp.Gateway.ContractErrors
import StellarOnramp.Gateway.ChainState
import StellarOnramp.Library.TextSearch
import StellarOnramp.Gateway.PiiDetector
import StellarOnramp.Onboard.ApprovedPath
import StellarOnramp.Library.PatternText
import StellarOnramp.Library.PatternSplices
import StellarOnramp.GatewayHttp.Router
import StellarOnramp.GatewayHttp.RouteText
import StellarOnramp.GatewayHttp.RouteMatching
import StellarOnramp.GatewayHttp.RouterExactness
import StellarOnramp.Library.FixedWindows
import StellarOnramp.Onboard.RateLimits
import StellarOnramp.Library.SlashPaths
import StellarOnramp.Sdk.IssuerPreflight
import StellarOnramp.Onboard.StaticFiles
import StellarOnramp.Library.Dialogues
import StellarOnramp.Sdk.Submissions
import StellarOnramp.Onboard.Onramp
import StellarOnramp.Onboard.OnrampRules
import StellarOnramp.Onboard.DepositWait
import StellarOnramp.GatewayHttp.BodyStream
