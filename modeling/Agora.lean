import Agora.Config.Load
import Agora.Config.Printer
import Agora.Proofs.AdmissionBound
import Agora.Proofs.BodyLimits
import Agora.Proofs.BrokenCache
import Agora.Proofs.CacheTransparency
import Agora.Proofs.ClientKeys
import Agora.Proofs.Concealment
import Agora.Proofs.ConfigurationRules
import Agora.Proofs.ConfiguredLimits
import Agora.Proofs.FeedParameters
import Agora.Proofs.FeedVisibility
import Agora.Proofs.HashSecrecy
import Agora.Proofs.IdentityHistory
import Agora.Proofs.Invalidation
import Agora.Proofs.LiteralSearch
import Agora.Proofs.Mediation
import Agora.Proofs.OperatorCredentials
import Agora.Proofs.Outages
import Agora.Proofs.PasswordKeys
import Agora.Proofs.PathNumbers
import Agora.Proofs.PostAuthorization
import Agora.Proofs.PostDeletion
import Agora.Proofs.PostRevisions
import Agora.Proofs.Reconciliation
import Agora.Proofs.References
import Agora.Proofs.RetryAfter
import Agora.Proofs.ShutdownDelivery
import Agora.Proofs.SlowStore
import Agora.Proofs.StoredContent
import Agora.Proofs.SweptWindows
import Agora.Proofs.TokenVerdicts
import Agora.Service.Respond
