import ApiGateway.Library.Effects
import ApiGateway.Library.Dictionary
import ApiGateway.Library.TwoTier
import ApiGateway.Library.Runs
import ApiGateway.Library.Interleaving
import ApiGateway.Library.Buffers
import ApiGateway.Library.Encodings
import ApiGateway.Library.Fields
import ApiGateway.Text
import ApiGateway.Entities
import ApiGateway.Interfaces
import ApiGateway.Authorization
import ApiGateway.ProxyConfig
import ApiGateway.RouteMatching
import ApiGateway.Database
import ApiGateway.PolicyCache
import ApiGateway.CacheCoherence
import ApiGateway.PolicyResolver
import ApiGateway.Registry
import ApiGateway.SnapshotContents
import ApiGateway.MethodReaders
import ApiGateway.ConfigProvider
import ApiGateway.Upstreams
import ApiGateway.PublishedRoutes
import ApiGateway.FailedRefresh
import ApiGateway.KeyOwnership
import ApiGateway.AuthorizedEndpoint
import ApiGateway.Mediation
import ApiGateway.Repositories
import ApiGateway.Connection
import ApiGateway.Decryption
import ApiGateway.Encryption
import ApiGateway.Admission
import ApiGateway.BackgroundRefresh
import ApiGateway.GatewayRuns
import ApiGateway.CachedPath
import ApiGateway.UsableRoutes
import ApiGateway.Revocation
import ApiGateway.KeyRotation
import ApiGateway.RouteReload
import ApiGateway.RoutesAndPolicies
import ApiGateway.ConcurrentCalls
import ApiGateway.ConcurrentRequests
import ApiGateway.SnapshotReads
import ApiGateway.RefreshOrder
import ApiGateway.StagePolicies
import ApiGateway.PermissionWriteBack
import ApiGateway.AccessRestrictions
import ApiGateway.CryptoService
import ApiGateway.WireFormats
import ApiGateway.PayloadRoundTrips
import ApiGateway.KeyStrength
import ApiGateway.ResponseEnvelopes
import ApiGateway.HeaderTransform
import ApiGateway.Library.Substitution
import ApiGateway.PlaceholderExpansion
import ApiGateway.CallerIdentity
import ApiGateway.OwnEndpoints
import ApiGateway.AdminRows
import ApiGateway.AdminUpdates
import ApiGateway.ConcurrentUpdates
import ApiGateway.StoredOverrides
import ApiGateway.AdminCreates
import ApiGateway.ManagedDestinations
import ApiGateway.Organisations
import ApiGateway.AccessRequests
import ApiGateway.AccessApprovals
import ApiGateway.Library.SharedStore
import ApiGateway.FleetStaleness
import ApiGateway.PermissionExpiry
import ApiGateway.Library.TierCalls
import ApiGateway.TierRaces
import ApiGateway.FailedWrites
import ApiGateway.Library.SqlQueries
import ApiGateway.EnabledFilters
import ApiGateway.ProfileSelection
import ApiGateway.Discovery
import ApiGateway.Library.Trimming
import ApiGateway.EnumFields
import ApiGateway.StoredHeaders
import ApiGateway.AuditEvents
import ApiGateway.Library.Partitions
import ApiGateway.RateLimits
import ApiGateway.Library.Numbering
import ApiGateway.SwaggerNames
import ApiGateway.Library.Urls
import ApiGateway.SwaggerUrls
import ApiGateway.Library.Regexes
import ApiGateway.IpValidation
import ApiGateway.IpLists
import ApiGateway.CacheKeys
import ApiGateway.Library.Collapsing
import ApiGateway.Slugs
import ApiGateway.Library.Literals
import ApiGateway.Library.Templates
import ApiGateway.SeedScript
import ApiGateway.CacheTransparency
import ApiGateway.Provenance
import ApiGateway.Settling
import ApiGateway.EncryptedExchange
import ApiGateway.Library.Upserts
import ApiGateway.SeedExecution
import ApiGateway.Library.Rekeying
import ApiGateway.LinkedDatabase
import ApiGateway.IdentifierMigration
import ApiGateway.Library.Traversals
import ApiGateway.DestinationBackfill
import ApiGateway.RateBounds
import ApiGateway.Library.Chaining
import ApiGateway.ChainedCiphers
import ApiGateway.EncryptedRequests
import ApiGateway.PayloadTampering
import ApiGateway.ScriptClient
