import K8sPlatform.Lib.Transition
import K8sPlatform.Lib.Text
import K8sPlatform.Lib.Cut
import K8sPlatform.Lib.Access
import K8sPlatform.Lib.Relational
import K8sPlatform.Lib.Distinct
import K8sPlatform.Lib.Validation
import K8sPlatform.Lib.FilePath
import K8sPlatform.Lib.PathText
import K8sPlatform.Lib.DnsName
import K8sPlatform.Lib.Pflag
import K8sPlatform.Lib.Copies
import K8sPlatform.Lib.Numbered
import K8sPlatform.Lib.Aead
import K8sPlatform.Lib.Rounding
import K8sPlatform.Lib.OrderedMap
import K8sPlatform.Lib.Greatest
import K8sPlatform.Lib.FileSystem
import K8sPlatform.Lib.Paging
import K8sPlatform.Lib.Query
import K8sPlatform.Lib.JsonTree
import K8sPlatform.Lib.JsonText
import K8sPlatform.Lib.Double
import K8sPlatform.Lib.Numerals
import K8sPlatform.Errcode
import K8sPlatform.Auth.Tree
import K8sPlatform.Auth.Middleware
import K8sPlatform.Auth.Tables
import K8sPlatform.Auth.Loader
import K8sPlatform.Auth.Seed
import K8sPlatform.Auth.Authorisation
import K8sPlatform.Auth.RoleAdmin
import K8sPlatform.Auth.RoleEffect
import K8sPlatform.Auth.Revocation
import K8sPlatform.Auth.ScopeKeys
import K8sPlatform.Auth.Token
import K8sPlatform.Auth.Service
import K8sPlatform.Auth.Users
import K8sPlatform.Websocket.Handshake
import K8sPlatform.Auth.Disable
import K8sPlatform.Auth.Cache
import K8sPlatform.Auth.CacheRace
import K8sPlatform.Auth.TokenCalls
import K8sPlatform.Auth.DenyList
import K8sPlatform.Auth.Rotation
import K8sPlatform.Auth.Builtin
import K8sPlatform.Auth.Queries
import K8sPlatform.Auth.Seeding
import K8sPlatform.Resource.Scope
import K8sPlatform.Resource.Object
import K8sPlatform.Resource.Informers
import K8sPlatform.Resource.Listing
import K8sPlatform.Resource.ListWatch
import K8sPlatform.Resource.PageBounds
import K8sPlatform.Resource.Fields
import K8sPlatform.Websocket.Hub
import K8sPlatform.Websocket.PodLogs
import K8sPlatform.Websocket.LogStreams
import K8sPlatform.Websocket.Relay
import K8sPlatform.Websocket.Registry
import K8sPlatform.Websocket.Closing
import K8sPlatform.Websocket.Subscriptions
import K8sPlatform.Websocket.TaskScope
import K8sPlatform.Crypto.AesGcm
import K8sPlatform.Kubeconfig.Parser
import K8sPlatform.Kubeconfig.Contained
import K8sPlatform.Cluster.Manager
import K8sPlatform.Cluster.Storage
import K8sPlatform.Cluster.Endpoint
import K8sPlatform.Cluster.Binding
import K8sPlatform.Cluster.Clients
import K8sPlatform.Cluster.Invalidation
import K8sPlatform.Cluster.Superseded
import K8sPlatform.Models.UniqueKeys
import K8sPlatform.Version.Manager
import K8sPlatform.Version.Handler
import K8sPlatform.Version.Store
import K8sPlatform.Version.Transactions
import K8sPlatform.Version.Operations
import K8sPlatform.Version.Retention
import K8sPlatform.Version.Reapply
import K8sPlatform.Version.Manifests
import K8sPlatform.Version.Failures
import K8sPlatform.Backup.Storage
import K8sPlatform.Backup.Task
import K8sPlatform.Backup.Manager
import K8sPlatform.Backup.Handler
import K8sPlatform.Backup.Worker
import K8sPlatform.Backup.Batch
import K8sPlatform.Backup.Visibility
import K8sPlatform.Helm.Manager
import K8sPlatform.Helm.Namespace
import K8sPlatform.Helm.Installs
import K8sPlatform.Helm.Releases
import K8sPlatform.Helm.Repos
import K8sPlatform.Backup.Vault
import K8sPlatform.Backup.Files
import K8sPlatform.Backup.Execution
import K8sPlatform.Backup.Queue
import K8sPlatform.Backup.Running
import K8sPlatform.Backup.Once
import K8sPlatform.Backup.Terminal
import K8sPlatform.Backup.Progress
import K8sPlatform.Backup.Orphan
import K8sPlatform.Backup.Uploads
import K8sPlatform.Backup.BatchDelete
import K8sPlatform.Backup.Completeness
import K8sPlatform.Backup.Payload
import K8sPlatform.Backup.Recorded
import K8sPlatform.Backup.Restore
import K8sPlatform.Backup.RoundTrip
import K8sPlatform.Backup.Containment
import K8sPlatform.Backup.Keys
import K8sPlatform.Backup.RestoredName
import K8sPlatform.Audit.Redaction
import K8sPlatform.Audit.Masking
import K8sPlatform.Audit.Log
import K8sPlatform.Frontend.Quota
import K8sPlatform.Frontend.WsSlice
import K8sPlatform.Frontend.Session
import K8sPlatform.Frontend.Requests
import K8sPlatform.Frontend.Refresh
import K8sPlatform.Lib.JsonRead
import K8sPlatform.Auth.CacheText
import K8sPlatform.Audit.AccessLog
import K8sPlatform.Audit.Reading
import K8sPlatform.Cluster.Listing
import K8sPlatform.Lib.UrlPath
import K8sPlatform.Lib.Routing
import K8sPlatform.Api.Routes
import K8sPlatform.Api.Services
import K8sPlatform.Lib.Repeated
import K8sPlatform.Auth.Passwords
import K8sPlatform.TaskWorker.Shutdown
import K8sPlatform.Resource.StopAll
import K8sPlatform.Frontend.Access
import K8sPlatform.Frontend.Namespaces
import K8sPlatform.Frontend.Menu
import K8sPlatform.Auth.AdminSeed
