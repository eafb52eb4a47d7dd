import PostgresqlK8s.Lib.Run
import PostgresqlK8s.Lib.Databag
import PostgresqlK8s.Lib.Dict
import PostgresqlK8s.Lib.Words
import PostgresqlK8s.Lib.Text
import PostgresqlK8s.Lib.Decimal
import PostgresqlK8s.Lib.DateTime
import PostgresqlK8s.Lib.StateExcept
import PostgresqlK8s.Lib.Retry
import PostgresqlK8s.Lib.EarlyExit
import PostgresqlK8s.Lib.Dependency
import PostgresqlK8s.Lib.Contest
import PostgresqlK8s.Lib.Greatest
import PostgresqlK8s.Lib.Positional
import PostgresqlK8s.Lib.Pattern
import PostgresqlK8s.Lib.Calendar
import PostgresqlK8s.Lib.DateTimeText
import PostgresqlK8s.Lib.Quoting
import PostgresqlK8s.Lib.Template
import PostgresqlK8s.Lib.Roles
import PostgresqlK8s.Lib.Trunc
import PostgresqlK8s.Lib.IntText
import PostgresqlK8s.Status
import PostgresqlK8s.Members.Names
import PostgresqlK8s.Members.Endpoints
import PostgresqlK8s.Members.OneAtATime
import PostgresqlK8s.Members.Labels
import PostgresqlK8s.RollingOps.Lock
import PostgresqlK8s.RollingOps.MutualExclusion
import PostgresqlK8s.RollingOps.Service
import PostgresqlK8s.Patroni.Switchover
import PostgresqlK8s.Patroni.SynchronousNodes
import PostgresqlK8s.AsyncReplication.Election
import PostgresqlK8s.AsyncReplication.Handlers
import PostgresqlK8s.AsyncReplication.System
import PostgresqlK8s.AsyncReplication.Agreement
import PostgresqlK8s.AsyncReplication.Following
import PostgresqlK8s.AsyncReplication.ReadOnly
import PostgresqlK8s.AsyncReplication.SystemIdentifier
import PostgresqlK8s.Backups.Messages
import PostgresqlK8s.Backups.S3Initialization
import PostgresqlK8s.Backups.S3Protocol
import PostgresqlK8s.Backups.Repository
import PostgresqlK8s.Backups.CreateBackup
import PostgresqlK8s.Backups.Labels
import PostgresqlK8s.Backups.BackupList
import PostgresqlK8s.Restore.Timestamp
import PostgresqlK8s.Restore.Target
import PostgresqlK8s.Restore.Charm
import PostgresqlK8s.Restore.Handlers
import PostgresqlK8s.Restore.Frame
import PostgresqlK8s.Restore.Exits
import PostgresqlK8s.Restore.Override
import PostgresqlK8s.Restore.Blame
import PostgresqlK8s.Restore.Gate
import PostgresqlK8s.Restore.Latest
import PostgresqlK8s.Restore.TimestampForm
import PostgresqlK8s.Restore.TimestampNormal
import PostgresqlK8s.Restore.TimestampRead
import PostgresqlK8s.Restore.TimestampExact
import PostgresqlK8s.Restore.Nearest
import PostgresqlK8s.Restore.LabelOf
import PostgresqlK8s.Hba.UserMap
import PostgresqlK8s.Hba.Rules
import PostgresqlK8s.Hba.UserHash
import PostgresqlK8s.Hba.LdapOptions
import PostgresqlK8s.Extensions.EnableDisable
import PostgresqlK8s.Extensions.Audit
import PostgresqlK8s.Extensions.Ordering
import PostgresqlK8s.Extensions.PluginConfig
import PostgresqlK8s.Database.UserPassword
import PostgresqlK8s.Database.CreateDatabase
import PostgresqlK8s.Users.CreateUser
import PostgresqlK8s.Users.Convergence
import PostgresqlK8s.LegacyDb.Relation
import PostgresqlK8s.LegacyDb.DbProvides
import PostgresqlK8s.LegacyDb.Handlers
import PostgresqlK8s.LegacyDb.Rights
import PostgresqlK8s.LegacyDb.Unblock
import PostgresqlK8s.LegacyDb.AllowedUnits
import PostgresqlK8s.LegacyDb.AllowedSubnets
import PostgresqlK8s.Relations.DataInterfaces
import PostgresqlK8s.Relations.ReadOnlyEndpoint
import PostgresqlK8s.Relations.ClientUsers
import PostgresqlK8s.Relations.OrphanUsers
import PostgresqlK8s.Relations.ClientRequests
import PostgresqlK8s.Secrets.Key
import PostgresqlK8s.Secrets.Store
import PostgresqlK8s.Secrets.RoundTrip
import PostgresqlK8s.Secrets.Clean
import PostgresqlK8s.Secrets.Missing
import PostgresqlK8s.Upgrade.LegacyCredentials
import PostgresqlK8s.Upgrade.PreUpgradeCheck
import PostgresqlK8s.Upgrade.RollingUpgrade
import PostgresqlK8s.Upgrade.RollingOrder
import PostgresqlK8s.Upgrade.RollingProgress
import PostgresqlK8s.Config.CharmConfig
import PostgresqlK8s.Config.WorkerProcesses
import PostgresqlK8s.Config.Parameters
import PostgresqlK8s.Config.ParameterNames
import PostgresqlK8s.Config.Memory
import PostgresqlK8s.Config.Valid
import PostgresqlK8s.Config.Kept
import PostgresqlK8s.Config.ConfigChanged
import PostgresqlK8s.Config.GroupMap
import PostgresqlK8s.Resources.Quantities
import PostgresqlK8s.Resources.MemoryQuantities
import PostgresqlK8s.Resources.Available
import PostgresqlK8s.Tls.ParseFile
import PostgresqlK8s.Tls.Certificates
import PostgresqlK8s.Tls.KeyMatch
import PostgresqlK8s.Lib.Interrupted
import PostgresqlK8s.Lib.Ownership
import PostgresqlK8s.Users.DeleteUser
import PostgresqlK8s.Lib.Like
import PostgresqlK8s.Users.AccessGroups
import PostgresqlK8s.Hba.Observer
import PostgresqlK8s.AsyncReplication.PasswordRotation
import PostgresqlK8s.Backups.SharedRepository
