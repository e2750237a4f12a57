import AccountLookup.Async.Proc
import AccountLookup.Async.Triple
import AccountLookup.Runs.Invariant
import AccountLookup.Async.Pool
import AccountLookup.Js.Value
import AccountLookup.Js.Number
import AccountLookup.Js.Double
import AccountLookup.Js.Map
import AccountLookup.Lists.First
import AccountLookup.Lists.Distinct
import AccountLookup.Lists.Paging
import AccountLookup.Url.Percent
import AccountLookup.Url.Parse
import AccountLookup.Url.Decode
import AccountLookup.Url.Targets
import AccountLookup.Url.Queries
import AccountLookup.Url.PathParameters
import AccountLookup.Url.QueryParameters
import AccountLookup.Url.Parameters
import AccountLookup.Store.Cache
import AccountLookup.Store.Mongo
import AccountLookup.Store.Collection
import AccountLookup.Model.Messages
import AccountLookup.Model.Aggregate
import AccountLookup.Model.EventHandler
import AccountLookup.Model.Commands
import AccountLookup.Model.MongoOracleProvider
import AccountLookup.Model.RemoteOracle
import AccountLookup.Model.HttpOracleProvider
import AccountLookup.Model.OracleAdmin
import AccountLookup.Model.RemoteRoutes
import AccountLookup.Model.System
import AccountLookup.Model.OracleListing
import AccountLookup.Model.SearchAssociations
import AccountLookup.Model.BuiltinListing
import AccountLookup.Model.ExpressRoutes
import AccountLookup.Model.AccountLookupHttpClient
import AccountLookup.Handling.Acceptance
import AccountLookup.Handling.Correlation
import AccountLookup.Handling.Batch
import AccountLookup.Handling.Changes
import AccountLookup.Handling.Lookups
import AccountLookup.Handling.Service
import AccountLookup.Builtin.Provider
import AccountLookup.Builtin.Invalidation
import AccountLookup.Builtin.Atomicity
import AccountLookup.Builtin.ReadYourWrite
import AccountLookup.Builtin.Interleaving
import AccountLookup.Builtin.Duplicates
import AccountLookup.Registry.Calls
import AccountLookup.Registry.Adapters
import AccountLookup.Registry.Restart
import AccountLookup.Registry.Progress
import AccountLookup.Registry.Effects
import AccountLookup.Registry.Linearization
import AccountLookup.Registry.Replicas
import AccountLookup.Remote.Provider
import AccountLookup.Remote.RoundTrip
import AccountLookup.Remote.Database
import AccountLookup.Remote.Writes
import AccountLookup.Handling.Removal
import AccountLookup.Handling.NotFound
import AccountLookup.Handling.Selection
import AccountLookup.Registry.Listings
import AccountLookup.Handling.Privileges
import AccountLookup.Handling.LookUpClient
import AccountLookup.Registry.Connections
import AccountLookup.Registry.Failures
import AccountLookup.Registry.Undo
import AccountLookup.Builtin.Isolation
import AccountLookup.Builtin.Owners
import AccountLookup.Builtin.Exactness
import AccountLookup.Remote.Isolation
import AccountLookup.Remote.Atomicity
import AccountLookup.Remote.Registrations
import AccountLookup.Registry.Routing
import AccountLookup.Builtin.Search
import AccountLookup.Builtin.Paging
import AccountLookup.Builtin.Filter
import AccountLookup.Builtin.History
import AccountLookup.Builtin.Keywords
import AccountLookup.Remote.Concurrency
import AccountLookup.Remote.Restarts
import AccountLookup.Remote.Bystanders
import AccountLookup.Builtin.Bystanders
import AccountLookup.Handling.Steps
import AccountLookup.Handling.Requests
import AccountLookup.Handling.Authority
import AccountLookup.Handling.RemoteLookUps
import AccountLookup.Handling.Outages
import AccountLookup.Builtin.Redelivery
import AccountLookup.Builtin.Journal
import AccountLookup.Builtin.Staleness
