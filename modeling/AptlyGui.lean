import AptlyGui.System
import AptlyGui.Web.Frame
import AptlyGui.Outline
import AptlyGui.Services.Jobs.Uses
import AptlyGui.Operations
import AptlyGui.Services.Jobs.SingleWriter
import AptlyGui.Rules
import AptlyGui.Services.Jobs.Queue
import AptlyGui.Services.Jobs.Lifecycle
import AptlyGui.Services.Jobs.Settled
import AptlyGui.Services.Jobs.Restart
import AptlyGui.Services.Jobs.Sources
import AptlyGui.Services.Jobs.Choice
import AptlyGui.Services.Jobs.Watch
import AptlyGui.Services.Jobs.Discard
import AptlyGui.Services.Jobs.Remove
import AptlyGui.Services.Jobs.Alone
import AptlyGui.Services.Jobs.Moves
import AptlyGui.Services.Jobs.Records
import AptlyGui.Services.Jobs.Suites
import AptlyGui.Services.Jobs.Update
import AptlyGui.Services.Jobs.Mix
import AptlyGui.Aptly.Prefix
import AptlyGui.Aptly.Target
import AptlyGui.Services.Jobs.Places
import AptlyGui.Services.Owners
import AptlyGui.Services.Jobs.Spare
import AptlyGui.Database.References
import AptlyGui.Services.Jobs.References
import AptlyGui.Library.Grouping
import AptlyGui.Services.Adoption
import AptlyGui.Services.Proposals
import AptlyGui.Web.Adoption
import AptlyGui.Auth.Model
import AptlyGui.Library.Transition
import AptlyGui.Library.Url
import AptlyGui.Auth.Oidc
import AptlyGui.Auth.Accounts
import AptlyGui.Web.Accounts
import AptlyGui.Auth.LastAdmin
import AptlyGui.Auth.SignOn
import AptlyGui.Auth.OneLocal
import AptlyGui.Auth.Policy
import AptlyGui.Library.Sum
import AptlyGui.Auth.Host
import AptlyGui.Web.Pages
import AptlyGui.Web.Routes
import AptlyGui.Web.Guard
import AptlyGui.Services.Jobs.Whole
import AptlyGui.Services.Jobs.Coverage
import AptlyGui.Web.FirstSync
import AptlyGui.Web.Attribution
import AptlyGui.Services.Jobs.StepLog
import AptlyGui.Services.Jobs.Announced
import AptlyGui.Services.Jobs.Progress
import AptlyGui.Services.Jobs.Raises
import AptlyGui.Services.Jobs.Audit
import AptlyGui.Web.Audit
import AptlyGui.Auth.Setup
import AptlyGui.Auth.FirstVisit
import AptlyGui.Library.InOrder
import AptlyGui.Services.Jobs.Deeds
import AptlyGui.Services.Jobs.Repeat
import AptlyGui.Services.Jobs.Names
import AptlyGui.Services.Jobs.Room
import AptlyGui.Services.Jobs.Reconcile
import AptlyGui.Services.Jobs.Deliver
import AptlyGui.Services.Presets
import AptlyGui.Web.Fields
import AptlyGui.Library.Itinerary
import AptlyGui.Services.Jobs.Tour
import AptlyGui.Web.State
import AptlyGui.Library.Relational
import AptlyGui.Library.Revisions
import AptlyGui.Database.Migrate
import AptlyGui.Services.Jobs.Walk
import AptlyGui.Services.Jobs.History
import AptlyGui.Services.Jobs.Served
import AptlyGui.Services.Jobs.Undisturbed
import AptlyGui.Aptly.Published
import AptlyGui.Services.Jobs.Serving
import AptlyGui.Services.Jobs.Rollback
import AptlyGui.Services.Jobs.FromScratch
import AptlyGui.Services.Jobs.Trial
import AptlyGui.Web.Sessions
import AptlyGui.Web.SignedIn
import AptlyGui.Web.Keys
import AptlyGui.Services.Jobs.Trial
import AptlyGui.Aptly.Legible
