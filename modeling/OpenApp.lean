import OpenApp.Async.Prog
import OpenApp.Async.Interleave
import OpenApp.Workspace.Memory
import OpenApp.Workspace.Manager
import OpenApp.Workspace.System
import OpenApp.Workspace.Kinds
import OpenApp.Workspace.Rows
import OpenApp.Workspace.Fencing
import OpenApp.Workspace.Progress
import OpenApp.Workspace.Cancellation
import OpenApp.Workspace.Artifacts
import OpenApp.Workspace.Generations
import OpenApp.Workspace.Deletion
import OpenApp.Lifecycle.Resurrection
import OpenApp.Postgres.Migration
import OpenApp.Forwarding.Coherence
import OpenApp.Forwarding.AllowedOrigins
import OpenApp.Quota.Agreement
import OpenApp.Rollout.DueOrder
import OpenApp.Rollout.Comparator
import OpenApp.Rollout.Drains
import OpenApp.Rollout.Items
import OpenApp.Rollout.Fencing
import OpenApp.Rollout.HealthProof
import OpenApp.Rollout.Supersession
import OpenApp.Activity.Runs
import OpenApp.Activity.Quiet
import OpenApp.Catalog.System
import OpenApp.Policy.Edited
import OpenApp.Identity.Governance
import OpenApp.Proxy.Grants
import OpenApp.Proxy.Credentials
import OpenApp.Proxy.RootScoped
import OpenApp.Catalog.Versions
import OpenApp.Operations.Retry
import OpenApp.Identity.Sessions
import OpenApp.Access.ManualStop
import OpenApp.Revisions.Faithful
import OpenApp.Policy.ConfigPaths
import OpenApp.Docker.Agreement
import OpenApp.Docker.Restarts
import OpenApp.Docker.FailClosed
import OpenApp.Docker.ImageLabels
import OpenApp.Docker.Subnets
import OpenApp.Catalog.Slots
import OpenApp.Proxy.Target
import OpenApp.Providers.Selection
import OpenApp.Identity.BoundedAttempts
import OpenApp.Workspace.ReconcilerRuns
import OpenApp.Maintenance.Requests
import OpenApp.Catalog.Preview
import OpenApp.Plugins.LoadOrder
import OpenApp.Catalog.SameWork
import OpenApp.Catalog.BuildOutcome
import OpenApp.Artifacts.Markers
import OpenApp.Async.Owned
import OpenApp.Catalog.BuildLife
import OpenApp.Catalog.Numbering
import OpenApp.Catalog.References
import OpenApp.Activity.LeaseRuns
import OpenApp.Tenancy.Isolation
import OpenApp.Workspace.Life
import OpenApp.Operations.CommitPoint
