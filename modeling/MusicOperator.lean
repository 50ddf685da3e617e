import MusicOperator.Kube.Objects
import MusicOperator.Api.V1
import MusicOperator.Builder.Resources
import MusicOperator.Store.Program
import MusicOperator.Store.Guarantee
import MusicOperator.Store.Hoare
import MusicOperator.Reconciler.Storage
import MusicOperator.Reconciler.App
import MusicOperator.Reconciler.Database
import MusicOperator.Status.Manager
import MusicOperator.Controller.Reconcile
import MusicOperator.Properties.StorageScope
import MusicOperator.Properties.Requests
import MusicOperator.Properties.StatefulSetWrites
import MusicOperator.Properties.Footprint
import MusicOperator.Properties.Topology
import MusicOperator.Store.Failure
import MusicOperator.Properties.StatusSync
import MusicOperator.Properties.Failures
import MusicOperator.Properties.Secrets
import MusicOperator.Properties.Settle
import MusicOperator.Properties.Convergence
import MusicOperator.Properties.Passes
import MusicOperator.Properties.Resize
import MusicOperator.Properties.Conditions
import MusicOperator.Properties.Diffs
import MusicOperator.Properties.Panics
import MusicOperator.Properties.Autoscalers
import MusicOperator.Properties.StorageWarnings
import MusicOperator.Properties.Parents
import MusicOperator.Properties.Deletions
import MusicOperator.Properties.Ownership
import MusicOperator.Properties.Generations
import MusicOperator.Database.Provider
import MusicOperator.Properties.Providers
import MusicOperator.Properties.Requeue
import MusicOperator.Properties.Selectors
