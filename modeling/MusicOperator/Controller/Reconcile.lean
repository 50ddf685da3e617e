import MusicOperator.Reconciler.Database
import MusicOperator.Status.Manager

/-!
  One reconcile pass (`MusicServiceReconciler.Reconcile`,
  `internal/controller/musicservice_controller.go`).

  The pass fetches the `MusicService`, handles deletion and the finalizer, then runs the
  reconcile steps in order — application Service, StatefulSet, autoscaler; then, for an enabled
  database, either the Galera pair or master / replicas / Services, and the replica autoscaler.
  The first step that fails ends the pass with `UpdateError(reason, err.Error())`, and the pass
  returns THAT call's error (`nil` when the status write succeeds). After the steps the pass
  syncs the status: from the application StatefulSet when its `Get` succeeds, from the database
  when enabled, and marks the pass reconciled.

  Recorder events and log lines are left out: they write nothing the pass reads back.
-/

namespace MusicOperator.Controller

open Reconciler Status Manager
open Reconciler.AppReconciler (reconcileService reconcileStatefulSet)
open Reconciler.DatabaseReconciler (reconcileMaster reconcileReplicas reconcileServices)

variable [QuantityParser] [GaleraReconciler]

def musicServiceFinalizerName : String := "music.mixcorp.org/finalizer"

def databaseEnabled (ms : MusicService) : Bool :=
  match ms.spec.database with
  | some db => db.enabled
  | none => false

def databaseHAEnabled (ms : MusicService) : Bool :=
  match ms.spec.database with
  | some { highAvailability := some ha, .. } => ha.enabled
  | _ => false

/-- `ctrl.Result`: the requeue delay in seconds, `none` for `ctrl.Result{}`. -/
structure Result where
  requeueAfter : Option Nat := none
deriving DecidableEq, Repr

/-- A reconcile step with the reason `UpdateError` records when it fails. -/
abbrev Step := String × Prog (Except ApiError Unit)

/-- The application steps, in order. -/
def appSteps (ms : MusicService) : List Step :=
  [("ServiceFailed", reconcileService ms),
   ("StatefulSetFailed", reconcileStatefulSet ms),
   ("AutoscalerFailed", AppReconciler.reconcileAutoscaler ms)]

/-- The database steps, in order: empty unless the database is enabled; the Galera pair or the
    master / replicas / Services triple; then the replica autoscaler, after either. -/
def databaseSteps (ms : MusicService) : List Step :=
  if databaseEnabled ms then
    (if databaseHAEnabled ms then
      [("DBGaleraFailed", GaleraReconciler.reconcileGalera ms),
       ("DBGaleraServicesFailed", GaleraReconciler.reconcileGaleraServices ms)]
    else
      [("DBMasterFailed", reconcileMaster ms),
       ("DBReplicasFailed", reconcileReplicas ms),
       ("DBServicesFailed", reconcileServices ms)]) ++
    [("DBAutoscalerFailed", DatabaseReconciler.reconcileAutoscaler ms)]
  else []

/-- Run steps in order; the first failure, with its reason, ends the run. -/
def runSteps : List Step → Prog (Option (String × ApiError))
  | [] => pure none
  | (reason, step) :: rest => do
    match ← step with
    | .error e => pure (some (reason, e))
    | .ok () => runSteps rest

/-- `return ctrl.Result{}, r.statusManager.UpdateError(...)`. -/
def failPass (ms : MusicService) (reason : String) (e : ApiError) :
    Prog (Except ApiError Result) := do
  let (_, r) ← updateError ms reason e.message
  pure (r.map fun _ => {})

/-- Initialise `status.database` for an enabled database. -/
def initDatabaseStatus (ms : MusicService) : MusicService :=
  if databaseEnabled ms && ms.status.database.isNone then { ms with status.database := some {} }
  else ms

/-- The application half of the status sync: `UpdateFromAppStatefulSet` when the `Get` of the
    application StatefulSet succeeds, nothing otherwise. -/
def syncAppStatus (ms : MusicService) : Prog (MusicService × Except ApiError Unit) := do
  match ← Prog.getObj .statefulSet ms.name with
  | .ok appSts => updateFromAppStatefulSet ms appSts
  | .error _ => pure (ms, .ok ())

/-- The database half of the status sync: `UpdateDatabase` for an enabled database. -/
def syncDatabaseStatus (ms : MusicService) : Prog (MusicService × Except ApiError Unit) :=
  if databaseEnabled ms then updateDatabase ms else pure (ms, .ok ())

/-- The status sync after the steps: the application StatefulSet, the database, then
    `UpdateReconciled`; the first failed status write is returned, and the requeue delay is 5 s
    while pods are not ready. -/
def syncStatus (ms : MusicService) : Prog (Except ApiError Result) := do
  match ← syncAppStatus ms with
  | (_, .error e) => pure (.error e)
  | (ms, .ok ()) =>
    match ← syncDatabaseStatus ms with
    | (_, .error e) => pure (.error e)
    | (ms, .ok ()) =>
      match ← updateReconciled ms with
      | (_, .error e) => pure (.error e)
      | (ms, .ok ()) =>
        pure (.ok { requeueAfter := some (if ms.status.readyReplicas < ms.spec.replicas then 5 else 30) })

/-- The pass for a live object that carries the finalizer: initialise the status, run the steps,
    sync the status. -/
def reconcileLive (ms : MusicService) : Prog (Except ApiError Result) := do
  let ms := { ms with
    status.observedGeneration := ms.generation, status.desiredReplicas := ms.spec.replicas }
  match ← runSteps (appSteps ms) with
  | some (reason, e) => failPass ms reason e
  | none =>
    let ms := initDatabaseStatus ms
    match ← runSteps (databaseSteps ms) with
    | some (reason, e) => failPass ms reason e
    | none => syncStatus ms

/-- The pass for the fetched object `ms`: remove the finalizer of an object being deleted, add
    it to one that lacks it, then `reconcileLive`. -/
def reconcileObject (ms : MusicService) : Prog (Except ApiError Result) :=
  if ms.deletionTimestamp.isSome then
    if musicServiceFinalizerName ∈ ms.finalizers then do
      let ms := { ms with finalizers := ms.finalizers.filter (· ≠ musicServiceFinalizerName) }
      match ← Prog.updateObj .musicService ms with
      | .error e => pure (.error e)
      | .ok () => pure (.ok {})
    else pure (.ok {})
  else if musicServiceFinalizerName ∈ ms.finalizers then reconcileLive ms
  else do
    let ms := { ms with finalizers := ms.finalizers ++ [musicServiceFinalizerName] }
    match ← Prog.updateObj .musicService ms with
    | .error e => pure (.error e)
    | .ok () => reconcileLive ms

/-- `MusicServiceReconciler.Reconcile` for the object named `name`. -/
def reconcile (name : String) : Prog (Except ApiError Result) := do
  match ← Prog.getObj .musicService name with
  | .error e => pure (if e.isNotFound then .ok {} else .error e)
  | .ok ms => reconcileObject ms

end MusicOperator.Controller
