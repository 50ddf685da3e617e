import MusicOperator.Builder.Resources
import MusicOperator.Reconciler.Storage

/-!
  The application-tier reconciler (`internal/reconciler/app.go`) and the two diffs it defines.

  * `statefulSetNeedsUpdate` compares the replica count (dereferencing both pointers), the init
    containers and volumes whole, and then the containers position by position on image,
    resources, env, volume mounts, ports and the two probes.
  * `autoscalerNeedsUpdate` compares `maxReplicas`, `minReplicas` and the metrics; at each `nil`
    pointer it returns the pointer comparison at once (`false` when both are `nil`).
  * `syncStatefulSet` is the get-or-create / storage / diff-and-update body that
    `ReconcileStatefulSet` shares with `DatabaseReconciler.ReconcileMaster` and the tail of
    `ReconcileReplicas`: each of them is `syncStatefulSet` at its own name, descriptor, storage
    spec and claim prefix. On an update the whole spec is replaced by the descriptor's
    (`sts.Spec = desiredSts.Spec`).
-/

namespace MusicOperator.Reconciler

open Builder
open Prog (getObj createObj updateObj deleteObj)

variable [QuantityParser]

/-! ## The StatefulSet diff -/

/-- The per-container part of `statefulSetNeedsUpdate`. -/
def containerNeedsUpdate (current desired : Container) : Bool :=
  current.image != desired.image || current.resources != desired.resources ||
    current.env != desired.env || current.volumeMounts != desired.volumeMounts ||
    current.ports != desired.ports || current.readinessProbe != desired.readinessProbe ||
    current.livenessProbe != desired.livenessProbe

/-- `none` is the panic of dereferencing a `nil` replica count. -/
def statefulSetNeedsUpdate (current desired : StatefulSet) : Option Bool :=
  match current.spec.replicas, desired.spec.replicas with
  | some cur, some des =>
    let c := current.spec.template.spec
    let d := desired.spec.template.spec
    some (cur != des || c.initContainers != d.initContainers || c.volumes != d.volumes ||
      c.containers.length != d.containers.length ||
      (c.containers.zip d.containers).any fun p => containerNeedsUpdate p.1 p.2)
  | _, _ => none

/-- The diff-and-update step: write the descriptor's whole spec over the live object. -/
def updateStatefulSetIfNeeded (sts desiredSts : StatefulSet) : Prog (Except ApiError Unit) :=
  match statefulSetNeedsUpdate sts desiredSts with
  | none => .panic
  | some true => updateObj .statefulSet { sts with spec := desiredSts.spec }
  | some false => pure (.ok ())

/-- The body after a successful `Get` of the live StatefulSet `sts`: on a storage-size change,
    `Recreate` deletes and returns, `Resize` grows the claims `claimName-appName-*`; then update
    if the diff says so. -/
def syncExisting (sts desiredSts : StatefulSet) (storage : StorageSpec)
    (claimName appName : String) : Prog (Except ApiError Unit) :=
  if storageSizeChanged sts desiredSts then
    if storageUpdatePolicy storage = "Recreate" then
      recreateStatefulSetStorage sts claimName appName
    else do
      match ← resizePVCs claimName appName desiredSts with
      | .error e => pure (.error e)
      | .ok () => updateStatefulSetIfNeeded sts desiredSts
  else updateStatefulSetIfNeeded sts desiredSts

/-- The body shared by the three StatefulSet reconcilers: get `name`; create the descriptor if
    it is absent, otherwise `syncExisting`. -/
def syncStatefulSet (name : String) (desired : Option StatefulSet) (storage : StorageSpec)
    (claimName appName : String) : Prog (Except ApiError Unit) := do
  match ← getObj .statefulSet name with
  | .error e =>
    if e.isNotFound then
      match desired with
      | none => .panic
      | some sts => createObj .statefulSet sts
    else pure (.error e)
  | .ok sts =>
    match desired with
    | none => .panic
    | some desiredSts => syncExisting sts desiredSts storage claimName appName

/-! ## The autoscaler diff -/

/-- The metric loop of `autoscalerNeedsUpdate`, over positions paired up (the lengths are
    already equal). -/
def metricsNeedUpdate : List (MetricSpec × MetricSpec) → Bool
  | [] => false
  | (metric, desiredMetric) :: rest =>
    if metric.type != desiredMetric.type then true
    else match metric.resource, desiredMetric.resource with
      | none, none => false
      | none, some _ | some _, none => true
      | some r, some dr =>
        if r.name != dr.name then true
        else match r.target.averageUtilization, dr.target.averageUtilization with
          | none, none => false
          | none, some _ | some _, none => true
          | some a, some b => if a != b then true else metricsNeedUpdate rest

def autoscalerNeedsUpdate (current desired : HorizontalPodAutoscaler) : Bool :=
  if current.spec.maxReplicas != desired.spec.maxReplicas then true
  else match current.spec.minReplicas, desired.spec.minReplicas with
    | none, none => false
    | none, some _ | some _, none => true
    | some a, some b =>
      if a != b then true
      else if current.spec.metrics.length != desired.spec.metrics.length then true
      else metricsNeedUpdate (current.spec.metrics.zip desired.spec.metrics)

/-! ## `AppReconciler` -/

namespace AppReconciler

def reconcileService (ms : MusicService) : Prog (Except ApiError Unit) := do
  match ← getObj .service ms.name with
  | .error e => if e.isNotFound then createObj .service (buildAppService ms) else pure (.error e)
  | .ok _ => pure (.ok ())

def reconcileStatefulSet (ms : MusicService) : Prog (Except ApiError Unit) :=
  syncStatefulSet ms.name (buildAppStatefulSet ms) ms.spec.storage "music-data" ms.name

def deleteAutoscalerIfExists (ms : MusicService) : Prog (Except ApiError Unit) := do
  match ← getObj .autoscaler (ms.name ++ "-autoscaler") with
  | .error e => pure (if e.isNotFound then .ok () else .error e)
  | .ok hpa => deleteObj .autoscaler hpa.metadata.name

def reconcileAutoscaler (ms : MusicService) : Prog (Except ApiError Unit) :=
  match ms.spec.autoscaling with
  | none => deleteAutoscalerIfExists ms
  | some _ => do
    match ← getObj .autoscaler (ms.name ++ "-autoscaler") with
    | .error e =>
      if e.isNotFound then
        match buildAutoscaler ms with
        | none => .panic
        | some hpa => createObj .autoscaler hpa
      else pure (.error e)
    | .ok hpa =>
      match buildAutoscaler ms with
      | none => .panic
      | some desiredHpa =>
        if autoscalerNeedsUpdate hpa desiredHpa then
          updateObj .autoscaler { hpa with spec := desiredHpa.spec }
        else pure (.ok ())

end AppReconciler

end MusicOperator.Reconciler
