import MusicOperator.Reconciler.Storage

/-!
  The status manager (`internal/status/manager.go`).

  Every operation mutates the in-memory `MusicService` and, except `updateStorageWarnings`, ends
  with one `Status().Update`; it returns the mutated object together with that write's error,
  as the Go code leaves both to its caller. Each `time.Now()` is a clock request, so a run
  quantifies over every clock value at every call.

  `setCondition` replaces the FIRST condition of the same type, carrying over its transition
  time when the status is unchanged, and appends otherwise. The manager's own
  `listPVCsByPrefix` filters by a length check and a slice comparison instead of
  `strings.HasPrefix`.
-/

namespace MusicOperator.Status

open Reconciler (claimPrefix)

variable [QuantityParser]

/-! ## Conditions -/

/-- The loop of `setCondition`: replace the first condition of `condition.type`, else append. -/
def setConditionLoop (now : Time) (condition : Condition) : List Condition → List Condition
  | [] => [condition]
  | c :: cs =>
    if c.type = condition.type then
      { condition with
        lastTransitionTime := if c.status ≠ condition.status then now else c.lastTransitionTime } :: cs
    else c :: setConditionLoop now condition cs

def setCondition (now : Time) (conditions : List Condition) (condition : Condition) :
    List Condition :=
  setConditionLoop now
    (if condition.lastTransitionTime = 0 then { condition with lastTransitionTime := now }
      else condition)
    conditions

/-- `setCondition(&ms.Status.Conditions, metav1.Condition{...})`, with `time.Now()` read first. -/
def setStatusCondition (ms : MusicService) (type status reason message : String) :
    Prog MusicService := do
  let now ← Prog.now
  pure { ms with
    status.conditions := setCondition now ms.status.conditions
      { type := type, status := status, observedGeneration := ms.generation, reason := reason,
        message := message } }

/-! ## Operations -/

namespace Manager

def updateReconciled (ms : MusicService) : Prog (MusicService × Except ApiError Unit) := do
  let ms ← setStatusCondition ms "Reconciled" "True" "ReconcileSuccess" "Successfully reconciled"
  let now ← Prog.now
  let ms := { ms with status.lastReconcileTime := some now, status.lastError := "" }
  let r ← Prog.updateStatus ms
  pure (ms, r)

def updateError (ms : MusicService) (reason message : String) :
    Prog (MusicService × Except ApiError Unit) := do
  let now ← Prog.now
  let ms := { ms with
    status.phase := "Failed", status.lastError := message, status.lastReconcileTime := some now }
  let ms ← setStatusCondition ms "Reconciled" "False" reason message
  let r ← Prog.updateStatus ms
  pure (ms, r)

/-- The manager's `listPVCsByPrefix`: `len(name) >= len(prefix) && name[:len(prefix)] == prefix`. -/
def listPVCsByPrefix (claimName appName : String) :
    Prog (Except ApiError (List PersistentVolumeClaim)) := do
  match ← Prog.listClaims with
  | .error e => pure (.error e)
  | .ok items =>
    let pfx := claimPrefix claimName appName
    pure (.ok (items.filter fun pvc =>
      pvc.name.length ≥ pfx.length && pvc.name.toList.take pfx.length == pfx.toList))

/-- The status package's own copy of `storageRequestFromStatefulSet`, identical to the
    reconciler's. -/
def storageRequestFromStatefulSet (sts : StatefulSet) : Option Quantity :=
  Reconciler.storageRequestFromStatefulSet sts

/-- Whether the declared size parses and is below the StatefulSet's template request. -/
def shrinkRequested (sts : StatefulSet) (desiredSize : String) : Bool :=
  match storageRequestFromStatefulSet sts with
  | some currentSize =>
    desiredSize != "" &&
      match QuantityParser.parse desiredSize with
      | some desired => decide (desired < currentSize)
      | none => false
  | none => false

/-- The storage condition `conditionType`: `ShrinkNotSupported` when the declared size is below
    the template's, `PVCNotBound` when a listed claim is not bound, `StorageHealthy` otherwise —
    also when the claim `List` fails. -/
def updateStorageWarnings (ms : MusicService) (sts : StatefulSet)
    (claimName appName desiredSize conditionType : String) : Prog MusicService := do
  if shrinkRequested sts desiredSize then
    setStatusCondition ms conditionType "False" "ShrinkNotSupported"
      "Requested storage size is smaller than current PVC size"
  else
    match ← listPVCsByPrefix claimName appName with
    | .ok pvcs =>
      if pvcs.any (·.phase != "Bound") then
        setStatusCondition ms conditionType "False" "PVCNotBound" "One or more PVCs are not bound yet"
      else
        setStatusCondition ms conditionType "True" "StorageHealthy"
          "Storage requests are within expected bounds"
    | .error _ =>
      setStatusCondition ms conditionType "True" "StorageHealthy"
        "Storage requests are within expected bounds"

/-- The phase and `Available` condition for `ready` of `replicas` ready pods. -/
def setAvailability (ms : MusicService) (ready replicas : Int) : Prog MusicService :=
  if ready = 0 then
    setStatusCondition { ms with status.phase := "Pending" } "Available" "False" "PodsNotReady"
      "Waiting for pods to be ready"
  else if ready < replicas then
    setStatusCondition { ms with status.phase := "Progressing" } "Available" "False"
      "PodsProgressing" ("Waiting for pods: " ++ toString ready ++ "/" ++ toString replicas ++ " ready")
  else
    setStatusCondition { ms with status.phase := "Available" } "Available" "True" "PodsReady"
      "All replicas are ready"

def updateFromAppStatefulSet (ms : MusicService) (sts : StatefulSet) :
    Prog (MusicService × Except ApiError Unit) :=
  match sts.spec.replicas with
  | none => .panic
  | some replicas => do
    let ms := { ms with
      status.readyReplicas := sts.status.readyReplicas, status.desiredReplicas := replicas,
      status.observedGeneration := ms.generation }
    let ms ← setAvailability ms sts.status.readyReplicas replicas
    let ms ← updateStorageWarnings ms sts "music-data" ms.name ms.spec.storage.size
      "StorageWarningApp"
    let r ← Prog.updateStatus ms
    pure (ms, r)

/-- Apply `f` to the (initialised) database status. -/
def updateDb (ms : MusicService) (f : DatabaseStatus → DatabaseStatus) : MusicService :=
  { ms with status.database := some (f (ms.status.database.getD {})) }

/-- The master half of `updateDatabase`: only a successful `Get` is looked at. -/
def updateMasterStatus (ms : MusicService) : Prog MusicService := do
  match ← Prog.getObj .statefulSet (ms.name ++ "-db-master") with
  | .error _ => pure ms
  | .ok masterSts =>
    let ready := masterSts.status.readyReplicas
    let ms := updateDb ms fun d =>
      { d with masterReady := decide (ready > 0), phase := if ready > 0 then "Ready" else "Pending" }
    match ms.spec.database with
    | none => .panic
    | some db =>
      match db.storage with
      | some st =>
        updateStorageWarnings ms masterSts "db-data" (ms.name ++ "-db-master") st.size
          "StorageWarningDatabase"
      | none => pure ms

/-- The replica half of `updateDatabase`: the replica-history flags and condition. -/
def updateReplicaStatus (ms : MusicService) : Prog MusicService :=
  match ms.spec.database with
  | none => .panic
  | some db =>
    if db.replicas > 0 then do
      match ← Prog.getObj .statefulSet (ms.name ++ "-db-replica") with
      | .ok replicaSts =>
        let now ← Prog.now
        let ready := replicaSts.status.readyReplicas
        let ms := updateDb ms fun d =>
          { d with replicasReady := ready, replicaEverCreated := true,
                   replicaDeletionDetected := false, replicaLastSeen := some now,
                   replicationReady := decide (ready > 0) }
        setStatusCondition ms "DatabaseReplicaHistory" "True" "ReplicaObserved"
          "Replica StatefulSet is present"
      | .error e =>
        if e.isNotFound && (ms.status.database.getD {}).replicaEverCreated then
          setStatusCondition (updateDb ms fun d => { d with replicaDeletionDetected := true })
            "DatabaseReplicaHistory" "False" "ReplicaDeleted"
            "Replica StatefulSet was deleted after previously existing"
        else pure ms
    else pure ms

def updateDatabase (ms : MusicService) : Prog (MusicService × Except ApiError Unit) := do
  let ms := if ms.status.database.isNone then { ms with status.database := some {} } else ms
  let ms ← updateMasterStatus ms
  let ms ← updateReplicaStatus ms
  let r ← Prog.updateStatus ms
  pure (ms, r)

end Manager

end MusicOperator.Status
