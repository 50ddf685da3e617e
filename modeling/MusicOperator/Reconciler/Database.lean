import MusicOperator.Reconciler.App

/-!
  The database-tier reconciler (`internal/reconciler/database.go`).

  * `reconcileMaster` is `syncStatefulSet` at `name-db-master`, claim prefix `db-data-name-db-master-`.
  * `reconcileReplicas` returns at once when `database.replicas = 0`; otherwise it first ensures
    the replication Secret, then is `syncStatefulSet` at `name-db-replica`.
  * `reconcileServices` creates the master Service if absent, then, when replicas > 0, the read
    Service if its `Get` says `NotFound`; any other error of that second `Get` is dropped.
  * `reconcileAutoscaler` manages `name-db-replica-autoscaler` only when `database.autoscaling`
    is set and replicas > 0, and compares whole specs (`reflect.DeepEqual`).
  * `ensureReplicationSecret` creates `name-db-replication` with both keys, or backfills the
    missing keys of an existing one.

  The controller also calls `ReconcileGalera` and `ReconcileGaleraServices` for a
  high-availability database; they are not in the repository, and are the class
  `GaleraReconciler` here, so that every result holds for every implementation of them.
-/

namespace MusicOperator.Reconciler

open Builder
open Prog (getObj createObj updateObj generatePassword)

variable [QuantityParser]

def databaseStorageSpec (ms : MusicService) : StorageSpec :=
  match ms.spec.database with
  | some { storage := some st, .. } => st
  | _ => { size := "" }

def replicationEnabled (ms : MusicService) : Bool :=
  match ms.spec.database with
  | none => false
  | some db =>
    match db.replication with
    | none => true
    | some r => r.enabled.getD true

/-- Whether a Secret's data holds key `k` (`_, ok := secret.Data[k]`). -/
def dataHas (data : List (String × String)) (k : String) : Bool := (data.lookup k).isSome

namespace DatabaseReconciler

/-- The end of `ensureReplicationSecret`'s backfill: write the Secret back with `data` only if
    a key was added. -/
def writeBackIfUpdated (secret : Secret) (data : List (String × String)) (updated : Bool) :
    Prog (Except ApiError (Option Secret)) :=
  if updated then do
    match ← updateObj .secret { secret with data := data } with
    | .error e => pure (.error e)
    | .ok () => pure (.ok (some { secret with data := data }))
  else pure (.ok (some { secret with data := data }))

/-- The backfill branch of `ensureReplicationSecret`: add a missing `username`, then a missing
    `password`, never touching a key that is present. -/
def backfillReplicationSecret (secret : Secret) : Prog (Except ApiError (Option Secret)) :=
  let data := if dataHas secret.data "username" then secret.data
    else secret.data ++ [("username", "repl")]
  let updated := !dataHas secret.data "username"
  if dataHas data "password" then writeBackIfUpdated secret data updated
  else do
    match ← generatePassword 16 with
    | .error e => pure (.error e)
    | .ok password => writeBackIfUpdated secret (data ++ [("password", password)]) true

/-- The returned Secret is `none` when replication is off or there are no replicas. A `Create`
    error is returned alone (the code also returns the Secret, which no caller reads). -/
def ensureReplicationSecret (ms : MusicService) : Prog (Except ApiError (Option Secret)) :=
  if !replicationEnabled ms || (ms.spec.database.map (·.replicas)) = some 0 then pure (.ok none)
  else do
    let secretName := ms.name ++ "-db-replication"
    match ← getObj .secret secretName with
    | .error e =>
      if !e.isNotFound then pure (.error e)
      else do
        match ← generatePassword 16 with
        | .error e => pure (.error e)
        | .ok password =>
          let secret : Secret :=
            { metadata := { name := secretName, owner := some ms.name }, type := "Opaque",
              data := [("username", "repl"), ("password", password)] }
          match ← createObj .secret secret with
          | .error e => pure (.error e)
          | .ok () => pure (.ok (some secret))
    | .ok secret => backfillReplicationSecret secret

def reconcileMaster (ms : MusicService) : Prog (Except ApiError Unit) :=
  syncStatefulSet (ms.name ++ "-db-master") (buildDatabaseMasterStatefulSet ms)
    (databaseStorageSpec ms) "db-data" (ms.name ++ "-db-master")

def reconcileReplicas (ms : MusicService) : Prog (Except ApiError Unit) :=
  match ms.spec.database with
  | none => .panic
  | some db =>
    if db.replicas = 0 then pure (.ok ())
    else do
      match ← ensureReplicationSecret ms with
      | .error e => pure (.error e)
      | .ok _ =>
        syncStatefulSet (ms.name ++ "-db-replica") (buildDatabaseReplicaStatefulSet ms)
          (databaseStorageSpec ms) "db-data" (ms.name ++ "-db-replica")

/-- The read-Service half of `reconcileServices`: a `Get` error other than `NotFound` falls
    through to `return nil`. -/
def reconcileReadService (ms : MusicService) : Prog (Except ApiError Unit) :=
  match ms.spec.database with
  | none => .panic
  | some db =>
    if db.replicas > 0 then do
      match ← getObj .service (ms.name ++ "-db-read") with
      | .error e =>
        if e.isNotFound then createObj .service (buildDatabaseReadService ms) else pure (.ok ())
      | .ok _ => pure (.ok ())
    else pure (.ok ())

def reconcileServices (ms : MusicService) : Prog (Except ApiError Unit) := do
  match ← getObj .service (ms.name ++ "-db-master") with
  | .error e =>
    if e.isNotFound then do
      match ← createObj .service (buildDatabaseMasterService ms) with
      | .error e => pure (.error e)
      | .ok () => reconcileReadService ms
    else pure (.error e)
  | .ok _ => reconcileReadService ms

def reconcileAutoscaler (ms : MusicService) : Prog (Except ApiError Unit) :=
  match ms.spec.database with
  | none => .panic
  | some db =>
    if db.autoscaling.isNone || db.replicas = 0 then pure (.ok ())
    else do
      match ← getObj .autoscaler (ms.name ++ "-db-replica-autoscaler") with
      | .error e =>
        if e.isNotFound then
          match buildDatabaseReplicaAutoscaler ms with
          | none => .panic
          | some hpa => createObj .autoscaler hpa
        else pure (.error e)
      | .ok hpa =>
        match buildDatabaseReplicaAutoscaler ms with
        | none => .panic
        | some desired =>
          if hpa.spec != desired.spec then updateObj .autoscaler { hpa with spec := desired.spec }
          else pure (.ok ())

end DatabaseReconciler

/-- `ReconcileGalera` and `ReconcileGaleraServices`: methods of `DatabaseReconciler` that the
    controller calls for a high-availability database, absent from the repository. -/
class GaleraReconciler where
  reconcileGalera : MusicService → Prog (Except ApiError Unit)
  reconcileGaleraServices : MusicService → Prog (Except ApiError Unit)

/-- A Galera implementation that sends no request and succeeds: the reference instance passes
    are evaluated with on concrete inputs. -/
instance idleGalera : GaleraReconciler := ⟨fun _ => pure (.ok ()), fun _ => pure (.ok ())⟩

end MusicOperator.Reconciler
