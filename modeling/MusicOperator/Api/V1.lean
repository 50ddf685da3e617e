import MusicOperator.Kube.Objects

/-!
  The `music.mixcorp.org/v1` API: the `MusicService` custom resource (`api/v1`).

  The controller reads `spec.database.highAvailability.enabled`, but the repository's type file
  declares no such field; `HighAvailabilitySpec` is modelled from the spec (§3: a
  `HighAvailabilitySpec {enabled}` inside `DatabaseSpec`).
-/

namespace MusicOperator

structure StreamingSpec where
  bitrate : String
  maxConnections : Int
deriving DecidableEq, Repr

/-- `StorageSpec`; `updatePolicy` is `""` (omitted), `"Resize"` or `"Recreate"`. -/
structure StorageSpec where
  size : String
  updatePolicy : String := ""
deriving DecidableEq, Repr

structure AutoscalingSpec where
  minReplicas : Int
  maxReplicas : Int
  targetCPUUtilizationPercentage : Int
  targetMemoryUtilizationPercentage : Option Int := none
deriving DecidableEq, Repr

structure DatabaseReplicationSpec where
  enabled : Option Bool := none
  gtid : Option Bool := none
deriving DecidableEq, Repr

/-- Modelled from the spec: the high-availability switch `HighAvailabilitySpec {enabled}` that
    `databaseHAEnabled` reads, missing from the repository's `DatabaseSpec`. -/
structure HighAvailabilitySpec where
  enabled : Bool
deriving DecidableEq, Repr

structure DatabaseSpec where
  enabled : Bool
  replicas : Int := 0
  image : String := ""
  storage : Option StorageSpec := none
  rootPassword : String := ""
  replication : Option DatabaseReplicationSpec := none
  autoscaling : Option AutoscalingSpec := none
  highAvailability : Option HighAvailabilitySpec := none
deriving DecidableEq, Repr

structure MusicServiceSpec where
  replicas : Int
  image : String
  port : Int
  storage : StorageSpec
  streaming : StreamingSpec
  resources : Option ResourceRequirements := none
  autoscaling : Option AutoscalingSpec := none
  database : Option DatabaseSpec := none
deriving DecidableEq, Repr

structure DatabaseStatus where
  phase : String := ""
  masterReady : Bool := false
  replicasReady : Int := 0
  replicaEverCreated : Bool := false
  replicaLastSeen : Option Time := none
  replicaDeletionDetected : Bool := false
  replicationReady : Bool := false
deriving DecidableEq, Repr

structure MusicServiceStatus where
  observedGeneration : Int := 0
  desiredReplicas : Int := 0
  readyReplicas : Int := 0
  phase : String := ""
  lastReconcileTime : Option Time := none
  lastError : String := ""
  conditions : List Condition := []
  database : Option DatabaseStatus := none
deriving DecidableEq, Repr

/-- A `MusicService` object: its metadata (name, generation, deletion mark, finalizers), spec
    and status. -/
structure MusicService where
  name : String
  generation : Int := 0
  deletionTimestamp : Option Time := none
  finalizers : List String := []
  spec : MusicServiceSpec
  status : MusicServiceStatus := {}
deriving DecidableEq, Repr

/-! ## What the CRD schema admits

  The `+kubebuilder:validation` markers of `api/v1`: the API server rejects an object that
  breaks one of them, so every stored `MusicService` satisfies `MusicServiceSpec.Admitted`.
  Optional fields are checked only when set. -/

/-- `Size`: `MinLength=1`; `UpdatePolicy`: `Enum=Resize;Recreate`, or omitted. -/
def StorageSpec.Admitted (st : StorageSpec) : Prop :=
  1 ≤ st.size.length ∧ st.updatePolicy ∈ ["", "Resize", "Recreate"]

/-- `Bitrate`: `MinLength=1`; `MaxConnections`: `Minimum=1`, `Maximum=10000`. -/
def StreamingSpec.Admitted (st : StreamingSpec) : Prop :=
  1 ≤ st.bitrate.length ∧ 1 ≤ st.maxConnections ∧ st.maxConnections ≤ 10000

/-- `MinReplicas`, `MaxReplicas`: `Minimum=1`; the two targets: `Minimum=1`, `Maximum=100`. -/
def AutoscalingSpec.Admitted (a : AutoscalingSpec) : Prop :=
  1 ≤ a.minReplicas ∧ 1 ≤ a.maxReplicas ∧
    1 ≤ a.targetCPUUtilizationPercentage ∧ a.targetCPUUtilizationPercentage ≤ 100 ∧
    ∀ m ∈ a.targetMemoryUtilizationPercentage, 1 ≤ m ∧ m ≤ 100

/-- `Replicas`: `Minimum=0`, `Maximum=10`; the storage and autoscaling blocks when set. -/
def DatabaseSpec.Admitted (db : DatabaseSpec) : Prop :=
  0 ≤ db.replicas ∧ db.replicas ≤ 10 ∧ (∀ st ∈ db.storage, st.Admitted) ∧
    ∀ a ∈ db.autoscaling, a.Admitted

/-- `Replicas`: `Minimum=1`, `Maximum=100`; `Image`: `MinLength=1`; `Port`: `Minimum=1`,
    `Maximum=65535`; and every nested block. -/
def MusicServiceSpec.Admitted (spec : MusicServiceSpec) : Prop :=
  1 ≤ spec.replicas ∧ spec.replicas ≤ 100 ∧ 1 ≤ spec.image.length ∧ 1 ≤ spec.port ∧
    spec.port ≤ 65535 ∧ spec.storage.Admitted ∧ spec.streaming.Admitted ∧
    (∀ a ∈ spec.autoscaling, a.Admitted) ∧ ∀ db ∈ spec.database, db.Admitted

theorem MusicServiceSpec.Admitted.database_replicas_nonneg {spec : MusicServiceSpec}
    {db : DatabaseSpec} (h : spec.Admitted) (hdb : spec.database = some db) : 0 ≤ db.replicas :=
  (h.2.2.2.2.2.2.2.2 db hdb).1

instance (st : StorageSpec) : Decidable st.Admitted := inferInstanceAs (Decidable (_ ∧ _))

instance (st : StreamingSpec) : Decidable st.Admitted := inferInstanceAs (Decidable (_ ∧ _))

instance (a : AutoscalingSpec) : Decidable a.Admitted := inferInstanceAs (Decidable (_ ∧ _))

instance (db : DatabaseSpec) : Decidable db.Admitted := inferInstanceAs (Decidable (_ ∧ _))

instance (spec : MusicServiceSpec) : Decidable spec.Admitted := inferInstanceAs (Decidable (_ ∧ _))

end MusicOperator
