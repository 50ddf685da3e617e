import MusicOperator.Properties.Footprint

/-!
  Which database objects a pass writes, and in what order.

  * High availability. For a database with `highAvailability.enabled`, the controller runs the
    Galera pair in place of master / replicas / Services, but runs the replica autoscaler step
    after either. So, provided the Galera steps leave them alone, a high-availability pass
    writes none of the master and replica StatefulSets, the read Service and the replication
    Secret, and writes the replica autoscaler exactly when the step manages it
    (`ha_pass_writes_only_replica_autoscaler`). With `database.autoscaling` set and two replicas
    it creates `m-db-replica-autoscaler`, aimed at the StatefulSet `m-db-replica`, which nothing
    creates (`ha_pass_creates_replica_autoscaler`).
  * Dependency order. `ReconcileMaster` runs before `ReconcileServices`, so the master
    StatefulSet, whose `serviceName` is `m-db-master`, exists before that Service does
    (`master_statefulSet_before_its_service`).
-/

namespace MusicOperator

open Prog Builder Reconciler Controller

/-! ## High availability -/

/-- The primary/replica objects of the parent `n`. -/
def primaryReplicaKeys (n : String) : List Key :=
  [⟨.statefulSet, n ++ "-db-master"⟩, ⟨.statefulSet, n ++ "-db-replica"⟩,
    ⟨.service, n ++ "-db-read"⟩, ⟨.secret, n ++ "-db-replication"⟩,
    ⟨.autoscaler, n ++ "-db-replica-autoscaler"⟩]

/-- Every key but the primary/replica objects of `n`. -/
def outsidePrimaryReplica (n : String) : Region :=
  ⟨(· ∉ primaryReplicaKeys n), fun _ => true⟩

/-- What a high-availability pass for `ms` may write: every key but the primary/replica objects,
    and the replica autoscaler when the database is enabled and the step manages it. -/
def haRegion (ms : MusicService) : Region :=
  ⟨fun key => key ∉ primaryReplicaKeys ms.name ∨
      (key = ⟨.autoscaler, ms.name ++ "-db-replica-autoscaler"⟩ ∧
        databaseEnabled ms = true ∧ replicaAutoscalerManaged ms = true),
    fun _ => true⟩

section HA

variable {ms ms' : MusicService}

theorem haRegion_congr (hn : ms'.name = ms.name) (hs : ms'.spec = ms.spec) :
    haRegion ms' = haRegion ms := by
  simp only [haRegion, hn, databaseEnabled, replicaAutoscalerManaged, hs]

theorem outsidePrimaryReplica_sub : (outsidePrimaryReplica ms.name).Sub (haRegion ms) :=
  ⟨fun _ h => .inl h, fun _ _ => rfl⟩

theorem appRegion_sub_haRegion : (appRegion ms.name).Sub (haRegion ms) :=
  ⟨fun _ h => .inl (by
    simp only [appRegion, Region.ofKeys_keys, List.mem_cons, List.mem_singleton,
      List.not_mem_nil, or_false] at h
    rcases h with rfl | rfl | rfl <;> simp [primaryReplicaKeys]),
    fun _ _ => rfl⟩

theorem replicaAutoscalerRegion_sub_haRegion (he : databaseEnabled ms = true) :
    (replicaAutoscalerRegion ms).Sub (haRegion ms) := by
  refine ⟨fun key h => .inr ?_, fun _ _ => rfl⟩
  simp only [replicaAutoscalerRegion, Region.ofKeys_keys] at h
  split at h
  · exact ⟨List.mem_singleton.mp h, he, ‹_›⟩
  · exact absurd h (List.not_mem_nil _)

/-- The status manager writes only the `MusicService`. -/
theorem Req.IsStatusRequest.writesIn_haRegion {r : Req} (h : r.IsStatusRequest ms.name) :
    r.WritesIn (haRegion ms) := by
  cases r with
  | updateStatus x => exact .inl (by simp [primaryReplicaKeys])
  | create | update | delete | updateClaim | deleteClaim => exact h.elim
  | _ => trivial

/-- The steps of a high-availability pass write only inside `haRegion`, given the Galera steps
    write none of the primary/replica objects. -/
theorem haSteps_writesIn [QuantityParser] [GaleraReconciler]
    (hha : databaseHAEnabled ms = true)
    (hG : All (Req.WritesIn (outsidePrimaryReplica ms.name)) (GaleraReconciler.reconcileGalera ms) ∧
      All (Req.WritesIn (outsidePrimaryReplica ms.name))
        (GaleraReconciler.reconcileGaleraServices ms)) :
    ∀ st ∈ appSteps ms ++ databaseSteps ms, All (Req.WritesIn (haRegion ms)) st.2 := by
  intro st hst
  rcases List.mem_append.mp hst with h | h
  · exact (appSteps_within ms st h).mono fun _ hr => (hr.mono appRegion_sub_haRegion).writesIn
  obtain ⟨he, ⟨-, e | e⟩ | ⟨hno, -⟩ | e⟩ := mem_databaseSteps h
  · exact e ▸ hG.1.mono fun _ hr => hr.mono outsidePrimaryReplica_sub
  · exact e ▸ hG.2.mono fun _ hr => hr.mono outsidePrimaryReplica_sub
  · exact absurd hha (by simp [hno])
  · exact e ▸ (reconcileReplicaAutoscaler_within ms).mono fun _ hr =>
      (hr.mono (replicaAutoscalerRegion_sub_haRegion he)).writesIn

end HA

/-- **A high-availability pass writes no primary/replica object but the replica autoscaler.**
    Let the Galera steps write none of the primary/replica objects of their parent. Then in every
    run of a pass for a parent with `highAvailability.enabled`, from any store and whatever
    fails, a write of one of `n-db-master`, `n-db-replica` (StatefulSets), `n-db-read`
    (Service), `n-db-replication` (Secret) or `n-db-replica-autoscaler` (autoscaler) is a write
    of the autoscaler, made only for an enabled database with `database.autoscaling` set and
    replicas other than 0; and every other one of these objects is unchanged. -/
theorem ha_pass_writes_only_replica_autoscaler [QuantityParser] [GaleraReconciler]
    (hG : ∀ ms : MusicService,
      All (Req.WritesIn (outsidePrimaryReplica ms.name)) (GaleraReconciler.reconcileGalera ms) ∧
        All (Req.WritesIn (outsidePrimaryReplica ms.name))
          (GaleraReconciler.reconcileGaleraServices ms))
    (name : String) (ms : MusicService) (o : Oracle) (s : Store)
    (hs : s.musicServices name = some ms) (hha : databaseHAEnabled ms = true) :
    (∀ r ∈ ((reconcile name).run o s).trace, r.isWrite = true →
      ∀ key ∈ primaryReplicaKeys name, r.key? = some key →
        key = ⟨.autoscaler, name ++ "-db-replica-autoscaler"⟩ ∧
          databaseEnabled ms = true ∧ replicaAutoscalerManaged ms = true) ∧
    (∀ key ∈ primaryReplicaKeys name, key ≠ ⟨.autoscaler, name ++ "-db-replica-autoscaler"⟩ →
      ((reconcile name).run o s).store.lookup key.kind key.name = s.lookup key.kind key.name) := by
  let obj : MusicService := { ms with name := name }
  have writes : ∀ r ∈ ((reconcile name).run o s).trace, r.WritesIn (haRegion obj) :=
    (reconcile_wp (m := true) s trivial fun ms₀ h₀ => by
      cases hs.symm.trans h₀
      refine reconcileObject_all (fun _ _ => .inl (by simp [primaryReplicaKeys]))
        fun ms' hn hsp => reconcileLive_all (fun ms'' hn' hsp' st hst => ?_)
          fun r hr => haRegion_congr hn hsp ▸ hr.writesIn_haRegion
      rw [← haRegion_congr (hn'.trans hn) (hsp'.trans hsp)]
      exact haSteps_writesIn (by simpa [databaseHAEnabled, hsp'.trans hsp] using hha)
        (hG ms'') st hst).run o (.inl rfl)
  refine ⟨fun r hr hw key hkey hk => ?_, fun key hkey hne => ?_⟩
  · rcases (writes r hr).key hw hk with h | h
    · exact absurd hkey h
    · exact h
  · refine (run_agree _ o s writes).1 key.kind key.name fun h => ?_
    rcases h with h | h
    · exact h hkey
    · exact hne h.1

/-- A high-availability parent with two autoscaled database replicas. -/
def haAutoscaledSpec : MusicServiceSpec :=
  { sampleSpec with
    database := some
      { enabled := true, replicas := 2, storage := some { size := "5Gi" },
        autoscaling := some { minReplicas := 2, maxReplicas := 5, targetCPUUtilizationPercentage := 70 },
        highAvailability := some ⟨true⟩ } }

/-- In the failure-free pass for the high-availability parent `m` with two autoscaled replicas
    (Galera steps that send nothing), a primary/replica object written is the replica
    autoscaler. -/
theorem ha_sample_pass_writes :
    List.Forall (fun r => r.isWrite = true → ∀ key ∈ primaryReplicaKeys "m", r.key? = some key →
        key = ⟨.autoscaler, "m-db-replica-autoscaler"⟩ ∧
          databaseEnabled (sampleParent haAutoscaledSpec) = true ∧
          replicaAutoscalerManaged (sampleParent haAutoscaledSpec) = true)
      ((reconcile "m").run exactOracle (sampleStore haAutoscaledSpec none [])).trace :=
  List.forall_iff_forall_mem.mpr (ha_pass_writes_only_replica_autoscaler (fun _ => ⟨.pure _, .pure _⟩)
    "m" (sampleParent haAutoscaledSpec) exactOracle (sampleStore haAutoscaledSpec none []) rfl rfl).1

/-- A failure-free pass for a high-availability parent with two autoscaled replicas creates the
    autoscaler `m-db-replica-autoscaler`, aimed at the StatefulSet `m-db-replica`, which the pass
    does not create. -/
theorem ha_pass_creates_replica_autoscaler :
    (((reconcile "m").run exactOracle (sampleStore haAutoscaledSpec none [])).store.autoscalers
        "m-db-replica-autoscaler").map (·.spec.scaleTargetRef.name) = some "m-db-replica" ∧
      ((reconcile "m").run exactOracle (sampleStore haAutoscaledSpec none [])).store.statefulSets
        "m-db-replica" = none := by
  decide

/-! ## Dependency order -/

/-- A parent `m` with a database of one replica. -/
def databaseSpec : MusicServiceSpec :=
  { sampleSpec with database := some { enabled := true, replicas := 1, storage := some { size := "5Gi" } } }

/-- Eight requests into a failure-free pass from a namespace holding only the parent (its `Get`,
    the application Service, StatefulSet and autoscaler, then the master's `Get` and `Create`),
    the StatefulSet `m-db-master` exists and names the Service `m-db-master`, which does not. -/
theorem master_statefulSet_before_its_service :
    ((storeAfter 8 (reconcile "m") exactOracle (sampleStore databaseSpec none [])).statefulSets
        "m-db-master").map (·.spec.serviceName) = some "m-db-master" ∧
      (storeAfter 8 (reconcile "m") exactOracle (sampleStore databaseSpec none [])).services
        "m-db-master" = none := by
  decide

end MusicOperator
