import MusicOperator.Properties.Passes

/-!
  The lifecycle of the two autoscalers.

  1. After one exact pass from a store an API server can hold, the application autoscaler
     `n-autoscaler` exists exactly when `spec.autoscaling` is set, and the replica autoscaler
     `n-db-replica-autoscaler` exists when the database is enabled with autoscaling and replicas
     (`autoscalerSettled_isSome`, from the views `pass_approach` leaves).
  2. Only the application tier has a delete path (`deleteAutoscalerIfExists`). No answer removes an
     autoscaler but its own `Delete` (`Store.answer_autoscaler_isSome`), and no step of a pass
     sends a `Delete` of a replica autoscaler; so whatever fails and whatever the spec says, a
     pass never removes `n-db-replica-autoscaler` (`replicaAutoscaler_kept`).
-/

namespace MusicOperator

open Prog Builder Reconciler Controller

/-! ## No answer removes an autoscaler but its own `Delete` -/

theorem Store.answer_autoscaler_isSome (s : Store) (o : Oracle) {r : Req} {n : String}
    (hr : r ≠ .delete .autoscaler n) (h : (s.autoscalers n).isSome) :
    ((s.answer o r).2.autoscalers n).isSome := by
  have put : ∀ (k : Kind) (m : String) (x : Option k.Obj), (k = .autoscaler → m = n → x.isSome) →
      ((s.put k m x).autoscalers n).isSome := by
    intro k m x hx
    cases k <;> try exact h
    simp only [Store.put, Function.update_apply]
    split
    · rename_i hm
      exact hx rfl hm.symm
    · exact h
  cases r <;> simp only [Store.answer, Oracle.guard] <;> (try split) <;> try exact h
  · simp only [Store.create]; split
    exacts [h, put _ _ _ fun _ _ => rfl]
  · simp only [Store.update]; split
    exacts [put _ _ _ fun hk _ => by subst hk; rfl, h]
  · rename_i k m _
    simp only [Store.delete]; split
    · exact put _ _ _ fun hk hm => absurd (by subst hk hm; rfl) hr
    · exact h
  · simp only [Store.updateStatus]; split
    exacts [put .musicService _ _ nofun, h]
  · simp only [Store.updateClaim]; split <;> exact h
  · simp only [Store.deleteClaim]; split <;> exact h

theorem Req.Within.ne_delete {R : Region} {r : Req} {k : Kind} {n : String} (h : r.Within R)
    (hk : ¬R.keys ⟨k, n⟩) : r ≠ .delete k n := by
  rintro rfl
  exact hk h

/-! ## No pass removes a replica autoscaler -/

/-- The replica autoscaler `n-db-replica-autoscaler` present in `s` is present in `s'`. -/
def ReplicaAutoscalerKept (n : String) (s s' : Store) : Prop :=
  (s.autoscalers (n ++ "-db-replica-autoscaler")).isSome →
    (s'.autoscalers (n ++ "-db-replica-autoscaler")).isSome

section Kept

variable [QuantityParser] [GaleraReconciler] {m : Bool}
  (hG : ∀ ms : MusicService,
    All (fun r => ∀ n, r ≠ .delete .autoscaler n) (GaleraReconciler.reconcileGalera ms) ∧
      All (fun r => ∀ n, r ≠ .delete .autoscaler n) (GaleraReconciler.reconcileGaleraServices ms))
include hG

/-- No step of a pass sends the `Delete` of its parent's replica autoscaler. -/
theorem steps_not_delete_replicaAutoscaler (ms : MusicService) :
    ∀ st ∈ appSteps ms ++ databaseSteps ms,
      All (· ≠ .delete .autoscaler (ms.name ++ "-db-replica-autoscaler")) st.2 := by
  intro st hst
  rcases List.mem_append.mp hst with h | h
  · exact (appSteps_within ms st h).mono fun _ hr => hr.ne_delete (by simp [appRegion])
  obtain ⟨-, ⟨-, e | e⟩ | ⟨-, e | e | e⟩ | e⟩ := Controller.mem_databaseSteps h <;> rw [e]
  · exact (hG ms).1.mono fun _ h => h _
  · exact (hG ms).2.mono fun _ h => h _
  · exact (reconcileMaster_within ms).mono fun _ hr => hr.ne_delete (by simp [masterRegion])
  · exact (reconcileReplicas_within ms).mono fun _ hr => hr.ne_delete (by simp [replicaRegion])
  · exact (reconcileServices_within ms).mono fun _ hr =>
      hr.ne_delete (by simp [databaseServicesRegion])
  · exact DatabaseReconciler.reconcileAutoscaler_all nofun (fun _ _ => nofun) fun _ _ _ _ => nofun

/-- Every run of a pass for `n`, whatever fails, keeps `n-db-replica-autoscaler` present. -/
theorem replicaAutoscaler_kept (n : String) : Keeps m (ReplicaAutoscalerKept n) (reconcile n) :=
  have refl : ∀ s, ReplicaAutoscalerKept n s s := fun _ h => h
  have trans : ∀ {s₁ s₂ s₃}, ReplicaAutoscalerKept n s₁ s₂ → ReplicaAutoscalerKept n s₂ s₃ →
      ReplicaAutoscalerKept n s₁ s₃ := fun h₁ h₂ h => h₂ (h₁ h)
  reconcile_keeps refl trans (fun _ _ h hs =>
    (congrArg Option.isSome (h.1 .autoscaler _ (by simp [parentRegion]))).trans hs)
    fun ms hn st hst => by
      subst hn
      exact (steps_not_delete_replicaAutoscaler hG ms st hst).keeps_of refl trans
        fun _ s o hr => s.answer_autoscaler_isSome o hr

end Kept

/-! ## The application tier's autoscaler after a pass -/

/-- A settled application autoscaler exists exactly when `spec.autoscaling` is set. -/
theorem autoscalerSettled_isSome {ms : MusicService} {x : Option HorizontalPodAutoscaler}
    (h : AutoscalerSettled (buildAutoscaler ms) x) : x.isSome ↔ ms.spec.autoscaling.isSome := by
  unfold buildAutoscaler at h
  rcases ha : ms.spec.autoscaling with _ | a <;>
    simp only [ha, Option.map_none', Option.map_some', AutoscalerSettled] at h
  · simp [h]
  · obtain ⟨_, rfl, _⟩ := h
    simp

/-- A settled replica autoscaler exists when it is managed. -/
theorem ReplicaAutoscalerSettled.isSome [QuantityParser] {ms : MusicService}
    {x : Option HorizontalPodAutoscaler} (h : ReplicaAutoscalerSettled ms x)
    (hm : replicaAutoscalerManaged ms = true) : x.isSome := by
  obtain ⟨_, _, rfl, _⟩ := h hm
  rfl

/-- **The autoscaler lifecycle.** From a store an API server can hold (every live StatefulSet
    has a replica count, the claims have distinct names), one exact pass for a live parent whose
    database is not high-availability and whose descriptors build leaves the application
    autoscaler present exactly when `spec.autoscaling` is set, and the replica autoscaler present
    when the database is enabled with autoscaling and replicas. And no pass, whatever fails and
    whatever the spec, removes a replica autoscaler, given the Galera steps delete no autoscaler. -/
theorem autoscaler_lifecycle [QuantityParser] [GaleraReconciler]
    (hG : ∀ ms : MusicService,
      All (fun r => ∀ n, r ≠ .delete .autoscaler n) (GaleraReconciler.reconcileGalera ms) ∧
        All (fun r => ∀ n, r ≠ .delete .autoscaler n) (GaleraReconciler.reconcileGaleraServices ms)) :
    (∀ (ms : MusicService) (s : Store) (o : Oracle), ParentLive ms s →
      databaseHAEnabled ms = false → (buildAppStatefulSet ms).isSome →
      (databaseEnabled ms = true → (buildDatabaseConfig ms).isSome) →
      (∀ n x, s.statefulSets n = some x → x.spec.replicas.isSome) →
      (s.claims.map (·.name)).Nodup → (∀ i, o.fault i = none) →
        ((((reconcile ms.name).run o s).store.autoscalers (ms.name ++ "-autoscaler")).isSome ↔
          ms.spec.autoscaling.isSome) ∧
        (databaseEnabled ms = true → replicaAutoscalerManaged ms = true →
          (((reconcile ms.name).run o s).store.autoscalers
            (ms.name ++ "-db-replica-autoscaler")).isSome)) ∧
    ∀ (n : String) (o : Oracle) (s : Store), (s.autoscalers (n ++ "-db-replica-autoscaler")).isSome →
      (((reconcile n).run o s).store.autoscalers (n ++ "-db-replica-autoscaler")).isSome := by
  refine ⟨fun ms s o hs hha happ hdb hsts hclaims ho => ?_, fun n o s =>
    Wp.run (replicaAutoscaler_kept hG (m := true) n s) o (.inl rfl)⟩
  have near := (pass_approach (fun _ => hha) o ho hs (passTasks_fresh happ hdb hsts hclaims)).2
  refine ⟨autoscalerSettled_isSome (near (autoscalerTask ms) (by simp [passTasks, appTasks])),
    fun he hm => ?_⟩
  exact (near (replicaAutoscalerTask ms) (by simp [passTasks, databaseTasks, he])).isSome hm

/-- The parent `m` with a one-replica database scaled by an autoscaler. -/
def dbAutoscaledSpec : MusicServiceSpec :=
  { sampleSpec with
    database := some
      { enabled := true, replicas := 1, storage := some { size := "5Gi" },
        autoscaling := some { minReplicas := 1, maxReplicas := 3, targetCPUUtilizationPercentage := 70 } } }

/-- After one exact pass for `m` with `dbAutoscaledSpec`, the user removes the database's
    autoscaling. -/
def autoscalingDroppedStore : Store :=
  ((reconcile "m").run exactOracle (sampleStore dbAutoscaledSpec none [])).store.editSpec "m"
    databaseSpec

/-- The first pass for `m` creates both autoscalers as the spec asks, and the replica autoscaler
    survives the pass after its autoscaling is removed. -/
theorem sample_autoscaler_lifecycle :
    ((((reconcile (sampleParent dbAutoscaledSpec).name).run exactOracle
        (sampleStore dbAutoscaledSpec none [])).store.autoscalers
          ((sampleParent dbAutoscaledSpec).name ++ "-autoscaler")).isSome ↔
        (sampleParent dbAutoscaledSpec).spec.autoscaling.isSome) ∧
      (((reconcile (sampleParent dbAutoscaledSpec).name).run exactOracle
        (sampleStore dbAutoscaledSpec none [])).store.autoscalers
          ((sampleParent dbAutoscaledSpec).name ++ "-db-replica-autoscaler")).isSome ∧
      (((reconcile "m").run exactOracle autoscalingDroppedStore).store.autoscalers
        ("m" ++ "-db-replica-autoscaler")).isSome :=
  have first := (autoscaler_lifecycle fun _ => ⟨.pure _, .pure _⟩).1 (sampleParent dbAutoscaledSpec)
    (sampleStore dbAutoscaledSpec none []) exactOracle
    ⟨_, by simp [sampleStore, sampleParent], rfl, rfl⟩ (by decide) (by decide)
    (fun _ => by decide) (fun n x h => by simp [sampleStore] at h) (by simp [sampleStore])
    fun _ => rfl
  ⟨first.1, first.2 (by decide) (by decide),
    (autoscaler_lifecycle fun _ => ⟨.pure _, .pure _⟩).2 "m" exactOracle autoscalingDroppedStore
      (by decide)⟩

/-- The parent `m` with `databaseSpec`, and the replica autoscaler the pass for
    `dbAutoscaledSpec` creates, left over from before the user removed the database's
    autoscaling. -/
def leftoverAutoscalerStore : Store :=
  { sampleStore databaseSpec none [] with
    autoscalers := fun n =>
      if n = "m-db-replica-autoscaler" then buildDatabaseReplicaAutoscaler (sampleParent dbAutoscaledSpec)
      else none }

/-- The replica autoscaler a pass for `dbAutoscaledSpec` creates is no longer managed once the
    autoscaling is removed, yet the next pass returns without error and leaves it in place. -/
theorem replica_autoscaler_outlives_spec :
    ((reconcile "m").run exactOracle (sampleStore dbAutoscaledSpec none [])).store.autoscalers
        "m-db-replica-autoscaler" = leftoverAutoscalerStore.autoscalers "m-db-replica-autoscaler" ∧
      replicaAutoscalerManaged (sampleParent databaseSpec) = false ∧
      (((reconcile "m").run exactOracle leftoverAutoscalerStore).result.bind
        Except.toOption).isSome ∧
      (((reconcile "m").run exactOracle leftoverAutoscalerStore).store.autoscalers
        "m-db-replica-autoscaler").isSome := by
  decide

end MusicOperator
