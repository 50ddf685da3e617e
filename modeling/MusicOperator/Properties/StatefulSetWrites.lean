import MusicOperator.Properties.Requests

/-!
  What the three StatefulSet reconcilers write.

  `syncStatefulSet` creates the descriptor when the StatefulSet is absent; otherwise
  `syncExisting` handles a storage change and then, if `statefulSetNeedsUpdate` says so, writes
  the live object back with its WHOLE spec replaced by the descriptor's (`sts.Spec =
  desiredSts.Spec`). Consequences:

  * an `Update` rewrites every spec field the descriptor sets, `volumeClaimTemplates`,
    `selector` and `serviceName` included — not only the fields the diff compares
    (`statefulSet_update_replaces_spec`, `update_rewrites_claim_templates`);
  * every write of the application StatefulSet carries `spec.replicas`, and every write of the
    replica StatefulSet carries `database.replicas`, so a pass that writes an autoscaled
    StatefulSet resets the autoscaler's count (`pass_writes_descriptor_replicas`,
    `pass_resets_autoscaled_replicas`);
  * a StatefulSet found absent is created from the descriptor without a look at the claims, so
    claims left by an interrupted `Recreate` keep their old size
    (`syncStatefulSet_absent_requests`, `interrupted_recreate_keeps_old_claims`).
-/

namespace MusicOperator.Reconciler

open Prog Builder

/-! ## Updates replace the whole spec -/

section Updates

variable {m : Bool}

/-- Every `Update` of a StatefulSet that `syncStatefulSet name desired` sends writes the object
    stored under `name` when it started, with the descriptor's whole spec. -/
theorem syncStatefulSet_updates (name : String) (desired : Option StatefulSet) (st : StorageSpec)
    (c a : String) (s : Store) :
    Wp m (syncStatefulSet name desired st c a) (fun _ _ tr => ∀ x : StatefulSet,
      Req.update .statefulSet x ∈ tr → ∃ live d, s.get .statefulSet name = .ok live ∧
        desired = some d ∧ x = { live with spec := d.spec }) s := by
  simp only [syncStatefulSet, getObj, send, bind_eq, call_bind, pure_bind]
  refine Wp.get_of (fun e => ?_) fun live hl => ?_
  · dsimp only
    split
    · cases desired <;> simp [createObj, send]
    · simp
  have hg : s.get .statefulSet name = .ok (Kind.withName .statefulSet name live) := by
    simp only [Store.get, hl]
  cases desired with
  | none => simp
  | some d =>
    refine (All.wp (syncExisting_all (P := fun r => ∀ x : StatefulSet,
      r = .update .statefulSet x → x = { Kind.withName .statefulSet name live with spec := d.spec })
      (by simp) (by simp) (by simp) (by simp) (by rintro x ⟨⟩; rfl))).mono
      fun _ _ tr h x hx => ⟨_, d, hg, rfl, ?_⟩
    simp only [List.mem_cons, reduceCtorEq, false_or] at hx
    exact h _ hx x rfl

/-- The replication Secret step writes only the Secret `name-db-replication`. -/
theorem ensureReplicationSecret_writes (ms : MusicService) :
    All (Req.WritesIn ⟨fun k => k = ⟨.secret, ms.name ++ "-db-replication"⟩, fun _ => false⟩)
      (DatabaseReconciler.ensureReplicationSecret ms) :=
  DatabaseReconciler.ensureReplicationSecret_all trivial trivial fun x hx =>
    ⟨by simp [Req.WritesIn, ← hx], by simp [Req.WritesIn, ← hx]⟩

theorem reconcileReplicas_updates [QuantityParser] (ms : MusicService) (s : Store) :
    Wp m (DatabaseReconciler.reconcileReplicas ms) (fun _ _ tr => ∀ x : StatefulSet,
      Req.update .statefulSet x ∈ tr → ∃ live d,
        s.get .statefulSet (ms.name ++ "-db-replica") = .ok live ∧
        buildDatabaseReplicaStatefulSet ms = some d ∧ x = { live with spec := d.spec }) s := by
  unfold DatabaseReconciler.reconcileReplicas
  split
  · simp
  split
  · simp
  refine Wp.bind_of ((All.wp (ensureReplicationSecret_writes ms)).and
    (All.wp_agree (ensureReplicationSecret_writes ms))) (fun r s' tr ⟨htr, hag⟩ => ?_)
    fun s' tr ⟨htr, _⟩ x hx => by simpa [Req.WritesIn] using htr _ hx
  have hno : ∀ x : StatefulSet, Req.update .statefulSet x ∉ tr := fun x hx => by
    simpa [Req.WritesIn] using htr _ hx
  rcases r with e | _
  · exact fun x hx => absurd (by simpa using hx) (hno x)
  refine (syncStatefulSet_updates _ _ _ _ _ s').mono fun _ _ tr' h x hx => ?_
  rcases List.mem_append.mp hx with hx | hx
  · exact absurd hx (hno x)
  · rw [← hag.get (by simp)]
    exact h x hx

end Updates

/-- **Updates replace the whole spec.** Every `Update` of a StatefulSet that
    `ReconcileStatefulSet`, `ReconcileMaster` or `ReconcileReplicas` sends, in any run, is the
    StatefulSet stored under the tier's name when the step began, with the descriptor's whole
    spec: whatever the descriptor says for `volumeClaimTemplates`, `selector` or `serviceName`
    is written too. -/
theorem statefulSet_update_replaces_spec [QuantityParser] (ms : MusicService) (o : Oracle)
    (s : Store) (x : StatefulSet) :
    (Req.update .statefulSet x ∈ ((AppReconciler.reconcileStatefulSet ms).run o s).trace →
      ∃ live d, s.get .statefulSet ms.name = .ok live ∧ buildAppStatefulSet ms = some d ∧
        x = { live with spec := d.spec }) ∧
    (Req.update .statefulSet x ∈ ((DatabaseReconciler.reconcileMaster ms).run o s).trace →
      ∃ live d, s.get .statefulSet (ms.name ++ "-db-master") = .ok live ∧
        buildDatabaseMasterStatefulSet ms = some d ∧ x = { live with spec := d.spec }) ∧
    (Req.update .statefulSet x ∈ ((DatabaseReconciler.reconcileReplicas ms).run o s).trace →
      ∃ live d, s.get .statefulSet (ms.name ++ "-db-replica") = .ok live ∧
        buildDatabaseReplicaStatefulSet ms = some d ∧ x = { live with spec := d.spec }) :=
  ⟨(syncStatefulSet_updates (m := true) _ _ _ _ _ s).run o (.inl rfl) x,
    (syncStatefulSet_updates (m := true) _ _ _ _ _ s).run o (.inl rfl) x,
    (reconcileReplicas_updates (m := true) ms s).run o (.inl rfl) x⟩

/-! ## Replica counts -/

/-- What a pass for the parent `name` with spec `spec` may write as a StatefulSet: the
    application StatefulSet with `spec.replicas` replicas, the replica StatefulSet with
    `database.replicas`. -/
def ReplicasKept (name : String) (spec : MusicServiceSpec) (x : StatefulSet) : Prop :=
  (x.metadata.name = name → x.spec.replicas = some spec.replicas) ∧
    ∀ db, spec.database = some db → x.metadata.name = name ++ "-db-replica" →
      x.spec.replicas = some db.replicas

section Replicas

open Req (writesStatefulSets_of_none writesStatefulSets_create writesStatefulSets_update)

variable {ms : MusicService} {x d : StatefulSet}

theorem replicasKept_app [QuantityParser] (h : buildAppStatefulSet ms = some d) (hx : x.metadata.name = ms.name)
    (hs : x.spec.replicas = d.spec.replicas) : ReplicasKept ms.name ms.spec x :=
  ⟨fun _ => hs.trans (buildAppStatefulSet_some h).2,
    fun _ _ hn => absurd (hx.symm.trans hn) (by simp)⟩

theorem replicasKept_master (hx : x.metadata.name = ms.name ++ "-db-master") :
    ReplicasKept ms.name ms.spec x :=
  ⟨fun hn => absurd (hn.symm.trans hx) (by simp),
    fun _ _ hn => absurd (hx.symm.trans hn) (by simp)⟩

theorem replicasKept_replica [QuantityParser] (h : buildDatabaseReplicaStatefulSet ms = some d)
    (hx : x.metadata.name = ms.name ++ "-db-replica") (hs : x.spec.replicas = d.spec.replicas) :
    ReplicasKept ms.name ms.spec x :=
  ⟨fun hn => absurd (hn.symm.trans hx) (by simp),
    fun db hdb _ => hs.trans ((buildDatabaseReplicaStatefulSet_some h).2 db hdb)⟩

/-- A StatefulSet step writes a StatefulSet only by its `Create` of the descriptor and its
    `Update` of the live object with the descriptor's spec. -/
theorem syncStatefulSet_writesStatefulSets {Q : StatefulSet → Prop} {name : String}
    {desired : Option StatefulSet} {st : StorageSpec} {c a : String}
    (hc : ∀ d, desired = some d → Q d)
    (hu : ∀ live d : StatefulSet, live.metadata.name = name → desired = some d →
      Q { live with spec := d.spec }) :
    All (Req.WritesStatefulSets Q) (syncStatefulSet name desired st c a) :=
  syncStatefulSet_all (writesStatefulSets_of_none rfl)
    (fun d hd => writesStatefulSets_create (hc d hd))
    fun live d hl hd => syncExisting_all (writesStatefulSets_of_none rfl)
      (writesStatefulSets_of_none rfl) (fun _ _ => writesStatefulSets_of_none rfl)
      (fun _ _ => writesStatefulSets_of_none rfl) (writesStatefulSets_update (hu live d hl hd))

theorem appSteps_keepReplicas [QuantityParser] (ms : MusicService) :
    ∀ st ∈ Controller.appSteps ms,
      All (Req.WritesStatefulSets (ReplicasKept ms.name ms.spec)) st.2 := by
  intro st hst
  simp only [Controller.appSteps, List.mem_cons, List.mem_singleton, List.not_mem_nil,
    or_false] at hst
  rcases hst with rfl | rfl | rfl
  · exact AppReconciler.reconcileService_all (writesStatefulSets_of_none rfl)
      (writesStatefulSets_of_none rfl)
  · exact syncStatefulSet_writesStatefulSets
      (fun d hd => replicasKept_app hd (buildAppStatefulSet_some hd).1 rfl)
      fun _ _ hl hd => replicasKept_app hd hl rfl
  · exact AppReconciler.reconcileAutoscaler_all (writesStatefulSets_of_none rfl)
      (fun _ _ => writesStatefulSets_of_none rfl) (fun _ _ _ _ => writesStatefulSets_of_none rfl)
      (writesStatefulSets_of_none rfl)

theorem databaseSteps_keepReplicas [QuantityParser] [GaleraReconciler] (ms : MusicService)
    (hG : All (Req.WritesStatefulSets fun x =>
        x.metadata.name ≠ ms.name ∧ x.metadata.name ≠ ms.name ++ "-db-replica")
          (GaleraReconciler.reconcileGalera ms) ∧
      All (Req.WritesStatefulSets fun x =>
        x.metadata.name ≠ ms.name ∧ x.metadata.name ≠ ms.name ++ "-db-replica")
          (GaleraReconciler.reconcileGaleraServices ms)) :
    ∀ st ∈ Controller.databaseSteps ms,
      All (Req.WritesStatefulSets (ReplicasKept ms.name ms.spec)) st.2 := by
  have galera : ∀ r, (Req.WritesStatefulSets fun x =>
      x.metadata.name ≠ ms.name ∧ x.metadata.name ≠ ms.name ++ "-db-replica") r →
      r.WritesStatefulSets (ReplicasKept ms.name ms.spec) := fun r hr x hx =>
    ⟨fun hn => absurd hn (hr x hx).1, fun _ _ hn => absurd hn (hr x hx).2⟩
  intro st hst
  obtain ⟨-, ⟨-, e | e⟩ | ⟨-, e | e | e⟩ | e⟩ := Controller.mem_databaseSteps hst <;> rw [e]
  · exact hG.1.mono galera
  · exact hG.2.mono galera
  · exact syncStatefulSet_writesStatefulSets
      (fun _ hd => replicasKept_master (buildDatabaseMasterStatefulSet_some hd))
      fun _ _ hl _ => replicasKept_master hl
  · exact DatabaseReconciler.reconcileReplicas_all
      (DatabaseReconciler.ensureReplicationSecret_all (writesStatefulSets_of_none rfl)
        (writesStatefulSets_of_none rfl)
        fun _ _ => ⟨writesStatefulSets_of_none rfl, writesStatefulSets_of_none rfl⟩)
      (syncStatefulSet_writesStatefulSets
        (fun _ hd => replicasKept_replica hd (buildDatabaseReplicaStatefulSet_some hd).1 rfl)
        fun _ _ hl hd => replicasKept_replica hd hl rfl)
  · exact DatabaseReconciler.reconcileServices_all (writesStatefulSets_of_none rfl)
      (writesStatefulSets_of_none rfl)
      (DatabaseReconciler.reconcileReadService_all (writesStatefulSets_of_none rfl)
        (writesStatefulSets_of_none rfl))
  · exact DatabaseReconciler.reconcileAutoscaler_all (writesStatefulSets_of_none rfl)
      (fun _ _ => writesStatefulSets_of_none rfl) (fun _ _ _ _ => writesStatefulSets_of_none rfl)

end Replicas

/-- **Replica counts.** Provided the Galera steps write neither the application nor the replica
    StatefulSet, every StatefulSet a pass writes, in any run from any store, carries the replica
    count of the stored spec: `spec.replicas` for the application StatefulSet,
    `database.replicas` for the replica StatefulSet. And the application step does write it
    whenever the live count differs and no storage change is pending: a count an autoscaler has
    set is overwritten. -/
theorem pass_writes_descriptor_replicas [QuantityParser] [GaleraReconciler]
    (hG : ∀ ms : MusicService,
      All (Req.WritesStatefulSets fun x =>
          x.metadata.name ≠ ms.name ∧ x.metadata.name ≠ ms.name ++ "-db-replica")
        (GaleraReconciler.reconcileGalera ms) ∧
      All (Req.WritesStatefulSets fun x =>
          x.metadata.name ≠ ms.name ∧ x.metadata.name ≠ ms.name ++ "-db-replica")
        (GaleraReconciler.reconcileGaleraServices ms)) :
    (∀ (name : String) (ms : MusicService) (o : Oracle) (s : Store),
      s.musicServices name = some ms →
      ∀ r ∈ ((Controller.reconcile name).run o s).trace,
        r.WritesStatefulSets (ReplicasKept name ms.spec)) ∧
    (∀ (ms : MusicService) (o : Oracle) (s : Store) (live d : StatefulSet) (c : Int),
      o.fault 0 = none → s.get .statefulSet ms.name = .ok live →
      buildAppStatefulSet ms = some d → live.spec.replicas = some c → c ≠ ms.spec.replicas →
      storageSizeChanged live d = false →
      ((AppReconciler.reconcileStatefulSet ms).run o s).trace =
        [.get .statefulSet ms.name, .update .statefulSet { live with spec := d.spec }]) := by
  refine ⟨fun name ms o s hs => (Controller.reconcile_wp (m := true) s
    (Req.writesStatefulSets_of_none rfl) fun ms0 h0 => ?_).run o (.inl rfl), ?_⟩
  · cases hs.symm.trans h0
    refine Controller.reconcileObject_all (fun _ _ => Req.writesStatefulSets_of_none rfl)
      fun ms' hn hsp => Controller.reconcileLive_all (fun ms'' hn' hsp' st hst => ?_)
        fun r hr => Req.writesStatefulSets_of_none (by cases r <;> first | rfl | exact hr.elim)
    have key := (List.mem_append.mp hst).elim (appSteps_keepReplicas ms'' st)
      (databaseSteps_keepReplicas ms'' (hG ms'') st)
    rwa [hn', hsp', hn, hsp] at key
  · intro ms o s live d c hf hl hd hc hne hsz
    have hneed : statefulSetNeedsUpdate live d = some true := by
      simp [statefulSetNeedsUpdate, hc, (buildAppStatefulSet_some hd).2, hne]
    simp [AppReconciler.reconcileStatefulSet, syncStatefulSet, syncExisting, getObj, send,
      run_call, Store.answer, Oracle.guard, hf, hl, hd, hsz, updateStatefulSetIfNeeded, hneed,
      updateObj]

/-! ## Concrete runs

The runs below use the reference parser (`binaryQuantityParser`) and the Galera implementation
that sends nothing (`idleGalera`). -/

/-- The parent spec of the concrete runs: three replicas of `img` on `10Gi`. -/
def sampleSpec : MusicServiceSpec :=
  { replicas := 3, image := "img", port := 8080, storage := { size := "10Gi" },
    streaming := { bitrate := "128k", maxConnections := 100 } }

/-- The object `m` with spec `spec`, carrying the finalizer. -/
def sampleParent (spec : MusicServiceSpec) : MusicService :=
  { name := "m", finalizers := [Controller.musicServiceFinalizerName], spec := spec }

/-- A namespace holding the parent `m` with spec `spec`, the StatefulSet `m` built for the spec
    `built`, if any, and the claims `claims`. -/
def sampleStore (spec : MusicServiceSpec) (built : Option MusicServiceSpec)
    (claims : List PersistentVolumeClaim) : Store :=
  { Store.empty with
    musicServices := fun n => if n = "m" then some (sampleParent spec) else none
    statefulSets := fun n =>
      if n = "m" then built.bind fun b => buildAppStatefulSet (sampleParent b) else none
    claims := claims }

/-- The store that never fails, at time `0`. -/
def exactOracle : Oracle := Oracle.exact (fun _ => 0) fun _ => "pw"

/-- The store that fails request `i` of a run, and no other. -/
def failingAt (i : Nat) : Oracle :=
  ⟨fun j => if j = i then some (.failure "timeout") else none, fun _ => 0, fun _ => "pw"⟩

/-- Growing the storage from `10Gi` to `20Gi` (default policy `Resize`) with an image change:
    the `Update` writes the `20Gi` claim template over the live `10Gi` one. -/
theorem update_rewrites_claim_templates :
    let ms := sampleParent { sampleSpec with image := "img2", storage := { size := "20Gi" } }
    let s := sampleStore ms.spec (some sampleSpec) []
    (((AppReconciler.reconcileStatefulSet ms).run exactOracle s).trace.filterMap
        Req.writtenStatefulSet?).map (·.spec.volumeClaimTemplates.map (·.storage)) =
      [[some (20 * 2 ^ 30)]] ∧
    (s.statefulSets "m").map (·.spec.volumeClaimTemplates.map (·.storage)) =
      some [some (10 * 2 ^ 30)] := by
  decide

/-- The pass writes the sample StatefulSet only with the sample spec's replica count, the Galera
    hypothesis discharged by the Galera implementation that sends nothing. -/
theorem sample_pass_keeps_replicas :
    List.Forall (fun r => r.WritesStatefulSets (ReplicasKept "m" sampleSpec))
      ((Controller.reconcile "m").run exactOracle (sampleStore sampleSpec none [])).trace :=
  List.forall_iff_forall_mem.mpr <| (pass_writes_descriptor_replicas fun _ => ⟨.pure _, .pure _⟩).1
    "m" (sampleParent sampleSpec) exactOracle _ rfl

/-- An autoscaled parent whose StatefulSet the autoscaler has scaled from 3 to 5 replicas: the
    next pass writes it back with 3. -/
theorem pass_resets_autoscaled_replicas :
    let spec := { sampleSpec with
      autoscaling := some { minReplicas := 2, maxReplicas := 10, targetCPUUtilizationPercentage := 70 } }
    let s := { sampleStore spec none [] with
      statefulSets := fun n => if n = "m" then
        (buildAppStatefulSet (sampleParent spec)).map fun x => { x with spec.replicas := some 5 }
        else none }
    (((Controller.reconcile "m").run exactOracle s).trace.filterMap Req.writtenStatefulSet?).map
      (·.spec.replicas) = [some 3] := by
  decide

/-! ## Creation ignores the claims -/

/-- A StatefulSet found absent is created from the descriptor: `syncStatefulSet` then sends only
    its `Get` and the `Create`, and looks at no claim. -/
theorem syncStatefulSet_absent_requests {m : Bool} (name : String) (desired : Option StatefulSet)
    (st : StorageSpec) (c a : String) (s : Store) (h : s.lookup .statefulSet name = none) :
    Wp m (syncStatefulSet name desired st c a) (fun _ _ tr => ∀ r ∈ tr,
      r = .get .statefulSet name ∨ ∃ d, desired = some d ∧ r = .create .statefulSet d) s := by
  simp only [syncStatefulSet, getObj, send, bind_eq, call_bind, pure_bind]
  refine Wp.get_of (fun e => ?_) fun x hx => nomatch h.symm.trans hx
  dsimp only
  split
  · cases desired <;> simp [createObj, send]
  · simp

/-- The spec of the interrupted run: `20Gi` under the `Recreate` policy. -/
def recreateSpec : MusicServiceSpec :=
  { sampleSpec with storage := { size := "20Gi", updatePolicy := "Recreate" } }

/-- The store before the interrupted run: `m` with `recreateSpec`, its StatefulSet as built at
    `10Gi`, and the claim of pod 0 at `10Gi`. -/
def interruptedStore : Store :=
  sampleStore recreateSpec (some sampleSpec) [⟨"music-data-m-0", some (10 * 2 ^ 30), "Bound"⟩]

/-- A `Recreate` from `10Gi` to `20Gi` whose claim `Delete` (request 6 of the pass) fails: the
    pass records the error and returns `nil`; the next pass finds no StatefulSet, creates it at
    `20Gi` and returns `nil`, and the claim `music-data-m-0` keeps its `10Gi`. -/
theorem interrupted_recreate_keeps_old_claims :
    ((Controller.reconcile "m").run (failingAt 6) interruptedStore).result.map Except.toBool =
        some true ∧
      ((Controller.reconcile "m").run exactOracle
          ((Controller.reconcile "m").run (failingAt 6) interruptedStore).store).result.map
            Except.toBool = some true ∧
      (((Controller.reconcile "m").run exactOracle
          ((Controller.reconcile "m").run (failingAt 6) interruptedStore).store).store.statefulSets
            "m").map storageRequestFromStatefulSet = some (some (20 * 2 ^ 30)) ∧
      ((Controller.reconcile "m").run exactOracle
          ((Controller.reconcile "m").run (failingAt 6) interruptedStore).store).store.claims.map
            (·.storage) = [some (10 * 2 ^ 30)] := by
  decide

end MusicOperator.Reconciler
