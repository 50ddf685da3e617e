import MusicOperator.Properties.Convergence
import MusicOperator.Properties.Topology

/-!
  Repeated passes against the exact store.

  1. **Agreement** — what "a child agrees with its descriptor" means, stated on the objects:
     a StatefulSet on its replica count, init containers, volumes and, container by container,
     image, resources, env, volume mounts, ports and probes (`StatefulSetAgrees`); an autoscaler
     on its bounds and metric targets (`AutoscalerAgrees`). The code's diffs finding nothing to
     update imply them (`statefulSetAgrees_of_needsUpdate`, `autoscalerAgrees_of_needsUpdate`).
  2. **Children** — `ChildrenAgree ms s`: every child the spec calls for exists, and the
     StatefulSets and autoscalers agree with their descriptors. It follows from every step's
     view being settled (`childrenAgree_of_settled`).
  3. **Runs** — `runPasses name os s`, one pass per oracle. From a store holding the parent, the
     first pass takes every view from fresh to near, the second from near to settled, and every
     later one keeps it settled and writes the parent only (`passes_converge`).
  4. Services are only ever created: a stale Service port survives every pass
     (`service_port_never_updated`).
-/

namespace MusicOperator

open Prog Builder Reconciler Controller

/-! ## Agreement with a descriptor -/

/-- A live container agrees with a desired one on the fields the diff compares. -/
def ContainerAgrees (c d : Container) : Prop :=
  c.image = d.image ∧ c.resources = d.resources ∧ c.env = d.env ∧
    c.volumeMounts = d.volumeMounts ∧ c.ports = d.ports ∧ c.readinessProbe = d.readinessProbe ∧
    c.livenessProbe = d.livenessProbe

/-- A live StatefulSet agrees with its descriptor on the replica count, the init containers and
    volumes, and container by container on the diffed fields. -/
def StatefulSetAgrees (live d : StatefulSet) : Prop :=
  live.spec.replicas = d.spec.replicas ∧
    live.spec.template.spec.initContainers = d.spec.template.spec.initContainers ∧
    live.spec.template.spec.volumes = d.spec.template.spec.volumes ∧
    List.Forall₂ ContainerAgrees live.spec.template.spec.containers
      d.spec.template.spec.containers

/-- A live metric agrees with a desired one on what the diff compares: the type, the resource's
    name and its target utilisation. -/
def MetricAgrees (m d : MetricSpec) : Prop :=
  m.type = d.type ∧ m.resource.map (·.name) = d.resource.map (·.name) ∧
    m.resource.map (·.target.averageUtilization) = d.resource.map (·.target.averageUtilization)

/-- A live autoscaler agrees with its descriptor on its bounds and metric targets. -/
def AutoscalerAgrees (h d : HorizontalPodAutoscaler) : Prop :=
  h.spec.minReplicas = d.spec.minReplicas ∧ h.spec.maxReplicas = d.spec.maxReplicas ∧
    List.Forall₂ MetricAgrees h.spec.metrics d.spec.metrics

/-- A metric on a resource with a target utilisation, as the builders make them. -/
def MetricFull (d : MetricSpec) : Prop :=
  ∃ r u, d.resource = some r ∧ r.target.averageUtilization = some u

theorem containerAgrees_of_needsUpdate {c d : Container} (h : containerNeedsUpdate c d = false) :
    ContainerAgrees c d := by
  simpa only [containerNeedsUpdate, Bool.or_eq_false_iff, bne_eq_false_iff_eq, and_assoc] using h

theorem statefulSetAgrees_of_needsUpdate [QuantityParser] {live d : StatefulSet}
    (h : statefulSetNeedsUpdate live d = some false) : StatefulSetAgrees live d := by
  unfold statefulSetNeedsUpdate at h
  split at h
  · rename_i cur des hc hd
    simp only [Option.some.injEq, Bool.or_eq_false_iff, bne_eq_false_iff_eq, List.any_eq_false,
      Bool.not_eq_true] at h
    obtain ⟨⟨⟨⟨rfl, hi⟩, hv⟩, hl⟩, ha⟩ := h
    exact ⟨hc.trans hd.symm, hi, hv,
      List.forall₂_iff_zip.mpr ⟨hl, fun {a b} hm => containerAgrees_of_needsUpdate (ha (a, b) hm)⟩⟩
  · cases h

/-- The metric diff finds nothing against full metrics of the same number only on agreement. -/
theorem metricsAgree_of_needUpdate :
    ∀ {l ds : List MetricSpec}, l.length = ds.length → (∀ d ∈ ds, MetricFull d) →
      metricsNeedUpdate (l.zip ds) = false → List.Forall₂ MetricAgrees l ds
  | [], [], _, _, _ => .nil
  | m :: l, d :: ds, hl, hf, h => by
    obtain ⟨r, u, hr, hu⟩ := hf d (List.mem_cons_self _ _)
    rcases hm : m.resource with _ | r'
    · simp only [List.zip_cons_cons, metricsNeedUpdate, hr, hm] at h
      split_ifs at h
    rcases ha : r'.target.averageUtilization with _ | a
    · simp only [List.zip_cons_cons, metricsNeedUpdate, hr, hm, hu, ha] at h
      split_ifs at h
    simp only [List.zip_cons_cons, metricsNeedUpdate, hr, hm, hu, ha] at h
    split_ifs at h with h₁ h₂ h₃
    simp only [bne_iff_ne, ne_eq, not_not] at h₁ h₂ h₃
    exact .cons ⟨h₁, by simp [hm, hr, h₂], by simp [hm, hr, ha, hu, h₃]⟩
      (metricsAgree_of_needUpdate (Nat.succ.inj hl) (fun d hd => hf d (List.mem_cons_of_mem _ hd)) h)

theorem autoscalerAgrees_of_needsUpdate {x d : HorizontalPodAutoscaler}
    (hmin : d.spec.minReplicas.isSome) (hf : ∀ m ∈ d.spec.metrics, MetricFull m)
    (h : autoscalerNeedsUpdate x d = false) : AutoscalerAgrees x d := by
  obtain ⟨b, hb⟩ := Option.isSome_iff_exists.mp hmin
  unfold autoscalerNeedsUpdate at h
  rcases hx : x.spec.minReplicas with _ | a
  · simp only [hx, hb] at h
    split_ifs at h
  simp only [hx, hb] at h
  split_ifs at h with h₁ h₂ h₃
  simp only [bne_iff_ne, ne_eq, not_not] at h₁ h₂ h₃
  exact ⟨by rw [hx, hb, h₂], h₁, metricsAgree_of_needUpdate h₃ hf h⟩

/-- The builders' autoscalers set `minReplicas` and only full metrics. -/
theorem autoscalerFor_full (ms : MusicService) (n c t : String) (a : AutoscalingSpec) :
    (autoscalerFor ms n c t a).spec.minReplicas.isSome ∧
      ∀ m ∈ (autoscalerFor ms n c t a).spec.metrics, MetricFull m := by
  refine ⟨rfl, fun m hm => ?_⟩
  simp only [autoscalerFor, autoscalerMetrics, List.mem_cons] at hm
  rcases hm with rfl | hm
  · exact ⟨_, _, rfl, rfl⟩
  · split at hm <;> simp only [List.mem_singleton, List.not_mem_nil] at hm
    exact hm ▸ ⟨_, _, rfl, rfl⟩

/-! ## The children of a parent -/

/-- The descriptor built and the live object present and agreeing with it. -/
def StatefulSetAgreesWith (desired live? : Option StatefulSet) : Prop :=
  ∃ d live, desired = some d ∧ live? = some live ∧ StatefulSetAgrees live d

/-- No autoscaler when none is desired, else one agreeing with the descriptor. -/
def AutoscalerAgreesWith : Option HorizontalPodAutoscaler → Option HorizontalPodAutoscaler → Prop
  | none, x => x = none
  | some d, x => ∃ h, x = some h ∧ AutoscalerAgrees h d

theorem autoscalerSettled_agrees {ms : MusicService} {x : Option HorizontalPodAutoscaler}
    (h : AutoscalerSettled (buildAutoscaler ms) x) :
    AutoscalerAgreesWith (buildAutoscaler ms) x := by
  unfold buildAutoscaler at h ⊢
  rcases ha : ms.spec.autoscaling with _ | a <;> simp only [ha, Option.map_none',
    Option.map_some'] at h ⊢
  · exact h
  · obtain ⟨x, rfl, hu⟩ := h
    exact ⟨x, rfl, autoscalerAgrees_of_needsUpdate (autoscalerFor_full ..).1
      (autoscalerFor_full ..).2 hu⟩

section Children

variable [QuantityParser]

/-- Every child the spec of `ms` calls for exists in `s`, and the StatefulSets and autoscalers
    agree with their descriptors: the application Service, StatefulSet and autoscaler; for an
    enabled database the master StatefulSet and Service and, with replicas, the replica
    StatefulSet, the read Service, the replication Secret (replication on) and the replica
    autoscaler (autoscaling set). -/
structure ChildrenAgree (ms : MusicService) (s : Store) : Prop where
  appService : (s.services ms.name).isSome
  appStatefulSet : StatefulSetAgreesWith (buildAppStatefulSet ms) (s.statefulSets ms.name)
  appAutoscaler :
    AutoscalerAgreesWith (buildAutoscaler ms) (s.autoscalers (ms.name ++ "-autoscaler"))
  masterStatefulSet : databaseEnabled ms = true → StatefulSetAgreesWith
    (buildDatabaseMasterStatefulSet ms) (s.statefulSets (ms.name ++ "-db-master"))
  masterService : databaseEnabled ms = true → (s.services (ms.name ++ "-db-master")).isSome
  replicaStatefulSet : databaseEnabled ms = true → ms.spec.database.map (·.replicas) ≠ some 0 →
    StatefulSetAgreesWith (buildDatabaseReplicaStatefulSet ms)
      (s.statefulSets (ms.name ++ "-db-replica"))
  replicationSecret : databaseEnabled ms = true → ms.spec.database.map (·.replicas) ≠ some 0 →
    replicationEnabled ms = true → SecretReady (s.secrets (ms.name ++ "-db-replication"))
  readService : databaseEnabled ms = true → ∀ db, ms.spec.database = some db → db.replicas > 0 →
    (s.services (ms.name ++ "-db-read")).isSome
  replicaAutoscaler : databaseEnabled ms = true → replicaAutoscalerManaged ms = true →
    ∃ h d, s.autoscalers (ms.name ++ "-db-replica-autoscaler") = some h ∧
      buildDatabaseReplicaAutoscaler ms = some d ∧ h.spec = d.spec

variable {ms : MusicService} {s : Store}

theorem statefulSetSettled_agrees {desired live? : Option StatefulSet} {storage : StorageSpec}
    {claims : List PersistentVolumeClaim} (h : StatefulSetSettled desired storage live? claims) :
    StatefulSetAgreesWith desired live? :=
  let ⟨d, live, hd, hl, hu, _⟩ := h
  ⟨d, live, hd, hl, statefulSetAgrees_of_needsUpdate hu⟩

/-- **Settled views mean agreeing children.** -/
theorem childrenAgree_of_settled (h : ∀ t ∈ passTasks ms, t.settled (t.view s)) :
    ChildrenAgree ms s := by
  have app : ∀ t ∈ appTasks ms, t.settled (t.view s) := fun t ht => h t (List.mem_append_left _ ht)
  have db : databaseEnabled ms = true → ∀ t ∈ databaseTasks ms, t.settled (t.view s) :=
    fun _ t ht => h t (List.mem_append_right _ ht)
  simp only [databaseTasks, appTasks, List.mem_cons, List.mem_singleton, List.not_mem_nil,
    or_false, forall_eq_or_imp, forall_eq] at app db
  refine ⟨app.1, statefulSetSettled_agrees app.2.1, autoscalerSettled_agrees app.2.2,
    fun he => ?_, fun he => ?_, fun he h0 => ?_, fun he h0 hre => ?_, fun he => ?_, fun he => ?_⟩
  all_goals obtain ⟨hm, hr, hsv, ha⟩ := by simpa only [he, ↓reduceIte, List.mem_cons,
    List.mem_singleton, List.not_mem_nil, or_false, forall_eq_or_imp, forall_eq] using db he
  · exact statefulSetSettled_agrees hm
  · exact hsv.1
  · exact statefulSetSettled_agrees (hr.resolve_left h0).2
  · exact (hr.resolve_left h0).1 hre
  · exact hsv.2
  · exact ha

end Children

/-! ## Runs of passes -/

/-- The store after one pass for `name` per oracle, in order. -/
def runPasses [QuantityParser] [GaleraReconciler] (name : String) : List Oracle → Store → Store
  | [], s => s
  | o :: os, s => runPasses name os ((reconcile name).run o s).store

/-- A user's edit of the spec of the parent `n`; the API server bumps its generation. -/
def Store.editSpec (s : Store) (n : String) (spec : MusicServiceSpec) : Store :=
  { s with
    musicServices := Function.update s.musicServices n
      ((s.musicServices n).map fun x => { x with generation := x.generation + 1, spec := spec }) }

theorem ParentReady.live {ms : MusicService} {s : Store} (h : ParentReady ms s) :
    ParentLive ms s :=
  let ⟨x, hx, hsp, hdel, _⟩ := h
  ⟨x, hx, hsp, hdel⟩

section Runs

variable [QuantityParser] {ms : MusicService} {s : Store}

/-- At the start of a run every view is fresh: the descriptors build, every live StatefulSet has
    a replica count, and the claims have distinct names. -/
theorem passTasks_fresh (happ : (buildAppStatefulSet ms).isSome)
    (hdb : databaseEnabled ms = true → (buildDatabaseConfig ms).isSome)
    (hsts : ∀ n x, s.statefulSets n = some x → x.spec.replicas.isSome)
    (hclaims : (s.claims.map (·.name)).Nodup) : ∀ t ∈ passTasks ms, t.fresh (t.view s) := by
  have fresh : ∀ {desired : Option StatefulSet} (n pfx : String), desired.isSome →
      StatefulSetFresh desired (s.statefulSets n) (prefixClaims s pfx) := fun n _ hd =>
    ⟨hd, hsts n, hclaims.sublist ((List.filter_sublist _).map _)⟩
  intro t ht
  simp only [passTasks, appTasks, databaseTasks, List.mem_append, List.mem_cons,
    List.mem_singleton, List.not_mem_nil, or_false] at ht
  rcases ht with (rfl | rfl | rfl) | ht
  · trivial
  · exact fresh _ _ happ
  · trivial
  split at ht
  · have hb := buildDatabaseStatefulSets_isSome ms
    simp only [List.mem_cons, List.mem_singleton, List.not_mem_nil, or_false] at ht
    rcases ht with rfl | rfl | rfl | rfl
    · exact fresh _ _ (hb.1.trans (hdb ‹_›))
    · exact .inr ⟨trivial, fresh _ _ (hb.2.trans (hdb ‹_›))⟩
    all_goals trivial
  · simp at ht

variable [GaleraReconciler] (hha : databaseEnabled ms = true → databaseHAEnabled ms = false)
include hha

/-- A pass from a fresh store leaves every view near. -/
theorem pass_approach (o : Oracle) (ho : ∀ i, o.fault i = none) (hs : ParentLive ms s)
    (hf : ∀ t ∈ passTasks ms, t.fresh (t.view s)) :
    ParentReady ms ((reconcile ms.name).run o s).store ∧
      ∀ t ∈ passTasks ms, t.near (t.view ((reconcile ms.name).run o s).store) :=
  have h := (reconcile_advance (W := fun _ => True) hha (fun t ht s h =>
    ((passTasks_converge ms t ht).approach s h).mono fun _ _ _ ⟨h₁, h₂⟩ =>
      ⟨h₁, h₂, fun _ _ => trivial⟩) (fun _ _ => trivial) s hs hf).run o (.inr ho)
  ⟨h.1, h.2.1⟩

/-- A pass from a near store leaves every view settled. -/
theorem pass_arrive (o : Oracle) (ho : ∀ i, o.fault i = none) (hs : ParentLive ms s)
    (hn : ∀ t ∈ passTasks ms, t.near (t.view s)) :
    ParentReady ms ((reconcile ms.name).run o s).store ∧
      ∀ t ∈ passTasks ms, t.settled (t.view ((reconcile ms.name).run o s).store) :=
  have h := (reconcile_advance (W := fun _ => True) hha (fun t ht s h =>
    ((passTasks_converge ms t ht).arrive s h).mono fun _ _ _ ⟨h₁, h₂⟩ =>
      ⟨h₁, h₂, fun _ _ => trivial⟩) (fun _ _ => trivial) s hs hn).run o (.inr ho)
  ⟨h.1, h.2.1⟩

/-- A pass from a settled store keeps every view settled and writes the parent only. -/
theorem pass_quiet (o : Oracle) (ho : ∀ i, o.fault i = none) (hs : ParentReady ms s)
    (hst : ∀ t ∈ passTasks ms, t.settled (t.view s)) :
    (ParentReady ms ((reconcile ms.name).run o s).store ∧
      ∀ t ∈ passTasks ms, t.settled (t.view ((reconcile ms.name).run o s).store)) ∧
      ∀ x ∈ ((reconcile ms.name).run o s).trace, OfParent ms.name x :=
  have h := (reconcile_advance hha (fun t ht s h =>
    ((passTasks_converge ms t ht).quiet s h).mono fun _ _ _ ⟨h₁, h₂, h₃⟩ =>
      ⟨h₁, h₂ ▸ h, fun x hx hw => absurd hw (by simp [h₃ x hx])⟩)
    (fun _ h => h) s hs.live hst).run o (.inr ho)
  ⟨⟨h.1, h.2.1⟩, h.2.2⟩

/-- Settled stays settled over any run of exact passes. -/
theorem runPasses_settled : ∀ (os : List Oracle) (s : Store), (∀ o ∈ os, ∀ i, o.fault i = none) →
    ParentReady ms s → (∀ t ∈ passTasks ms, t.settled (t.view s)) →
    ParentReady ms (runPasses ms.name os s) ∧
      ∀ t ∈ passTasks ms, t.settled (t.view (runPasses ms.name os s))
  | [], _, _, hs, hst => ⟨hs, hst⟩
  | o :: os, _, hex, hs, hst =>
    have h := (pass_quiet hha o (hex o (List.mem_cons_self _ _)) hs hst).1
    runPasses_settled os _ (fun o ho => hex o (List.mem_cons_of_mem _ ho)) h.1 h.2

end Runs

/-- **Convergence of repeated passes.** Let the store answer every request exactly and nothing
    else write. Take a parent `ms` stored live under its name, whose database, if enabled, is not
    high-availability and whose descriptors build, in a store where every live StatefulSet has a
    replica count and the claims have distinct names. After any run of two or more passes with
    the spec unchanged, every child the spec calls for exists and the StatefulSets and
    autoscalers agree with their descriptors; and every further pass writes nothing but the
    parent. -/
theorem passes_converge [QuantityParser] [GaleraReconciler] (ms : MusicService) (s : Store)
    (hs : ParentLive ms s) (hha : databaseEnabled ms = true → databaseHAEnabled ms = false)
    (happ : (buildAppStatefulSet ms).isSome)
    (hdb : databaseEnabled ms = true → (buildDatabaseConfig ms).isSome)
    (hsts : ∀ n x, s.statefulSets n = some x → x.spec.replicas.isSome)
    (hclaims : (s.claims.map (·.name)).Nodup) (os : List Oracle) (hos : 2 ≤ os.length)
    (hex : ∀ o ∈ os, ∀ i, o.fault i = none) :
    ChildrenAgree ms (runPasses ms.name os s) ∧
      ∀ o : Oracle, (∀ i, o.fault i = none) →
        ∀ x ∈ ((reconcile ms.name).run o (runPasses ms.name os s)).trace,
          x.isWrite = true → x.key? = some ⟨.musicService, ms.name⟩ := by
  obtain _ | ⟨o₁, _ | ⟨o₂, rest⟩⟩ := os
  iterate 2 simp at hos
  have near := pass_approach hha o₁ (hex o₁ (by simp)) hs (passTasks_fresh happ hdb hsts hclaims)
  have settled := pass_arrive hha o₂ (hex o₂ (by simp)) near.1.live near.2
  have final := runPasses_settled hha rest _ (fun o h => hex o (by simp [h])) settled.1 settled.2
  exact ⟨childrenAgree_of_settled final.2, fun o ho => (pass_quiet hha o ho final.1 final.2).2⟩

/-- Two exact passes over the parent `m` with a one-replica database, from a namespace holding
    only the parent. -/
theorem sample_passes_converge :
    ChildrenAgree (sampleParent databaseSpec)
        (runPasses "m" [exactOracle, exactOracle] (sampleStore databaseSpec none [])) ∧
      ∀ o : Oracle, (∀ i, o.fault i = none) →
        ∀ x ∈ ((reconcile "m").run o
            (runPasses "m" [exactOracle, exactOracle] (sampleStore databaseSpec none []))).trace,
          x.isWrite = true → x.key? = some ⟨.musicService, "m"⟩ :=
  passes_converge (sampleParent databaseSpec) (sampleStore databaseSpec none [])
    ⟨_, by simp [sampleStore, sampleParent], rfl, rfl⟩ (by decide) (by decide) (fun _ => by decide)
    (fun n x h => by simp [sampleStore] at h) (by simp [sampleStore]) _ (by decide)
    (fun o ho i => by simp only [List.mem_cons, List.mem_singleton, List.not_mem_nil,
      or_false, or_self] at ho; exact ho ▸ rfl)

/-- The application Service `m` with port 9090, where the spec asks for 8080. -/
def staleAppService : Service :=
  { buildAppService (sampleParent sampleSpec) with
    spec.ports := [{ name := "http", port := 9090, targetPort := some 80, protocol := "TCP" }] }

/-- The parent `m` of spec `sampleSpec` and the stale Service `m`. -/
def staleServiceStore : Store :=
  { sampleStore sampleSpec none [] with
    services := fun n => if n = "m" then some staleAppService else none }

/-- Three exact passes leave the Service's port at 9090 while the descriptor asks for 8080. -/
theorem service_port_never_updated :
    (buildAppService (sampleParent sampleSpec)).spec.ports.map (·.port) = [8080] ∧
      ((runPasses "m" [exactOracle, exactOracle, exactOracle] staleServiceStore).services
        "m").map (·.spec.ports.map (·.port)) = some [9090] := by
  decide

end MusicOperator
