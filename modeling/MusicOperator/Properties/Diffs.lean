import MusicOperator.Properties.Passes

/-!
  The two kinds of diff against live objects the API server has defaulted.

  The API server fills in fields a descriptor leaves at their zero value: a probe's timeout and
  thresholds, a container's `terminationMessagePath` and `imagePullPolicy`
  (`StatefulSet.withDefaults`), an autoscaler's `behavior`. A diff that compares such a field sees
  a change the spec never made.

  1. `statefulSetNeedsUpdate` compares init containers and probes whole. The database
     descriptors carry an init container and probes that leave those fields unset, so against
     their defaulted live objects the diff is always true, while the application descriptor has
     neither and its defaulted live object passes (`defaulted_statefulSets_diff`).
  2. `autoscalerNeedsUpdate` is true exactly when the live autoscaler disagrees with the
     builder's on the bounds, the number of metrics, or a metric's type, resource or target
     (`autoscalerNeedsUpdate_iff`). The database tier compares whole specs instead, so a
     server-filled `behavior` alone makes its step write the autoscaler
     (`autoscaler_diffs_disagree`).
-/

namespace MusicOperator

open Prog Builder Reconciler

/-! ## Server defaults -/

/-- The probe defaults (`SetDefaults_Probe`): timeout 1 s, period 10 s, success threshold 1,
    failure threshold 3, each where left at zero. -/
def Probe.withDefaults (p : Probe) : Probe :=
  { p with
    timeoutSeconds := if p.timeoutSeconds = 0 then 1 else p.timeoutSeconds
    periodSeconds := if p.periodSeconds = 0 then 10 else p.periodSeconds
    successThreshold := if p.successThreshold = 0 then 1 else p.successThreshold
    failureThreshold := if p.failureThreshold = 0 then 3 else p.failureThreshold }

/-- The container defaults (`SetDefaults_Container`): `terminationMessagePath`
    `/dev/termination-log`; `imagePullPolicy` `Always` for an untagged or `:latest` image,
    `IfNotPresent` otherwise; and the probe defaults. -/
def Container.withDefaults (c : Container) : Container :=
  { c with
    imagePullPolicy :=
      if c.imagePullPolicy ≠ "" then c.imagePullPolicy
      else if c.image.endsWith ":latest" || !c.image.contains ':' then "Always"
      else "IfNotPresent"
    terminationMessagePath :=
      if c.terminationMessagePath = "" then "/dev/termination-log" else c.terminationMessagePath
    readinessProbe := c.readinessProbe.map Probe.withDefaults
    livenessProbe := c.livenessProbe.map Probe.withDefaults }

/-- A StatefulSet as the API server stores it: every container and init container defaulted. -/
def StatefulSet.withDefaults (sts : StatefulSet) : StatefulSet :=
  { sts with
    spec.template.spec.initContainers :=
      sts.spec.template.spec.initContainers.map Container.withDefaults
    spec.template.spec.containers := sts.spec.template.spec.containers.map Container.withDefaults }

theorem Container.withDefaults_ne {c : Container} (h : c.terminationMessagePath = "") :
    c.withDefaults ≠ c := fun he => by
  have := congrArg Container.terminationMessagePath he
  simp [Container.withDefaults, h] at this

theorem map_withDefaults_ne {l : List Container} {c : Container} (hc : c ∈ l)
    (h : c.terminationMessagePath = "") : l.map Container.withDefaults ≠ l := by
  induction l with
  | nil => cases hc
  | cons x l ih =>
    intro he
    simp only [List.map_cons, List.cons.injEq] at he
    rcases List.mem_cons.mp hc with rfl | hc
    · exact Container.withDefaults_ne h he.1
    · exact ih hc he.2

/-- A container without probes passes the diff once defaulted: the fields the API server fills in
    are not among the ones compared. -/
theorem containerNeedsUpdate_withDefaults {c : Container} (hr : c.readinessProbe = none)
    (hl : c.livenessProbe = none) : containerNeedsUpdate c.withDefaults c = false := by
  simp [containerNeedsUpdate, Container.withDefaults, hr, hl]

/-! ## The StatefulSet diff -/

section StatefulSets

variable {d : StatefulSet}

/-- An init container with an unset `terminationMessagePath` makes the diff true against the
    defaulted live object. -/
theorem statefulSetNeedsUpdate_withDefaults_init (hr : d.spec.replicas.isSome)
    {c : Container} (hc : c ∈ d.spec.template.spec.initContainers)
    (h : c.terminationMessagePath = "") : statefulSetNeedsUpdate d.withDefaults d = some true := by
  obtain ⟨r, hr⟩ := Option.isSome_iff_exists.mp hr
  have hne := map_withDefaults_ne hc h
  simp [statefulSetNeedsUpdate, StatefulSet.withDefaults, hr, hne]

/-- Without init containers and probes, the defaulted live object passes the diff. -/
theorem statefulSetNeedsUpdate_withDefaults_plain (hr : d.spec.replicas.isSome)
    (hi : d.spec.template.spec.initContainers = [])
    (hp : ∀ c ∈ d.spec.template.spec.containers, c.readinessProbe = none ∧ c.livenessProbe = none) :
    statefulSetNeedsUpdate d.withDefaults d = some false := by
  obtain ⟨r, hr⟩ := Option.isSome_iff_exists.mp hr
  have hz : ((d.spec.template.spec.containers.map Container.withDefaults).zip
      d.spec.template.spec.containers).any (fun p => containerNeedsUpdate p.1 p.2) = false := by
    rw [show ∀ l : List Container, (l.map Container.withDefaults).zip l =
      l.map fun a => (a.withDefaults, a) from fun l => by simpa using List.zip_map' _ id l]
    simpa [List.any_eq_false] using fun c hc => containerNeedsUpdate_withDefaults (hp c hc).1 (hp c hc).2
  simp [statefulSetNeedsUpdate, StatefulSet.withDefaults, hr, hi, hz]

/-- The application descriptor sets a replica count and has no init containers and no probes. -/
theorem buildAppStatefulSet_plain [QuantityParser] {ms : MusicService} (h : buildAppStatefulSet ms = some d) :
    d.spec.replicas.isSome ∧ d.spec.template.spec.initContainers = [] ∧
      ∀ c ∈ d.spec.template.spec.containers, c.readinessProbe = none ∧ c.livenessProbe = none := by
  unfold buildAppStatefulSet at h
  cases hq : mustParse ms.spec.storage.size <;> simp only [hq, Option.bind_eq_bind,
    Option.none_bind, Option.some_bind, reduceCtorEq, Option.pure_def, Option.some.injEq] at h
  subst h
  exact ⟨rfl, rfl, by simp⟩

/-- The database descriptors, master and replica, set a replica count, and their init container
    leaves `terminationMessagePath` unset. -/
theorem databaseStatefulSet_init [QuantityParser] {ms : MusicService}
    {b : MusicService → Option StatefulSet}
    (hb : b ∈ [buildDatabaseMasterStatefulSet, buildDatabaseReplicaStatefulSet]) (h : b ms = some d) :
    d.spec.replicas.isSome ∧
      ∃ c ∈ d.spec.template.spec.initContainers, c.terminationMessagePath = "" := by
  rcases List.mem_pair.mp hb with rfl | rfl <;>
  · obtain ⟨_, -, h⟩ := Option.bind_eq_some.mp h
    cases h
    exact ⟨rfl, _, List.mem_singleton_self _, rfl⟩

end StatefulSets

/-- For every parent, the application StatefulSet passes the diff against its defaulted live
    object, and each database StatefulSet fails it: the database steps rewrite their StatefulSets
    on every pass. -/
theorem defaulted_statefulSets_diff [QuantityParser] (ms : MusicService) :
    (∀ d, buildAppStatefulSet ms = some d → statefulSetNeedsUpdate d.withDefaults d = some false) ∧
    (∀ d, buildDatabaseMasterStatefulSet ms = some d →
      statefulSetNeedsUpdate d.withDefaults d = some true) ∧
    ∀ d, buildDatabaseReplicaStatefulSet ms = some d →
      statefulSetNeedsUpdate d.withDefaults d = some true := by
  refine ⟨fun d h => ?_, fun d h => ?_, fun d h => ?_⟩
  · obtain ⟨hr, hi, hp⟩ := buildAppStatefulSet_plain h
    exact statefulSetNeedsUpdate_withDefaults_plain hr hi hp
  all_goals
    obtain ⟨hr, c, hc, ht⟩ := databaseStatefulSet_init (by simp) h
    exact statefulSetNeedsUpdate_withDefaults_init hr hc ht

/-- The master StatefulSet of `m` with a one-replica database, defaulted by the server, still
    differs from its descriptor. -/
theorem sample_master_defaulted_diff :
    ∃ d, buildDatabaseMasterStatefulSet (sampleParent databaseSpec) = some d ∧
      statefulSetNeedsUpdate d.withDefaults d = some true :=
  let ⟨d, hd⟩ : ∃ d, buildDatabaseMasterStatefulSet (sampleParent databaseSpec) = some d :=
    ⟨_, rfl⟩
  ⟨d, hd, (defaulted_statefulSets_diff (sampleParent databaseSpec)).2.1 d hd⟩

/-! ## The autoscaler diffs -/

/-- The metric loop finds nothing on agreeing metric lists. -/
theorem metricsNeedUpdate_of_forall₂ {l ds : List MetricSpec}
    (h : List.Forall₂ MetricAgrees l ds) : metricsNeedUpdate (l.zip ds) = false := by
  induction h with
  | nil => rfl
  | @cons m d l ds hmd _ ih =>
    obtain ⟨ht, hn, hu⟩ := hmd
    rcases hm : m.resource with _ | r <;> rcases hd : d.resource with _ | r' <;>
      simp only [hm, hd, Option.map_none', Option.map_some', Option.some.injEq,
        reduceCtorEq] at hn hu
    · simp [metricsNeedUpdate, ht, hm, hd]
    · simp only [List.zip_cons_cons, metricsNeedUpdate, ht, hm, hd, hn, hu, bne_self_eq_false,
        Bool.false_eq_true, if_false]
      rcases r'.target.averageUtilization with _ | u
      · rfl
      · simpa using ih

theorem autoscalerNeedsUpdate_of_agrees {x d : HorizontalPodAutoscaler}
    (h : AutoscalerAgrees x d) : autoscalerNeedsUpdate x d = false := by
  obtain ⟨hmin, hmax, hm⟩ := h
  unfold autoscalerNeedsUpdate
  rcases hx : x.spec.minReplicas with _ | a <;> rw [hx] at hmin <;> rw [← hmin]
  · simp [hmax]
  · simp [hmax, hm.length_eq, metricsNeedUpdate_of_forall₂ hm]

/-- Against a descriptor with `minReplicas` and full metrics, as the builders make them, the
    application diff is exactly disagreement. -/
theorem autoscalerNeedsUpdate_iff {x d : HorizontalPodAutoscaler}
    (hmin : d.spec.minReplicas.isSome) (hf : ∀ m ∈ d.spec.metrics, MetricFull m) :
    autoscalerNeedsUpdate x d = true ↔ ¬AutoscalerAgrees x d := by
  refine ⟨fun h ha => ?_, fun h => ?_⟩
  · rw [autoscalerNeedsUpdate_of_agrees ha] at h
    cases h
  · by_contra hn
    exact h (autoscalerAgrees_of_needsUpdate hmin hf (by simpa using hn))

/-- The database descriptor leaves `behavior` unset. -/
theorem buildDatabaseReplicaAutoscaler_behavior {ms : MusicService} {d : HorizontalPodAutoscaler}
    (h : buildDatabaseReplicaAutoscaler ms = some d) : d.spec.behavior = none := by
  unfold buildDatabaseReplicaAutoscaler at h
  simp only [Option.bind_eq_bind, Option.bind_eq_some, Option.pure_def, Option.some.injEq] at h
  obtain ⟨_, _, _, _, rfl⟩ := h
  rfl

/-- For every parent and every live autoscaler, the application tier's check is disagreement on
    the compared fields; the database tier's whole-spec check is true on an autoscaler that
    agrees with its descriptor on all of them and differs only in the `behavior` the API server
    fills in. -/
theorem autoscaler_diffs_disagree (ms : MusicService) (x : HorizontalPodAutoscaler) (b : String) :
    (∀ d, buildAutoscaler ms = some d →
      (autoscalerNeedsUpdate x d = true ↔ ¬AutoscalerAgrees x d)) ∧
    ∀ d, buildDatabaseReplicaAutoscaler ms = some d →
      AutoscalerAgrees { d with spec.behavior := some b } d ∧
        ({ d with spec.behavior := some b }.spec != d.spec) = true := by
  refine ⟨fun d h => ?_, fun d h => ?_⟩
  · obtain ⟨a, -, rfl⟩ := Option.map_eq_some'.mp h
    exact autoscalerNeedsUpdate_iff (autoscalerFor_full ..).1 (autoscalerFor_full ..).2
  · refine ⟨⟨rfl, rfl, List.forall₂_same.mpr fun m _ => ⟨rfl, rfl, rfl⟩⟩, bne_iff_ne.mpr fun he => ?_⟩
    have := congrArg HorizontalPodAutoscalerSpec.behavior he
    simp [buildDatabaseReplicaAutoscaler_behavior h] at this

/-- The database autoscaler of `m` with `behavior` filled in fails the database check. -/
theorem sample_autoscaler_behavior_diff :
    ∃ d, buildDatabaseReplicaAutoscaler (sampleParent haAutoscaledSpec) = some d ∧
      AutoscalerAgrees { d with spec.behavior := some "default" } d ∧
        ({ d with spec.behavior := some "default" }.spec != d.spec) = true :=
  let ⟨d, hd⟩ : ∃ d, buildDatabaseReplicaAutoscaler (sampleParent haAutoscaledSpec) = some d :=
    ⟨_, rfl⟩
  ⟨d, hd, (autoscaler_diffs_disagree (sampleParent haAutoscaledSpec) d "default").2 d hd⟩

end MusicOperator
