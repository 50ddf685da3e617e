import MusicOperator.Properties.Settle

/-!
  Convergence and idempotence of the pass against a store that never fails.

  A pass runs its steps in order, each on the part of the store it owns (`Task`: a step, its
  region and its view). The regions of a pass for a parent whose database is not
  high-availability are pairwise disjoint, so each step sees only its own objects move; and
  each step has the contract of `Properties/Settle.lean` (`Task.Converges`): fresh to near,
  near to settled, quiet when settled. Hence (`runSteps_advance`) a run of the steps moves
  every view one stage at once, and so does a whole pass (`reconcile_advance`), the status
  writes and the finalizer `Update` touching only the parent.

  From a store an API server can hold, two passes settle every view, and a settled store stays
  settled under a pass whose only writes are to the parent (`passes_converge`). In a settled
  view the StatefulSets and autoscalers agree with their descriptors on the fields the steps
  compare (`ChildrenAgree`); the Services are created when absent and never compared, so a
  Service whose port differs from the spec's keeps it (`service_port_never_updated`).
-/

namespace MusicOperator

open Prog Builder Reconciler Controller

/-! ## Tasks -/

/-- A reconcile step with the part of the store it owns: its region, its view of the store, and
    the three stages of that view. -/
structure Task where
  reason : String
  step : Prog (Except ApiError Unit)
  region : Region
  View : Type
  view : Store → View
  fresh : View → Prop
  near : View → Prop
  settled : View → Prop

/-- The step as the controller lists it. -/
def Task.toStep (t : Task) : Step := (t.reason, t.step)

/-- A task's contract against the exact store: its step writes inside its region, its view is
    determined by the region, and the step moves the view from fresh to near, from near to
    settled, and is quiet from settled. -/
structure Task.Converges (t : Task) : Prop where
  writes : All (Req.WritesIn t.region) t.step
  view_eq : ∀ s s', Store.AgreeIn t.region s s' → t.view s' = t.view s
  approach : ∀ s, t.fresh (t.view s) →
    Wp false t.step (fun r s' _ => r = some (.ok ()) ∧ t.near (t.view s')) s
  arrive : ∀ s, t.near (t.view s) →
    Wp false t.step (fun r s' _ => r = some (.ok ()) ∧ t.settled (t.view s')) s
  quiet : ∀ s, t.settled (t.view s) → Wp false t.step (Quiet s) s

/-- A store predicate that no write inside `R` can change. -/
def Stable (R : Region) (F : Store → Prop) : Prop :=
  ∀ s s', Store.Agree R s s' → F s → F s'

/-- A view is stable under every region disjoint from its own. -/
theorem Task.Converges.stable {t : Task} (hc : t.Converges) {R : Region}
    (hd : t.region.Disjoint R) (P : t.View → Prop) : Stable R fun s => P (t.view s) :=
  fun _ s' h hp => show P (t.view s') from (hc.view_eq _ _ (h.agreeIn hd)).symm ▸ hp

/-- **The steps of a pass advance together.** Over tasks of pairwise disjoint regions, each
    moving its own view from `P` to `Q` and sending only requests in `W`, `runSteps` returns
    `none` with every view moved, every request in `W`, and every predicate that the steps'
    writes cannot change kept. -/
theorem runSteps_advance {P Q : (t : Task) → t.View → Prop} {W : Req → Prop} :
    ∀ (tasks : List Task) {F : Store → Prop} (s : Store), (∀ t ∈ tasks, t.Converges) →
      tasks.Pairwise (fun t t' => t.region.Disjoint t'.region) →
      (∀ t ∈ tasks, ∀ s, P t (t.view s) → Wp false t.step
        (fun r s' tr => r = some (.ok ()) ∧ Q t (t.view s') ∧ ∀ x ∈ tr, W x) s) →
      (∀ t ∈ tasks, Stable t.region F) → F s → (∀ t ∈ tasks, P t (t.view s)) →
      Wp false (runSteps (tasks.map Task.toStep)) (fun r s' tr =>
        r = some none ∧ F s' ∧ (∀ t ∈ tasks, Q t (t.view s')) ∧ ∀ x ∈ tr, W x) s
  | [], _, _, _, _, _, _, hs, _ => by
    simp only [List.map_nil, runSteps, pure_eq, Wp.pure_iff]
    exact ⟨trivial, hs, by simp, by simp⟩
  | t :: rest, F, s, hc, hd, hstep, hF, hs, hP => by
    have ht := hc t (List.mem_cons_self _ _)
    obtain ⟨hdt, hdr⟩ := List.pairwise_cons.mp hd
    simp only [List.map_cons, Task.toStep, runSteps, bind_eq]
    refine Wp.bind_of ((hstep t (List.mem_cons_self _ _) s (hP t (List.mem_cons_self _ _))).and
      (All.wp_agree ht.writes)) (fun r s₁ tr ⟨⟨hr, hq, hw⟩, hag⟩ => ?_)
      fun _ _ ⟨⟨h, _⟩, _⟩ => nomatch h
    cases hr
    refine (runSteps_advance rest (F := fun s => F s ∧ Q t (t.view s)) s₁
      (fun t' h => hc t' (List.mem_cons_of_mem _ h)) hdr
      (fun t' h => hstep t' (List.mem_cons_of_mem _ h))
      (fun t' h s s' hag' ⟨hf, hq'⟩ => ⟨hF t' (List.mem_cons_of_mem _ h) s s' hag' hf,
        ht.stable (hdt t' h) (Q t) s s' hag' hq'⟩)
      ⟨hF t (List.mem_cons_self _ _) s s₁ hag hs, hq⟩
      (fun t' h => (hc t' (List.mem_cons_of_mem _ h)).stable (hdt t' h).symm (P t') s s₁ hag
        (hP t' (List.mem_cons_of_mem _ h)))).mono
      fun r s' tr' ⟨hr, ⟨hf, hqt⟩, hqs, hw'⟩ => ⟨hr, hf, ?_, ?_⟩
    · intro t' h
      rcases List.mem_cons.mp h with rfl | h
      exacts [hqt, hqs t' h]
    · intro x hx
      rcases List.mem_append.mp hx with hx | hx
      exacts [hw x hx, hw' x hx]

/-- Two regions of listed keys and claim prefixes are disjoint when no key is in both and no
    prefix of one extends a prefix of the other. -/
theorem Region.ofKeys_disjoint {keys keys' : List Key} {pfxs pfxs' : List String}
    (hk : ∀ k ∈ keys, k ∉ keys')
    (hp : ∀ p ∈ pfxs, ∀ q ∈ pfxs', ¬p.data <+: q.data ∧ ¬q.data <+: p.data) :
    (Region.ofKeys keys pfxs).Disjoint (.ofKeys keys' pfxs') := by
  refine ⟨hk, fun n hn => ?_⟩
  obtain ⟨p, hp', hnp⟩ := List.any_eq_true.mp hn
  refine Region.ofKeys_claims.trans (List.any_eq_false.mpr fun q hq hnq => ?_)
  rcases List.prefix_or_prefix_of_prefix (hasPrefix_iff.mp hnp) (hasPrefix_iff.mp hnq) with h | h
  exacts [(hp p hp' q hq).1 h, (hp p hp' q hq).2 h]

/-! ## The tasks of a pass -/

section Tasks

/-- The application Service. -/
def serviceTask (ms : MusicService) : Task where
  reason := "ServiceFailed"
  step := AppReconciler.reconcileService ms
  region := .ofKeys [⟨.service, ms.name⟩] []
  View := Option Service
  view s := s.services ms.name
  fresh _ := True
  near x := x.isSome
  settled x := x.isSome

/-- The master and read Services. -/
def servicesTask (ms : MusicService) : Task where
  reason := "DBServicesFailed"
  step := DatabaseReconciler.reconcileServices ms
  region := databaseServicesRegion ms.name
  View := Option Service × Option Service
  view := servicesView ms
  fresh _ := True
  near := ServicesReady ms
  settled := ServicesReady ms

theorem serviceTask_converges (ms : MusicService) : (serviceTask ms).Converges where
  writes := AppReconciler.reconcileService_all trivial
    (by simp [Req.WritesIn, serviceTask, buildAppService, objectMeta])
  view_eq _ _ h := h.lookup (k := .service) (List.mem_singleton_self _)
  approach s _ := reconcileService_settles ms s
  arrive s _ := reconcileService_settles ms s
  quiet _ h := reconcileService_quiet h

theorem servicesTask_converges {ms : MusicService} {db : DatabaseSpec}
    (hdb : ms.spec.database = some db) : (servicesTask ms).Converges where
  writes := (reconcileServices_within ms).mono fun _ h => h.writesIn
  view_eq _ _ h := Prod.ext (h.lookup (k := .service) (by simp)) (h.lookup (k := .service) (by simp))
  approach s _ := reconcileServices_settles hdb s
  arrive s _ := reconcileServices_settles hdb s
  quiet _ h := reconcileServices_quiet hdb h

theorem databaseEnabled_database {ms : MusicService} (h : databaseEnabled ms = true) :
    ∃ db, ms.spec.database = some db := by
  unfold databaseEnabled at h
  split at h
  · exact ⟨_, ‹_›⟩
  · cases h

variable [QuantityParser]

/-- A StatefulSet step, `syncStatefulSet name desired storage c a`, over the StatefulSet and the
    claims `c-a-*`. -/
def statefulSetTask (reason name : String) (desired : Option StatefulSet) (storage : StorageSpec)
    (c a : String) : Task where
  reason := reason
  step := syncStatefulSet name desired storage c a
  region := .ofKeys [⟨.statefulSet, name⟩] [claimPrefix c a]
  View := Option StatefulSet × List PersistentVolumeClaim
  view s := (s.statefulSets name, prefixClaims s (claimPrefix c a))
  fresh v := StatefulSetFresh desired v.1 v.2
  near v := StatefulSetNear desired storage v.1 v.2
  settled v := StatefulSetSettled desired storage v.1 v.2

/-- The application autoscaler. -/
def autoscalerTask (ms : MusicService) : Task where
  reason := "AutoscalerFailed"
  step := AppReconciler.reconcileAutoscaler ms
  region := .ofKeys [⟨.autoscaler, ms.name ++ "-autoscaler"⟩] []
  View := Option HorizontalPodAutoscaler
  view s := s.autoscalers (ms.name ++ "-autoscaler")
  fresh _ := True
  near := AutoscalerSettled (buildAutoscaler ms)
  settled := AutoscalerSettled (buildAutoscaler ms)

/-- The replica Secret and StatefulSet. -/
def replicasTask (ms : MusicService) : Task where
  reason := "DBReplicasFailed"
  step := DatabaseReconciler.reconcileReplicas ms
  region := replicaRegion ms.name
  View := Option Secret × Option StatefulSet × List PersistentVolumeClaim
  view := replicasView ms
  fresh := ReplicasStage ms (fun _ => True) (StatefulSetFresh (buildDatabaseReplicaStatefulSet ms))
  near := ReplicasStage ms (SecretOK ms)
    (StatefulSetNear (buildDatabaseReplicaStatefulSet ms) (databaseStorageSpec ms))
  settled := ReplicasStage ms (SecretOK ms)
    (StatefulSetSettled (buildDatabaseReplicaStatefulSet ms) (databaseStorageSpec ms))

/-- The replica autoscaler. -/
def replicaAutoscalerTask (ms : MusicService) : Task where
  reason := "DBAutoscalerFailed"
  step := DatabaseReconciler.reconcileAutoscaler ms
  region := .ofKeys [⟨.autoscaler, ms.name ++ "-db-replica-autoscaler"⟩] []
  View := Option HorizontalPodAutoscaler
  view s := s.autoscalers (ms.name ++ "-db-replica-autoscaler")
  fresh _ := True
  near := ReplicaAutoscalerSettled ms
  settled := ReplicaAutoscalerSettled ms

/-- The application steps as tasks. -/
def appTasks (ms : MusicService) : List Task :=
  [serviceTask ms,
   statefulSetTask "StatefulSetFailed" ms.name (buildAppStatefulSet ms) ms.spec.storage "music-data"
     ms.name,
   autoscalerTask ms]

/-- The database steps of a parent whose database is not high-availability, as tasks. -/
def databaseTasks (ms : MusicService) : List Task :=
  if databaseEnabled ms then
    [statefulSetTask "DBMasterFailed" (ms.name ++ "-db-master") (buildDatabaseMasterStatefulSet ms)
       (databaseStorageSpec ms) "db-data" (ms.name ++ "-db-master"),
     replicasTask ms, servicesTask ms, replicaAutoscalerTask ms]
  else []

/-- The steps of a pass, as tasks. -/
def passTasks (ms : MusicService) : List Task := appTasks ms ++ databaseTasks ms

theorem appSteps_eq (ms : MusicService) : appSteps ms = (appTasks ms).map Task.toStep := rfl

theorem databaseSteps_eq [GaleraReconciler] {ms : MusicService}
    (hha : databaseEnabled ms = true → databaseHAEnabled ms = false) :
    databaseSteps ms = (databaseTasks ms).map Task.toStep := by
  unfold databaseSteps databaseTasks
  split
  · simp only [hha ‹_›, Bool.false_eq_true, ↓reduceIte]
    rfl
  · rfl

/-! ### Every task keeps its contract -/

theorem statefulSetTask_converges {reason name c a : String} {desired : Option StatefulSet}
    {storage : StorageSpec}
    (hd : ∀ d, desired = some d → d.metadata.name = name ∧ d.spec.replicas.isSome) :
    (statefulSetTask reason name desired storage c a).Converges where
  writes := (syncStatefulSet_within (List.mem_singleton_self _) (List.mem_singleton_self _)
    fun d h => (hd d h).1).mono fun _ h => h.writesIn
  view_eq _ _ h :=
    Prod.ext (h.lookup (k := .statefulSet) (List.mem_singleton_self _)) h.prefixClaims
  approach _ h := syncStatefulSet_approach hd h
  arrive _ h := syncStatefulSet_arrive hd h
  quiet _ h := syncStatefulSet_quiet h

theorem autoscalerTask_converges (ms : MusicService) : (autoscalerTask ms).Converges where
  writes := AppReconciler.reconcileAutoscaler_all trivial
    (fun _ hb => by simp [Req.WritesIn, autoscalerTask, buildAutoscaler_some hb])
    (fun _ _ hl _ => by simp [Req.WritesIn, autoscalerTask, hl]) (by simp [Req.WritesIn, autoscalerTask])
  view_eq _ _ h := h.lookup (k := .autoscaler) (List.mem_singleton_self _)
  approach s _ := appReconcileAutoscaler_settles ms s
  arrive s _ := appReconcileAutoscaler_settles ms s
  quiet _ h := appReconcileAutoscaler_quiet h

theorem replicasTask_converges {ms : MusicService} {db : DatabaseSpec}
    (hdb : ms.spec.database = some db) : (replicasTask ms).Converges where
  writes := (reconcileReplicas_within ms).mono fun _ h => h.writesIn
  view_eq _ _ h := Prod.ext (h.lookup (k := .secret) (by simp))
    (Prod.ext (h.lookup (k := .statefulSet) (by simp)) h.prefixClaims)
  approach _ h := reconcileReplicas_advance (S := fun _ => True) hdb
    (fun _ h => syncStatefulSet_approach (replicaDescriptor hdb) h) h
  arrive _ h := reconcileReplicas_advance (S := SecretOK ms) hdb
    (fun _ h => syncStatefulSet_arrive (replicaDescriptor hdb) h) h
  quiet _ h := reconcileReplicas_quiet hdb h

theorem replicaAutoscalerTask_converges {ms : MusicService} {db : DatabaseSpec}
    (hdb : ms.spec.database = some db) : (replicaAutoscalerTask ms).Converges where
  writes := (reconcileReplicaAutoscaler_within ms).mono fun _ h => (h.mono
    ⟨fun k hk => by
      simp only [replicaAutoscalerRegion, Region.ofKeys_keys] at hk
      split at hk <;> simp_all [replicaAutoscalerTask],
    fun _ h => by simp [replicaAutoscalerRegion] at h⟩).writesIn
  view_eq _ _ h := h.lookup (k := .autoscaler) (List.mem_singleton_self _)
  approach s _ := databaseReconcileAutoscaler_settles hdb s
  arrive s _ := databaseReconcileAutoscaler_settles hdb s
  quiet _ h := databaseReconcileAutoscaler_quiet hdb h

theorem passTasks_converge (ms : MusicService) : ∀ t ∈ passTasks ms, t.Converges := by
  intro t ht
  simp only [passTasks, appTasks, databaseTasks, List.mem_append, List.mem_cons,
    List.mem_singleton, List.not_mem_nil, or_false] at ht
  rcases ht with (rfl | rfl | rfl) | ht
  · exact serviceTask_converges ms
  · exact statefulSetTask_converges fun _ h =>
      ⟨(buildAppStatefulSet_some h).1, by simp [(buildAppStatefulSet_some h).2]⟩
  · exact autoscalerTask_converges ms
  split at ht
  · obtain ⟨db, hdb⟩ := databaseEnabled_database ‹_›
    simp only [List.mem_cons, List.mem_singleton, List.not_mem_nil, or_false] at ht
    rcases ht with rfl | rfl | rfl | rfl
    · exact statefulSetTask_converges fun _ h => ⟨buildDatabaseMasterStatefulSet_some h,
        by simp [buildDatabaseMasterStatefulSet_replicas h]⟩
    · exact replicasTask_converges hdb
    · exact servicesTask_converges hdb
    · exact replicaAutoscalerTask_converges hdb
  · simp at ht

/-! ### The regions of a pass are disjoint -/

theorem passTasks_disjoint (ms : MusicService) :
    (passTasks ms).Pairwise fun t t' => t.region.Disjoint t'.region := by
  unfold passTasks appTasks databaseTasks
  split <;>
  simp only [List.cons_append, List.nil_append, List.append_nil, List.pairwise_cons,
    List.mem_cons, List.mem_singleton, List.not_mem_nil, or_false, forall_eq_or_imp, forall_eq,
    List.Pairwise.nil, and_true, IsEmpty.forall_iff, implies_true, serviceTask, statefulSetTask,
    autoscalerTask, replicasTask, servicesTask, replicaAutoscalerTask, replicaRegion,
    databaseServicesRegion] <;>
  repeat' first
    | exact Region.ofKeys_disjoint (by simp) (by simp [claimPrefix, List.cons_prefix_cons])
    | apply And.intro

end Tasks

/-! ## A pass -/

/-- An object stored under the name of `ms`, live, with its spec. -/
def ParentLive (ms : MusicService) (s : Store) : Prop :=
  ∃ x, s.musicServices ms.name = some x ∧ x.spec = ms.spec ∧ x.deletionTimestamp = none

/-- An object stored under the name of `ms`, live, with its spec, carrying the finalizer. -/
def ParentReady (ms : MusicService) (s : Store) : Prop :=
  ∃ x, s.musicServices ms.name = some x ∧ x.spec = ms.spec ∧ x.deletionTimestamp = none ∧
    musicServiceFinalizerName ∈ x.finalizers

/-- A request that writes, if at all, the parent `n`. -/
def OfParent (n : String) (r : Req) : Prop := r.isWrite = true → r.key? = some ⟨.musicService, n⟩

section Parent

variable {ms : MusicService} {s : Store}

/-- A status request keeps the parent ready: it writes the status only. -/
theorem ParentReady.answer (h : ParentReady ms s) {r : Req} (hr : r.IsStatusRequest ms.name)
    (o : Oracle) : ParentReady ms (s.answer o r).2 := by
  cases r with
  | updateStatus m =>
    simp only [Store.answer, Oracle.guard]
    split
    · exact h
    obtain ⟨x, hx, hsp, hdel, hf⟩ := h
    simp only [Req.IsStatusRequest] at hr
    simp only [Store.updateStatus, hr, hx]
    exact ⟨{ x with status := m.status }, by simp [Store.put], hsp, hdel, hf⟩
  | get k n => simp only [Store.answer, Oracle.guard]; split <;> exact h
  | listClaims => simp only [Store.answer, Oracle.guard]; split <;> exact h
  | now => exact h
  | _ => exact hr.elim

theorem Req.IsStatusRequest.ofParent {r : Req} {n : String} (h : r.IsStatusRequest n) :
    OfParent n r := by
  cases r with
  | updateStatus m => exact fun _ => by simp_all [Req.IsStatusRequest, Req.key?]
  | create | update | delete | updateClaim | deleteClaim => exact h.elim
  | _ => nofun

variable [QuantityParser]

/-- No step of a pass writes the parent. -/
theorem passTasks_parent_disjoint (ms : MusicService) :
    ∀ t ∈ passTasks ms, t.region.Disjoint (parentRegion ms.name) := by
  intro t ht
  simp only [passTasks, appTasks, databaseTasks, List.mem_append, List.mem_cons,
    List.mem_singleton, List.not_mem_nil, or_false] at ht
  rcases ht with (rfl | rfl | rfl) | ht
  rotate_left 3
  · split at ht
    · simp only [List.mem_cons, List.mem_singleton, List.not_mem_nil, or_false] at ht
      rcases ht with rfl | rfl | rfl | rfl
      all_goals exact Region.ofKeys_disjoint (by simp) (by simp)
    · simp at ht
  all_goals exact Region.ofKeys_disjoint (by simp) (by simp)

/-- The parent's readiness is stable under the steps' writes. -/
theorem parentReady_stable : ∀ t ∈ passTasks ms, Stable t.region (ParentReady ms) :=
  fun t ht _ _ hag ⟨x, hx, hrest⟩ =>
    ⟨x, (hag.1 .musicService ms.name fun hk =>
      (passTasks_parent_disjoint ms t ht).1 _ hk (List.mem_singleton_self _)).trans hx, hrest⟩

/-- The tasks of a parent depend on its name and spec only. -/
theorem passTasks_congr {ms' : MusicService} (hn : ms'.name = ms.name) (hsp : ms'.spec = ms.spec) :
    appTasks ms' = appTasks ms ∧ databaseTasks ms' = databaseTasks ms := by
  cases ms
  cases ms'
  simp only at hn hsp
  subst hn hsp
  exact ⟨rfl, rfl⟩

variable (ms) in
theorem appSteps_of {x : MusicService} (hn : x.name = ms.name) (hsp : x.spec = ms.spec) :
    appSteps x = (appTasks ms).map Task.toStep := by
  rw [appSteps_eq, (passTasks_congr hn hsp).1]

theorem databaseSteps_of [GaleraReconciler] {x : MusicService}
    (hha : databaseEnabled ms = true → databaseHAEnabled ms = false)
    (hn : x.name = ms.name) (hsp : x.spec = ms.spec) :
    databaseSteps x = (databaseTasks ms).map Task.toStep := by
  have he : databaseEnabled x = databaseEnabled ms := by simp only [databaseEnabled, hsp]
  have hh : databaseHAEnabled x = databaseHAEnabled ms := by simp only [databaseHAEnabled, hsp]
  rw [databaseSteps_eq fun h => hh.trans (hha (he ▸ h)), (passTasks_congr hn hsp).2]

/-- The status sync sends only status requests of the parent, writes only the parent, and keeps
    it ready. -/
theorem syncStatus_keeps {x : MusicService} (hn : x.name = ms.name) (h : ParentReady ms s) :
    Wp false (syncStatus x) (fun _ s' tr => (∀ r ∈ tr, r.IsStatusRequest ms.name) ∧
      Store.Agree (parentRegion ms.name) s s' ∧ ParentReady ms s') s :=
  have status := syncStatus_all hn
  (All.wp status).and ((All.wp_agree (status.mono fun _ h => h.writesIn_parentRegion)).and
    (All.wp_inv status (fun _ _ o hr h => h.answer hr o) h))

end Parent

section Pass

variable [QuantityParser] [GaleraReconciler] {P Q : (t : Task) → t.View → Prop} {W : Req → Prop}
  {ms : MusicService}

/-- The pass for a live object carrying the finalizer moves every step's view from `P` to `Q`,
    keeps the parent ready, and sends only requests in `W`, given the steps do and `W` admits
    the requests that write only the parent. -/
theorem reconcileLive_advance (hha : databaseEnabled ms = true → databaseHAEnabled ms = false)
    (hstep : ∀ t ∈ passTasks ms, ∀ s, P t (t.view s) → Wp false t.step
      (fun r s' tr => r = some (.ok ()) ∧ Q t (t.view s') ∧ ∀ x ∈ tr, W x) s)
    (hW : ∀ x, OfParent ms.name x → W x) {ms' : MusicService} (hn : ms'.name = ms.name)
    (hsp : ms'.spec = ms.spec) (s : Store) (hs : ParentReady ms s)
    (hP : ∀ t ∈ passTasks ms, P t (t.view s)) :
    Wp false (reconcileLive ms') (fun _ s' tr => ParentReady ms s' ∧
      (∀ t ∈ passTasks ms, Q t (t.view s')) ∧ ∀ x ∈ tr, W x) s := by
  have hc := passTasks_converge ms
  obtain ⟨hda, hdd, hcross⟩ := List.pairwise_append.mp (passTasks_disjoint ms)
  have app : ∀ t ∈ appTasks ms, t ∈ passTasks ms := fun _ h => List.mem_append_left _ h
  have db : ∀ t ∈ databaseTasks ms, t ∈ passTasks ms := fun _ h => List.mem_append_right _ h
  unfold reconcileLive
  simp only [bind_eq]
  refine Wp.bind_of (P := fun r s₁ tr => r = some none ∧
      (ParentReady ms s₁ ∧ ∀ t ∈ databaseTasks ms, P t (t.view s₁)) ∧
      (∀ t ∈ appTasks ms, Q t (t.view s₁)) ∧ ∀ x ∈ tr, W x) ?_
    (fun r s₁ tr ⟨hr, ⟨hready, hPdb⟩, hQapp, hw⟩ => ?_) fun _ _ h => nomatch h.1
  · rw [appSteps_of ms ?_ ?_]
    rotate_left; simp [hn]; simp [hsp]
    exact runSteps_advance _ s (fun t h => hc t (app t h)) hda (fun t h => hstep t (app t h))
      (fun t h s s' hag ⟨h₁, h₂⟩ => ⟨parentReady_stable t (app t h) s s' hag h₁,
        fun t' h' => (hc t' (db t' h')).stable (hcross t h t' h').symm (P t') s s' hag (h₂ t' h')⟩)
      ⟨hs, fun t h => hP t (db t h)⟩ fun t h => hP t (app t h)
  cases hr
  refine Wp.bind_of (P := fun r s₂ tr => r = some none ∧
      (ParentReady ms s₂ ∧ ∀ t ∈ appTasks ms, Q t (t.view s₂)) ∧
      (∀ t ∈ databaseTasks ms, Q t (t.view s₂)) ∧ ∀ x ∈ tr, W x) ?_
    (fun r s₂ tr₂ ⟨hr, ⟨hready₂, hQapp₂⟩, hQdb, hw₂⟩ => ?_) fun _ _ h => nomatch h.1
  · rw [databaseSteps_of hha ?_ ?_]
    rotate_left; simp [hn]; simp [hsp]
    exact runSteps_advance _ s₁ (fun t h => hc t (db t h)) hdd (fun t h => hstep t (db t h))
      (fun t h s s' hag ⟨h₁, h₂⟩ => ⟨parentReady_stable t (db t h) s s' hag h₁,
        fun t' h' => (hc t' (app t' h')).stable (hcross t' h' t h) (Q t') s s' hag (h₂ t' h')⟩)
      ⟨hready, hQapp⟩ hPdb
  cases hr
  refine (syncStatus_keeps (by simp [hn]) hready₂).mono
    fun _ s₃ tr₃ ⟨htr, hag, hready₃⟩ => ⟨hready₃, fun t ht => ?_, fun x hx => ?_⟩
  · rcases List.mem_append.mp ht with h | h
    · exact (hc t ht).stable (passTasks_parent_disjoint ms t ht) (Q t) _ _ hag (hQapp₂ t h)
    · exact (hc t ht).stable (passTasks_parent_disjoint ms t ht) (Q t) _ _ hag (hQdb t h)
  · rcases List.mem_append.mp hx with hx | hx
    · exact hw x hx
    rcases List.mem_append.mp hx with hx | hx
    · exact hw₂ x hx
    · exact hW x (htr x hx).ofParent

/-- A pass for the name of a live `ms` moves every step's view from `P` to `Q` and leaves the
    parent ready: it adds the finalizer when missing, then runs the live pass. -/
theorem reconcile_advance (hha : databaseEnabled ms = true → databaseHAEnabled ms = false)
    (hstep : ∀ t ∈ passTasks ms, ∀ s, P t (t.view s) → Wp false t.step
      (fun r s' tr => r = some (.ok ()) ∧ Q t (t.view s') ∧ ∀ x ∈ tr, W x) s)
    (hW : ∀ x, OfParent ms.name x → W x) (s : Store) (hs : ParentLive ms s)
    (hP : ∀ t ∈ passTasks ms, P t (t.view s)) :
    Wp false (reconcile ms.name) (fun _ s' tr => ParentReady ms s' ∧
      (∀ t ∈ passTasks ms, Q t (t.view s')) ∧ ∀ x ∈ tr, W x) s := by
  obtain ⟨x, hx, hsp, hdel⟩ := hs
  simp only [reconcile, getObj, send, bind_eq, call_bind, Prog.pure_bind, Wp.get, Store.get,
    Store.lookup, hx]
  refine ⟨nofun, ?_⟩
  simp only [reconcileObject, Kind.withName, hdel, Option.isSome_none, Bool.false_eq_true,
    ↓reduceIte]
  have hget : W (.get .musicService ms.name) := hW _ fun h => absurd h (by simp)
  split_ifs with hf
  · refine (reconcileLive_advance hha hstep hW ?_ ?_ s ⟨x, hx, hsp, hdel, hf⟩ hP).mono
      fun _ _ _ ⟨h₁, h₂, h₃⟩ => ⟨h₁, h₂, List.forall_mem_cons.mpr ⟨hget, h₃⟩⟩
    · rfl
    · exact hsp
  simp only [updateObj, send, bind_eq, call_bind, Wp.update]
  refine ⟨nofun, ?_⟩
  simp only [Store.update, Kind.nameOf, Store.lookup, hx, Prog.pure_bind,
    Store.Kind.keepServerFields, Store.Kind.finalize, hdel, ne_eq, not_true_eq_false, false_and,
    ↓reduceIte]
  refine (reconcileLive_advance hha hstep hW ?_ ?_ _ ?_ fun t ht => ?_).mono
    fun _ _ _ ⟨h₁, h₂, h₃⟩ => ⟨h₁, h₂, List.forall_mem_cons.mpr ⟨hget,
      List.forall_mem_cons.mpr ⟨hW _ fun _ => rfl, h₃⟩⟩⟩
  · rfl
  · exact hsp
  · exact ⟨_, Function.update_same _ _ _, hsp, rfl, List.mem_append_right _ (List.mem_singleton_self _)⟩
  · exact (passTasks_converge ms t ht).stable (passTasks_parent_disjoint ms t ht) (P t) s _
      (Store.Agree.put (by simp [parentRegion]) _) (hP t ht)

end Pass

end MusicOperator
