import MusicOperator.Properties.StorageScope
import MusicOperator.Controller.Reconcile

/-!
  The requests each function of a pass can send.

  One lemma per function: `All P f` follows from `P` on each request `f` can send, the fetched
  objects' names tied to the names they were fetched under (`Req.Possible`). Every footprint
  result of the development (which keys a pass addresses, which StatefulSets it writes and
  with what, which objects a high-availability pass touches) instantiates `P` in these lemmas
  and never unfolds a reconcile function again.

  The status manager, working on the object `n`, sends only `Get`s of `n`'s three StatefulSets,
  claim lists, clock reads and status writes of `n` (`Req.IsStatusRequest n`); every operation
  returns an object of the same name (`AllRet`), which is what keeps the next one on `n`.
-/

namespace MusicOperator

open Prog Builder Reconciler

/-- A request of the status manager working on the object `n`: a `Get` of one of its three
    StatefulSets, the claim `List`, `time.Now()`, or a status write of `n`. -/
def Req.IsStatusRequest (n : String) : Req → Prop
  | .get .statefulSet m => m = n ∨ m = n ++ "-db-master" ∨ m = n ++ "-db-replica"
  | .listClaims | .now => True
  | .updateStatus ms => ms.name = n
  | _ => False

/-- Every StatefulSet `r` writes (by `Create` or `Update`) satisfies `P`. -/
def Req.WritesStatefulSets (P : StatefulSet → Prop) (r : Req) : Prop :=
  ∀ x, r.writtenStatefulSet? = some x → P x

namespace Req

variable {P : StatefulSet → Prop}

theorem writesStatefulSets_of_none {r : Req} (h : r.writtenStatefulSet? = none) :
    r.WritesStatefulSets P :=
  fun _ hx => Option.noConfusion (h.symm.trans hx)

theorem writesStatefulSets_create {x : StatefulSet} (h : P x) :
    (Req.create .statefulSet x).WritesStatefulSets P :=
  fun _ hx => Option.some.inj hx ▸ h

theorem writesStatefulSets_update {x : StatefulSet} (h : P x) :
    (Req.update .statefulSet x).WritesStatefulSets P :=
  fun _ hx => Option.some.inj hx ▸ h

end Req

namespace Reconciler

variable {P : Req → Prop}

/-! ## StatefulSets -/

theorem updateStatefulSetIfNeeded_all {live d : StatefulSet}
    (hu : P (.update .statefulSet { live with spec := d.spec })) :
    All P (updateStatefulSetIfNeeded live d) := by
  unfold updateStatefulSetIfNeeded
  split
  · exact .panic
  · exact .call hu fun _ _ => .pure _
  · exact .pure _

/-- The requests of `syncExisting live d`: those of the storage operations on the claims
    `c-a-*`, and at most the `Update` of `live` with `d`'s spec. -/
theorem syncExisting_all {live d : StatefulSet} {st : StorageSpec} {c a : String}
    (hd : P (.delete .statefulSet live.metadata.name)) (hl : P .listClaims)
    (hdc : ∀ n, hasPrefix n (claimPrefix c a) → P (.deleteClaim n))
    (huc : ∀ pvc : PersistentVolumeClaim, hasPrefix pvc.name (claimPrefix c a) →
      P (.updateClaim pvc))
    (hu : P (.update .statefulSet { live with spec := d.spec })) :
    All P (syncExisting live d st c a) := by
  unfold syncExisting
  split_ifs
  · exact recreate_all hd hl hdc
  · refine (resizePVCs_all hl huc).bind fun r => ?_
    rcases r with e | ⟨⟩
    · exact .pure _
    · exact updateStatefulSetIfNeeded_all hu
  · exact updateStatefulSetIfNeeded_all hu

/-- The requests of `syncStatefulSet name desired`: the `Get`, the `Create` of the descriptor,
    and those of `syncExisting` on an object fetched under `name`. -/
theorem syncStatefulSet_all {name : String} {desired : Option StatefulSet} {st : StorageSpec}
    {c a : String} (hg : P (.get .statefulSet name))
    (hc : ∀ d, desired = some d → P (.create .statefulSet d))
    (hex : ∀ live d, live.metadata.name = name → desired = some d →
      All P (syncExisting live d st c a)) :
    All P (syncStatefulSet name desired st c a) := by
  refine .call hg fun x hx => ?_
  rcases x with e | live
  · show All P (if e.isNotFound then _ else _)
    split
    · cases desired with
      | none => exact .panic
      | some d => exact .call (hc d rfl) fun _ _ => .pure _
    · exact .pure _
  · cases desired with
    | none => exact .panic
    | some d => exact hex live d hx rfl

/-! ## The application tier -/

namespace AppReconciler

variable {ms : MusicService}

theorem reconcileService_all (hg : P (.get .service ms.name))
    (hc : P (.create .service (buildAppService ms))) : All P (reconcileService ms) := by
  refine .call hg fun x _ => ?_
  rcases x with e | _
  · show All P (if e.isNotFound then _ else _)
    split
    · exact .call hc fun _ _ => .pure _
    · exact .pure _
  · exact .pure _

/-- The requests of the application autoscaler step: the `Get` of `name-autoscaler`, and the
    `Create`, `Update` (the fetched object with the descriptor's spec) or `Delete` of it. -/
theorem reconcileAutoscaler_all [QuantityParser]
    (hg : P (.get .autoscaler (ms.name ++ "-autoscaler")))
    (hc : ∀ h, buildAutoscaler ms = some h → P (.create .autoscaler h))
    (hu : ∀ (live h : HorizontalPodAutoscaler), live.metadata.name = ms.name ++ "-autoscaler" →
      buildAutoscaler ms = some h → P (.update .autoscaler { live with spec := h.spec }))
    (hd : P (.delete .autoscaler (ms.name ++ "-autoscaler"))) :
    All P (reconcileAutoscaler ms) := by
  unfold reconcileAutoscaler deleteAutoscalerIfExists
  split
  · refine .call hg fun x hx => ?_
    rcases x with e | live
    · exact .pure _
    · exact .call (by rw [← (hx : live.metadata.name = _)] at hd; exact hd) fun _ _ => .pure _
  · refine .call hg fun x hx => ?_
    rcases x with e | live
    · show All P (if e.isNotFound then _ else _)
      split
      · split
        · exact .panic
        · exact .call (hc _ ‹_›) fun _ _ => .pure _
      · exact .pure _
    · show All P (match buildAutoscaler ms with | none => _ | some _ => _)
      split
      · exact .panic
      · split
        · exact .call (hu live _ hx ‹_›) fun _ _ => .pure _
        · exact .pure _

end AppReconciler

/-! ## The database tier -/

namespace DatabaseReconciler

variable {ms : MusicService}

theorem writeBackIfUpdated_all {secret : Secret} {data : List (String × String)} {updated : Bool}
    (hu : P (.update .secret { secret with data := data })) :
    All P (writeBackIfUpdated secret data updated) := by
  unfold writeBackIfUpdated
  split
  · exact .call hu fun x _ => by rcases x with e | ⟨⟩ <;> exact .pure _
  · exact .pure _

theorem backfillReplicationSecret_all {secret : Secret} (hp : P (.generatePassword 16))
    (hu : ∀ data, P (.update .secret { secret with data := data })) :
    All P (backfillReplicationSecret secret) := by
  unfold backfillReplicationSecret
  dsimp only
  split_ifs <;> first
    | exact writeBackIfUpdated_all (hu _)
    | exact All.send_bind hp fun x _ => by
        rcases x with e | pw
        exacts [.pure _, writeBackIfUpdated_all (hu _)]

/-- The requests of `ensureReplicationSecret`: the `Get` of `name-db-replication`, a password,
    and a `Create` or `Update` of a Secret of that name. -/
theorem ensureReplicationSecret_all (hg : P (.get .secret (ms.name ++ "-db-replication")))
    (hp : P (.generatePassword 16))
    (hw : ∀ x : Secret, x.metadata.name = ms.name ++ "-db-replication" →
      P (.create .secret x) ∧ P (.update .secret x)) :
    All P (ensureReplicationSecret ms) := by
  unfold ensureReplicationSecret
  split
  · exact .pure _
  · refine .call hg fun x hx => ?_
    rcases x with e | secret
    · show All P (if !e.isNotFound then _ else _)
      split
      · exact .pure _
      · refine .call hp fun y _ => ?_
        rcases y with e | pw
        · exact .pure _
        · exact .call (hw _ rfl).1 fun z _ => by rcases z with e | ⟨⟩ <;> exact .pure _
    · exact backfillReplicationSecret_all hp fun d => (hw { secret with data := d } hx).2

theorem reconcileReplicas_all [QuantityParser] (hsecret : All P (ensureReplicationSecret ms))
    (hsync : All P (syncStatefulSet (ms.name ++ "-db-replica") (buildDatabaseReplicaStatefulSet ms)
      (databaseStorageSpec ms) "db-data" (ms.name ++ "-db-replica"))) :
    All P (reconcileReplicas ms) := by
  unfold reconcileReplicas
  split
  · exact .panic
  · split
    · exact .pure _
    · refine hsecret.bind fun r => ?_
      rcases r with e | _
      · exact .pure _
      · exact hsync

theorem reconcileReadService_all (hg : P (.get .service (ms.name ++ "-db-read")))
    (hc : P (.create .service (buildDatabaseReadService ms))) :
    All P (reconcileReadService ms) := by
  unfold reconcileReadService
  split
  · exact .panic
  · split
    · refine .call hg fun x _ => ?_
      rcases x with e | _
      · show All P (if e.isNotFound then _ else _)
        split
        · exact .call hc fun _ _ => .pure _
        · exact .pure _
      · exact .pure _
    · exact .pure _

theorem reconcileServices_all (hg : P (.get .service (ms.name ++ "-db-master")))
    (hc : P (.create .service (buildDatabaseMasterService ms)))
    (hread : All P (reconcileReadService ms)) : All P (reconcileServices ms) := by
  refine .call hg fun x _ => ?_
  rcases x with e | _
  · show All P (if e.isNotFound then _ else _)
    split
    · exact .call hc fun y _ => by rcases y with e | ⟨⟩; exacts [.pure _, hread]
    · exact .pure _
  · exact hread

/-- The requests of the replica autoscaler step: the `Get` of `name-db-replica-autoscaler`,
    and the `Create` or `Update` (the fetched object with the descriptor's spec) of it. -/
theorem reconcileAutoscaler_all [QuantityParser]
    (hg : P (.get .autoscaler (ms.name ++ "-db-replica-autoscaler")))
    (hc : ∀ h, buildDatabaseReplicaAutoscaler ms = some h → P (.create .autoscaler h))
    (hu : ∀ (live h : HorizontalPodAutoscaler),
      live.metadata.name = ms.name ++ "-db-replica-autoscaler" →
      buildDatabaseReplicaAutoscaler ms = some h →
        P (.update .autoscaler { live with spec := h.spec })) :
    All P (reconcileAutoscaler ms) := by
  unfold reconcileAutoscaler
  split
  · exact .panic
  · split
    · exact .pure _
    · refine .call hg fun x hx => ?_
      rcases x with e | live
      · show All P (if e.isNotFound then _ else _)
        split
        · split
          · exact .panic
          · exact .call (hc _ ‹_›) fun _ _ => .pure _
        · exact .pure _
      · show All P (match buildDatabaseReplicaAutoscaler ms with | none => _ | some _ => _)
        split
        · exact .panic
        · split
          · exact .call (hu live _ hx ‹_›) fun _ _ => .pure _
          · exact .pure _

end DatabaseReconciler

end Reconciler

/-! ## The status manager -/

namespace Status

variable {n : String} {ms : MusicService}

theorem setStatusCondition_all (h : ms.name = n) (type status reason message : String) :
    AllRet (Req.IsStatusRequest n) (fun ms' : MusicService => ms'.name = n)
      (setStatusCondition ms type status reason message) :=
  .call trivial fun _ _ => .pure h

namespace Manager

theorem updateReconciled_all (h : ms.name = n) :
    AllRet (Req.IsStatusRequest n) (fun p : MusicService × _ => p.1.name = n)
      (updateReconciled ms) :=
  (setStatusCondition_all h ..).bind fun _ h' => .call trivial fun _ _ =>
    .call (by exact h') fun _ _ => .pure (by exact h')

theorem updateError_all (h : ms.name = n) (reason message : String) :
    AllRet (Req.IsStatusRequest n) (fun p : MusicService × _ => p.1.name = n)
      (updateError ms reason message) :=
  .call trivial fun _ _ => (setStatusCondition_all (by exact h) ..).bind fun _ h' =>
    .call h' fun _ _ => .pure h'

theorem listPVCsByPrefix_all (c a : String) :
    AllRet (Req.IsStatusRequest n) (fun _ => True) (listPVCsByPrefix c a) :=
  AllRet.send_bind trivial fun x _ => by rcases x with e | l <;> exact .pure trivial

theorem setAvailability_all (h : ms.name = n) (ready replicas : Int) :
    AllRet (Req.IsStatusRequest n) (fun ms' : MusicService => ms'.name = n)
      (setAvailability ms ready replicas) := by
  unfold setAvailability
  split_ifs <;> exact setStatusCondition_all (by exact h) ..

section Parser

variable [QuantityParser]

theorem updateStorageWarnings_all (h : ms.name = n) (sts : StatefulSet) (c a size type : String) :
    AllRet (Req.IsStatusRequest n) (fun ms' : MusicService => ms'.name = n)
      (updateStorageWarnings ms sts c a size type) := by
  unfold updateStorageWarnings
  split
  · exact setStatusCondition_all h ..
  · refine (listPVCsByPrefix_all c a).bind fun r _ => ?_
    rcases r with e | l
    · exact setStatusCondition_all h ..
    · dsimp only
      split <;> exact setStatusCondition_all h ..

theorem updateFromAppStatefulSet_all (h : ms.name = n) (sts : StatefulSet) :
    AllRet (Req.IsStatusRequest n) (fun p : MusicService × _ => p.1.name = n)
      (updateFromAppStatefulSet ms sts) := by
  unfold updateFromAppStatefulSet
  split
  · exact .panic
  · exact (setAvailability_all (by exact h) ..).bind fun _ h' =>
      (updateStorageWarnings_all h' ..).bind fun _ h'' => .call h'' fun _ _ => .pure h''

theorem updateMasterStatus_all (h : ms.name = n) :
    AllRet (Req.IsStatusRequest n) (fun ms' : MusicService => ms'.name = n)
      (updateMasterStatus ms) := by
  refine AllRet.send_bind (.inr (.inl (h ▸ rfl))) fun x _ => ?_
  rcases x with e | sts
  · exact .pure h
  · dsimp only
    split
    · exact .panic
    · split
      · exact updateStorageWarnings_all (by exact h) ..
      · exact .pure (by exact h)

omit [QuantityParser] in
theorem updateReplicaStatus_all (h : ms.name = n) :
    AllRet (Req.IsStatusRequest n) (fun ms' : MusicService => ms'.name = n)
      (updateReplicaStatus ms) := by
  unfold updateReplicaStatus
  split
  · exact .panic
  · split
    · refine AllRet.send_bind (.inr (.inr (h ▸ rfl))) fun x _ => ?_
      rcases x with e | sts
      · dsimp only
        split
        · exact setStatusCondition_all (by exact h) ..
        · exact .pure h
      · exact AllRet.send_bind trivial fun _ _ => setStatusCondition_all (by exact h) ..
    · exact .pure h

theorem updateDatabase_all (h : ms.name = n) :
    AllRet (Req.IsStatusRequest n) (fun p : MusicService × _ => p.1.name = n)
      (updateDatabase ms) := by
  unfold updateDatabase
  refine (updateMasterStatus_all ?_).bind fun _ h' => (updateReplicaStatus_all h').bind
    fun _ h'' => .call h'' fun _ _ => .pure h''
  split <;> exact h

end Parser

end Manager

end Status

/-! ## The pass -/

namespace Controller

open Status Manager

variable {P : Req → Prop}

theorem runSteps_all : ∀ steps : List Step, (∀ st ∈ steps, All P st.2) → All P (runSteps steps)
  | [], _ => .pure _
  | (_, step) :: rest, h => (h _ (List.mem_cons_self _ _)).bind fun r => by
      rcases r with e | ⟨⟩
      · exact .pure _
      · exact runSteps_all rest fun st hst => h st (List.mem_cons_of_mem _ hst)

theorem failPass_all {n : String} {ms : MusicService} (h : ms.name = n) (reason : String)
    (e : ApiError) : All (Req.IsStatusRequest n) (failPass ms reason e) :=
  (updateError_all h ..).bind_all fun _ _ => .pure _

@[simp] theorem initDatabaseStatus_name (ms : MusicService) :
    (initDatabaseStatus ms).name = ms.name := by
  unfold initDatabaseStatus; split <;> rfl

@[simp] theorem initDatabaseStatus_spec (ms : MusicService) :
    (initDatabaseStatus ms).spec = ms.spec := by
  unfold initDatabaseStatus; split <;> rfl

section Pass

variable [QuantityParser]

theorem syncAppStatus_all {n : String} {ms : MusicService} (h : ms.name = n) :
    AllRet (Req.IsStatusRequest n) (fun p : MusicService × _ => p.1.name = n) (syncAppStatus ms) :=
  AllRet.send_bind (.inl h) fun x _ => by
    rcases x with e | sts
    exacts [.pure h, updateFromAppStatefulSet_all h _]

theorem syncDatabaseStatus_all {n : String} {ms : MusicService} (h : ms.name = n) :
    AllRet (Req.IsStatusRequest n) (fun p : MusicService × _ => p.1.name = n)
      (syncDatabaseStatus ms) := by
  unfold syncDatabaseStatus
  split
  · exact updateDatabase_all h
  · exact .pure h

theorem syncStatus_all {n : String} {ms : MusicService} (h : ms.name = n) :
    All (Req.IsStatusRequest n) (syncStatus ms) := by
  refine (syncAppStatus_all h).bind_all fun ⟨ms, r⟩ h => ?_
  rcases r with e | ⟨⟩
  · exact .pure _
  refine (syncDatabaseStatus_all h).bind_all fun ⟨ms, r⟩ h => ?_
  rcases r with e | ⟨⟩
  · exact .pure _
  refine (updateReconciled_all h).bind_all fun ⟨ms, r⟩ _ => ?_
  rcases r with e | ⟨⟩ <;> exact .pure _

/-- The application steps: the Service, the StatefulSet, the autoscaler. -/
theorem mem_appSteps {ms : MusicService} {st : Step} (h : st ∈ appSteps ms) :
    st.2 = AppReconciler.reconcileService ms ∨ st.2 = AppReconciler.reconcileStatefulSet ms ∨
      st.2 = AppReconciler.reconcileAutoscaler ms := by
  simp only [appSteps, List.mem_cons, List.mem_singleton, List.not_mem_nil, or_false] at h
  rcases h with rfl | rfl | rfl <;> simp

/-- The database steps, for an enabled database only: the Galera pair under high availability,
    the master / replicas / Services triple otherwise, and the replica autoscaler after either. -/
theorem mem_databaseSteps [GaleraReconciler] {ms : MusicService} {st : Step}
    (h : st ∈ databaseSteps ms) :
    databaseEnabled ms = true ∧
      ((databaseHAEnabled ms = true ∧ (st.2 = GaleraReconciler.reconcileGalera ms ∨
          st.2 = GaleraReconciler.reconcileGaleraServices ms)) ∨
        (databaseHAEnabled ms = false ∧ (st.2 = DatabaseReconciler.reconcileMaster ms ∨
          st.2 = DatabaseReconciler.reconcileReplicas ms ∨
          st.2 = DatabaseReconciler.reconcileServices ms)) ∨
        st.2 = DatabaseReconciler.reconcileAutoscaler ms) := by
  unfold databaseSteps at h
  split_ifs at h with he hha <;>
    simp only [List.mem_append, List.mem_cons, List.mem_singleton, List.not_mem_nil,
      or_false] at h
  · rcases h with (rfl | rfl) | rfl <;> simp [he, hha]
  · rcases h with (rfl | rfl | rfl) | rfl <;> simp [he, hha]

/-- The requests of the pass for a live object: those of its steps, for an object of the same
    name and spec, and status-manager requests. -/
theorem reconcileLive_all [GaleraReconciler] {ms : MusicService}
    (hsteps : ∀ ms' : MusicService, ms'.name = ms.name → ms'.spec = ms.spec →
      ∀ st ∈ appSteps ms' ++ databaseSteps ms', All P st.2)
    (hs : ∀ r, r.IsStatusRequest ms.name → P r) : All P (reconcileLive ms) := by
  refine (runSteps_all _ fun st hst => hsteps _ rfl rfl st (List.mem_append_left _ hst)).bind
    fun r => ?_
  rcases r with _ | ⟨reason, e⟩
  · refine (runSteps_all _ fun st hst =>
      hsteps _ (by simp) (by simp) st (List.mem_append_right _ hst)).bind fun r => ?_
    rcases r with _ | ⟨reason, e⟩
    · exact (syncStatus_all (by simp)).mono hs
    · exact (failPass_all (by simp) ..).mono hs
  · exact (failPass_all rfl ..).mono hs

/-- The requests of the pass for a fetched object: an `Update` of it (the finalizer), and those
    of `reconcileLive` for an object of the same name and spec. -/
theorem reconcileObject_all [GaleraReconciler] {ms : MusicService}
    (hu : ∀ ms' : MusicService, ms'.name = ms.name → P (.update .musicService ms'))
    (hlive : ∀ ms' : MusicService, ms'.name = ms.name → ms'.spec = ms.spec →
      All P (reconcileLive ms')) :
    All P (reconcileObject ms) := by
  unfold reconcileObject
  split_ifs
  · exact All.send_bind (hu _ rfl) fun y _ => by rcases y with e | ⟨⟩ <;> exact .pure _
  · exact .pure _
  · exact hlive _ rfl rfl
  · exact All.send_bind (hu _ rfl) fun y _ => by
      rcases y with e | ⟨⟩
      exacts [.pure _, hlive _ rfl rfl]

/-- The requests of a pass: the `Get` of the object, then those of the pass for the object
    fetched. -/
theorem reconcile_all [GaleraReconciler] {name : String} (hg : P (.get .musicService name))
    (hobj : ∀ ms : MusicService, ms.name = name → All P (reconcileObject ms)) :
    All P (reconcile name) :=
  All.send_bind hg fun x hx => by
    rcases x with e | ms
    exacts [.pure _, hobj _ hx]

/-- The requests of every run of a pass from store `s`: the `Get`, then those of the pass for
    the object stored under `name`. -/
theorem reconcile_wp [GaleraReconciler] {m : Bool} {name : String} (s : Store)
    (hg : P (.get .musicService name))
    (hobj : ∀ ms : MusicService, s.musicServices name = some ms →
      All P (reconcileObject { ms with name := name })) :
    Wp m (reconcile name) (fun _ _ tr => ∀ r ∈ tr, P r) s := by
  have hpure : ∀ (x : Except ApiError Result) (s' : Store),
      Wp m (Prog.pure x) (fun _ _ tr => ∀ r ∈ .get .musicService name :: tr, P r) s' :=
    fun _ _ => by simpa using hg
  simp only [reconcile, getObj, send, bind_eq, call_bind, Prog.pure_bind]
  refine Wp.get_of (fun _ => hpure _ _) fun ms h =>
    (All.wp (hobj ms h)).mono fun _ _ tr htr r hr => ?_
  rcases List.mem_cons.mp hr with rfl | hr
  exacts [hg, htr r hr]

end Pass

end Controller

end MusicOperator
