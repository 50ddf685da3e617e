import MusicOperator.Properties.Secrets
import MusicOperator.Properties.StorageScope

/-!
  What one reconcile step does to its own objects against a store that never fails.

  Every step owns a few keys and claim names (its region, see `Properties/Footprint.lean`) and
  reads its objects there: its view of the store. Against the exact store (`Wp false`) a step
  moves its view through three stages:

  * fresh: what an API server can hold — a StatefulSet with its replica count set (the server
    defaults it), claims of distinct names — and a descriptor the builder can produce;
  * near: settled, or the StatefulSet absent (`Recreate` has just deleted it);
  * settled: every object the step manages present, and nothing left for its diff to update.

  From a fresh view a step returns `nil` and leaves a near one; from a near one a settled one;
  from a settled one it returns `nil`, sends no write and leaves the store as it was (`Quiet`).
  One run suffices for every object but a StatefulSet whose storage request changed under
  `Recreate`: the first run deletes it, the second creates it. A Service is created when absent
  and never compared, so a settled Service is one that exists.
-/

namespace MusicOperator

open Prog Builder Reconciler

/-! ## Views and quiet runs -/

/-- `s'` equals `s` inside `R`: every key of `R` holds the same object, and the claims of `R`
    are the same list. -/
def Store.AgreeIn (R : Region) (s s' : Store) : Prop :=
  (∀ k n, R.keys ⟨k, n⟩ → s'.lookup k n = s.lookup k n) ∧
    s'.claims.filter (R.claims ·.name) = s.claims.filter (R.claims ·.name)

/-- No key and no claim name lies in both regions. -/
def Region.Disjoint (R R' : Region) : Prop :=
  (∀ k, R.keys k → ¬R'.keys k) ∧ ∀ n, R.claims n = true → R'.claims n = false

theorem Region.Disjoint.symm {R R' : Region} (h : R.Disjoint R') : R'.Disjoint R :=
  ⟨fun k h' hk => h.1 k hk h', fun n h' => by
    cases hn : R.claims n
    · rfl
    · simp [h.2 n hn] at h'⟩

/-- A run that stays outside `R'` keeps everything inside a region disjoint from it. -/
theorem Store.Agree.agreeIn {R R' : Region} {s s' : Store} (h : Store.Agree R' s s')
    (hd : R.Disjoint R') : Store.AgreeIn R s s' :=
  ⟨fun k n hk => h.1 k n (hd.1 _ hk), h.claims_filter hd.2⟩

/-- A step's run from `s` that returns `nil`, sends no write and ends in `s`. -/
def Quiet (s : Store) (r : Option (Except ApiError Unit)) (s' : Store) (tr : List Req) : Prop :=
  r = some (.ok ()) ∧ s' = s ∧ ∀ x ∈ tr, x.isWrite = false

/-- The claims whose name starts with `pfx`, in store order. -/
def prefixClaims (s : Store) (pfx : String) : List PersistentVolumeClaim :=
  s.claims.filter (hasPrefix ·.name pfx)

@[simp] theorem prefixClaims_put (s : Store) (k : Kind) (n : String) (x : Option k.Obj)
    (pfx : String) : prefixClaims (s.put k n x) pfx = prefixClaims s pfx := by
  simp only [prefixClaims, Store.claims_put]

/-- The claims of a region of one prefix are that prefix's claims. -/
theorem Store.AgreeIn.prefixClaims {keys : List Key} {pfx : String} {s s' : Store}
    (h : Store.AgreeIn (.ofKeys keys [pfx]) s s') : prefixClaims s' pfx = prefixClaims s pfx := by
  simpa [MusicOperator.prefixClaims] using h.2

theorem Store.AgreeIn.lookup {keys : List Key} {pfxs : List String} {s s' : Store}
    (h : Store.AgreeIn (.ofKeys keys pfxs) s s') {k : Kind} {n : String} (hk : ⟨k, n⟩ ∈ keys) :
    s'.lookup k n = s.lookup k n :=
  h.1 k n hk

/-! ## The diffs against an equal spec -/

/-- A claim at least `size` large, or without a size. -/
def Grown (size : Quantity) (c : PersistentVolumeClaim) : Prop :=
  ∀ q, c.storage = some q → size ≤ q

@[simp] theorem statefulSetNeedsUpdate_withName [QuantityParser] (n : String) (x d : StatefulSet) :
    statefulSetNeedsUpdate (Kind.withName .statefulSet n x) d = statefulSetNeedsUpdate x d := rfl

@[simp] theorem storageSizeChanged_withName (n : String) (x d : StatefulSet) :
    storageSizeChanged (Kind.withName .statefulSet n x) d = storageSizeChanged x d := rfl

theorem any_zip_self {α : Type} {f : α × α → Bool} (hf : ∀ a, f (a, a) = false) :
    ∀ l : List α, (l.zip l).any f = false
  | [] => rfl
  | a :: l => by simp only [List.zip_cons_cons, List.any_cons, hf, any_zip_self hf l, Bool.or_self]

/-- The diff finds nothing to update in a StatefulSet carrying the descriptor's spec. -/
theorem statefulSetNeedsUpdate_of_spec [QuantityParser] {live d : StatefulSet}
    (h : live.spec = d.spec) (hr : d.spec.replicas.isSome) :
    statefulSetNeedsUpdate live d = some false := by
  obtain ⟨r, hr⟩ := Option.isSome_iff_exists.mp hr
  have zip := any_zip_self (f := fun p : Container × Container => containerNeedsUpdate p.1 p.2)
    (fun c => by simp [containerNeedsUpdate]) d.spec.template.spec.containers
  simp only [statefulSetNeedsUpdate, h, hr, zip, bne_self_eq_false, Bool.or_false]

theorem storageSizeChanged_of_spec {live d : StatefulSet} (h : live.spec = d.spec) :
    storageSizeChanged live d = false := by
  unfold storageSizeChanged storageRequestFromStatefulSet
  rw [h]
  split <;> simp_all

/-- Both replica counts set: the diff answers. -/
theorem statefulSetNeedsUpdate_isSome [QuantityParser] {live d : StatefulSet}
    (hl : live.spec.replicas.isSome) (hd : d.spec.replicas.isSome) :
    ∃ b, statefulSetNeedsUpdate live d = some b := by
  obtain ⟨r, hr⟩ := Option.isSome_iff_exists.mp hl
  obtain ⟨r', hr'⟩ := Option.isSome_iff_exists.mp hd
  simp [statefulSetNeedsUpdate, hr, hr']

theorem metricsNeedUpdate_zip_self : ∀ l : List MetricSpec, metricsNeedUpdate (l.zip l) = false
  | [] => rfl
  | m :: l => by
    simp only [List.zip_cons_cons, metricsNeedUpdate, bne_self_eq_false, Bool.false_eq_true,
      ite_false]
    rcases m.resource with _ | r
    · rfl
    · simp only [bne_self_eq_false, Bool.false_eq_true, ite_false]
      rcases r.target.averageUtilization with _ | u
      · rfl
      · simpa only [bne_self_eq_false, Bool.false_eq_true, ite_false] using
          metricsNeedUpdate_zip_self l

/-- The autoscaler diff finds nothing to update in an autoscaler carrying the descriptor's
    spec. -/
theorem autoscalerNeedsUpdate_of_spec {h d : HorizontalPodAutoscaler} (hs : h.spec = d.spec) :
    autoscalerNeedsUpdate h d = false := by
  unfold autoscalerNeedsUpdate
  rw [hs]
  rcases d.spec.minReplicas with _ | m <;> simp [metricsNeedUpdate_zip_self]

/-! ## The claim loops against the exact store -/

/-- With every claim grown, the resize loop sends nothing. -/
theorem resizePVCsLoop_grown {size : Quantity} :
    ∀ {l : List PersistentVolumeClaim}, (∀ c ∈ l, Grown size c) →
      resizePVCsLoop size l = .pure (.ok ())
  | [], _ => rfl
  | c :: l, h => by
    have rest := resizePVCsLoop_grown fun x hx => h x (List.mem_cons_of_mem _ hx)
    unfold resizePVCsLoop
    split
    · exact rest
    · rename_i q hq
      simp [h c (List.mem_cons_self _ _) q hq, rest]

/-- The resize loop grows every claim of its list: from a store where each claim of `pfx` is
    grown or listed, and each listed name is stored, it returns `nil` with every claim of `pfx`
    grown, and no object changed. -/
theorem resizePVCsLoop_grows (size : Quantity) (pfx : String) :
    ∀ (l : List PersistentVolumeClaim) (s : Store), (∀ c ∈ l, ∃ x ∈ s.claims, x.name = c.name) →
      (∀ x ∈ s.claims, hasPrefix x.name pfx = true → Grown size x ∨ x ∈ l) →
      Wp false (resizePVCsLoop size l) (fun r s' _ => r = some (.ok ()) ∧
        (∀ k n, s'.lookup k n = s.lookup k n) ∧ ∀ x ∈ prefixClaims s' pfx, Grown size x) s
  | [], s, _, hg => by
    refine ⟨rfl, fun _ _ => rfl, fun x hx => ?_⟩
    obtain ⟨hx, hp⟩ := List.mem_filter.mp hx
    exact (hg x hx hp).resolve_right (List.not_mem_nil x)
  | c :: l, s, hn, hg => by
    have keep : ∀ x ∈ s.claims, hasPrefix x.name pfx = true → x ≠ c → Grown size x ∨ x ∈ l :=
      fun x hx hp hne => (hg x hx hp).imp_right fun h => (List.mem_cons.mp h).resolve_left hne
    have skip (hc : Grown size c) : Wp false (resizePVCsLoop size l) (fun r s' _ => r = some (.ok ()) ∧
        (∀ k n, s'.lookup k n = s.lookup k n) ∧ ∀ x ∈ prefixClaims s' pfx, Grown size x) s :=
      resizePVCsLoop_grows size pfx l s (fun d hd => hn d (List.mem_cons_of_mem _ hd))
        fun x hx hp => if e : x = c then .inl (e ▸ hc) else keep x hx hp e
    unfold resizePVCsLoop
    split
    · rename_i hc
      exact skip fun q hq => nomatch hc.symm.trans hq
    · rename_i q hq
      split_ifs with hle
      · exact skip fun q' hq' => by cases hq.symm.trans hq'; exact hle
      simp only [updateClaim, send, bind_eq, call_bind, pure_bind, Wp.updateClaim, Store.updateClaim]
      refine ⟨nofun, ?_⟩
      obtain ⟨y, hy, hyn⟩ := hn c (List.mem_cons_self _ _)
      rw [if_pos (List.any_eq_true.mpr ⟨y, hy, by simp [hyn]⟩)]
      refine (resizePVCsLoop_grows size pfx l _ (fun d hd => ?_) fun x hx hp => ?_).mono
        fun r s' _ ⟨hr, hs, hgr⟩ => ⟨hr, fun k n => (hs k n).trans (by cases k <;> rfl), hgr⟩
      · obtain ⟨z, hz, hzn⟩ := hn d (List.mem_cons_of_mem _ hd)
        refine ⟨if z.name = c.name then { c with storage := some size } else z,
          List.mem_map.mpr ⟨z, hz, rfl⟩, ?_⟩
        split_ifs with e
        exacts [e.symm.trans hzn, hzn]
      · obtain ⟨z, hz, rfl⟩ := List.mem_map.mp hx
        split_ifs at hp ⊢ with e
        · exact .inl fun q' hq' => le_of_eq (Option.some.inj hq')
        · exact keep z hz hp fun h => e (h ▸ rfl)

/-- The deletion loop, on claims of distinct names that are all stored, deletes them all and
    returns `nil`. -/
theorem deletePVCsLoop_ok :
    ∀ (l : List PersistentVolumeClaim) (s : Store), (l.map (·.name)).Nodup →
      (∀ c ∈ l, ∃ x ∈ s.claims, x.name = c.name) →
      Wp false (deletePVCsLoop l) (fun r _ _ => r = some (.ok ())) s
  | [], _, _, _ => rfl
  | c :: l, s, hd, hn => by
    simp only [deletePVCsLoop, deleteClaim, send, bind_eq, call_bind, pure_bind, Wp.deleteClaim,
      Store.deleteClaim]
    refine ⟨nofun, ?_⟩
    obtain ⟨y, hy, hyn⟩ := hn c (List.mem_cons_self _ _)
    rw [if_pos (List.any_eq_true.mpr ⟨y, hy, by simp [hyn]⟩)]
    obtain ⟨hc, hl⟩ := List.nodup_cons.mp hd
    refine deletePVCsLoop_ok l _ hl fun d hd' => ?_
    obtain ⟨z, hz, hzn⟩ := hn d (List.mem_cons_of_mem _ hd')
    have : d.name ≠ c.name := fun e => hc (List.mem_map.mpr ⟨d, hd', e⟩)
    exact ⟨z, List.mem_filter.mpr ⟨hz, by simp [hzn, this]⟩, hzn⟩

/-- The resize of a tier grows all its claims to the descriptor's request, and changes no object. -/
theorem resizePVCs_grows (c a : String) (d : StatefulSet) (s : Store) :
    Wp false (resizePVCs c a d) (fun r s' _ => r = some (.ok ()) ∧
      (∀ k n, s'.lookup k n = s.lookup k n) ∧ ∀ size, storageRequestFromStatefulSet d = some size →
        ∀ x ∈ prefixClaims s' (claimPrefix c a), Grown size x) s := by
  unfold resizePVCs
  split
  · rename_i hnone
    exact ⟨rfl, fun _ _ => rfl, fun _ h => by simp [hnone] at h⟩
  · rename_i size hsize
    simp only [listPVCsByPrefix, listClaims, send, bind_eq, call_bind, Prog.pure_bind,
      Wp.listClaims, pure_eq]
    refine ⟨nofun, ?_⟩
    refine (resizePVCsLoop_grows size _ _ s (fun x hx => ⟨x, (List.mem_filter.mp hx).1, rfl⟩)
      fun x hx hp => .inr (List.mem_filter.mpr ⟨hx, hp⟩)).mono fun r s' _ ⟨hr, hs, hg⟩ =>
        ⟨hr, hs, fun size' h => Option.some.inj (hsize.symm.trans h) ▸ hg⟩

/-- A recreate, from a store holding the StatefulSet and claims of distinct names in the tier,
    returns `nil`. -/
theorem recreate_ok {sts : StatefulSet} {c a : String} {s : Store}
    (hl : (s.statefulSets sts.metadata.name).isSome)
    (hd : ((prefixClaims s (claimPrefix c a)).map (·.name)).Nodup) :
    Wp false (recreateStatefulSetStorage sts c a) (fun r _ _ => r = some (.ok ())) s := by
  obtain ⟨live, hl⟩ := Option.isSome_iff_exists.mp hl
  simp only [recreateStatefulSetStorage, deletePVCsByPrefix, listPVCsByPrefix, deleteObj,
    listClaims, send, bind_eq, call_bind, Prog.pure_bind, Wp.delete, Wp.listClaims, Store.delete,
    Store.lookup, hl, pure_eq, Store.claims_put]
  exact ⟨nofun, nofun, deletePVCsLoop_ok _ _ hd fun x hx => ⟨x, (List.mem_filter.mp hx).1, rfl⟩⟩

/-! ## StatefulSets -/

section StatefulSet

variable [QuantityParser]

/-- A StatefulSet settled on the descriptor: the descriptor built, the StatefulSet present with
    nothing for the diff to update, and its storage request unchanged or, under `Resize`, every
    claim of the tier grown to it. -/
def StatefulSetSettled (desired : Option StatefulSet) (storage : StorageSpec)
    (live? : Option StatefulSet) (claims : List PersistentVolumeClaim) : Prop :=
  ∃ d live, desired = some d ∧ live? = some live ∧ statefulSetNeedsUpdate live d = some false ∧
    (storageSizeChanged live d = false ∨ storageUpdatePolicy storage ≠ "Recreate" ∧
      ∀ size, storageRequestFromStatefulSet d = some size → ∀ c ∈ claims, Grown size c)

/-- Settled, or absent with the descriptor built. -/
def StatefulSetNear (desired : Option StatefulSet) (storage : StorageSpec)
    (live? : Option StatefulSet) (claims : List PersistentVolumeClaim) : Prop :=
  StatefulSetSettled desired storage live? claims ∨ desired.isSome ∧ live? = none

/-- The descriptor built; the StatefulSet, if present, with its replica count set; the tier's
    claims of distinct names. -/
def StatefulSetFresh (desired : Option StatefulSet) (live? : Option StatefulSet)
    (claims : List PersistentVolumeClaim) : Prop :=
  desired.isSome ∧ (∀ live, live? = some live → live.spec.replicas.isSome) ∧
    (claims.map (·.name)).Nodup

variable {name c a : String} {desired : Option StatefulSet} {storage : StorageSpec} {s : Store}

/-- The diff-and-update step settles a present StatefulSet, given the storage branch it comes
    from. -/
theorem updateStatefulSetIfNeeded_settles {live d : StatefulSet} (pfx : String)
    (hl : s.statefulSets name = some live) (hlr : live.spec.replicas.isSome)
    (hdr : d.spec.replicas.isSome)
    (hsz : storageSizeChanged live d = false ∨ storageUpdatePolicy storage ≠ "Recreate" ∧
      ∀ size, storageRequestFromStatefulSet d = some size → ∀ x ∈ prefixClaims s pfx, Grown size x) :
    Wp false (updateStatefulSetIfNeeded (Kind.withName .statefulSet name live) d)
      (fun r s' _ => r = some (.ok ()) ∧
        StatefulSetSettled (some d) storage (s'.statefulSets name) (prefixClaims s' pfx)) s := by
  obtain ⟨b, hb⟩ := statefulSetNeedsUpdate_isSome hlr hdr
  cases b
  · simp only [updateStatefulSetIfNeeded, statefulSetNeedsUpdate_withName, hb, pure_eq,
      Wp.pure_iff]
    exact ⟨trivial, d, live, rfl, hl, hb, hsz⟩
  · simp only [updateStatefulSetIfNeeded, statefulSetNeedsUpdate_withName, hb, updateObj, send,
      Wp.update, Store.update, Kind.nameOf_statefulSet, Store.lookup]
    refine ⟨nofun, ?_⟩
    simp only [show (Kind.withName .statefulSet name live).metadata.name = name from rfl, hl]
    exact ⟨rfl, d, Store.Kind.keepServerFields .statefulSet live
      { (Kind.withName .statefulSet name live : StatefulSet) with spec := d.spec }, rfl,
      by simp [Store.put], statefulSetNeedsUpdate_of_spec rfl hdr,
      .inl (storageSizeChanged_of_spec rfl)⟩

/-- From an absent StatefulSet, the step creates the descriptor. -/
theorem syncStatefulSet_create
    (hd : ∀ d, desired = some d → d.metadata.name = name ∧ d.spec.replicas.isSome)
    (hdes : desired.isSome) (hl : s.statefulSets name = none) :
    Wp false (syncStatefulSet name desired storage c a) (fun r s' _ => r = some (.ok ()) ∧
      StatefulSetSettled desired storage (s'.statefulSets name)
        (prefixClaims s' (claimPrefix c a))) s := by
  obtain ⟨d, rfl⟩ := Option.isSome_iff_exists.mp hdes
  obtain ⟨hn, hr⟩ := hd d rfl
  simp only [syncStatefulSet, getObj, send, bind_eq, call_bind, Prog.pure_bind, Wp.get, Store.get,
    Store.lookup, hl, Store.notFound, ApiError.isNotFound, ite_true, createObj, Wp.create,
    Store.create, Kind.nameOf_statefulSet, hn]
  refine ⟨nofun, ?_⟩
  exact ⟨nofun, rfl, d, d, rfl, by simp [Store.put], statefulSetNeedsUpdate_of_spec rfl hr,
    .inl (storageSizeChanged_of_spec rfl)⟩

omit [QuantityParser] in
/-- From a settled StatefulSet the step is quiet: a `Get`, and for a pending `Resize` the claim
    `List`. -/
theorem syncStatefulSet_quiet
    (h : StatefulSetSettled desired storage (s.statefulSets name)
      (prefixClaims s (claimPrefix c a))) :
    Wp false (syncStatefulSet name desired storage c a) (Quiet s) s := by
  obtain ⟨d, live, rfl, hl, hu, hsz⟩ := h
  have upd : updateStatefulSetIfNeeded (Kind.withName .statefulSet name live) d = .pure (.ok ()) := by
    simp only [updateStatefulSetIfNeeded, statefulSetNeedsUpdate_withName, hu, pure_eq]
  simp only [syncStatefulSet, getObj, send, bind_eq, call_bind, Prog.pure_bind, Wp.get, Store.get,
    Store.lookup, hl, syncExisting, storageSizeChanged_withName]
  refine ⟨nofun, ?_⟩
  rcases hsz with hsz | ⟨hpol, hg⟩
  · simp [hsz, upd, Quiet]
  simp only [if_neg hpol]
  split_ifs
  · unfold resizePVCs
    split
    · simp [upd, Quiet]
    · rename_i size hsize
      have grown := resizePVCsLoop_grown (hg size hsize)
      simp only [prefixClaims] at grown
      simp [listPVCsByPrefix, listClaims, send, grown, upd, Quiet]
  · simp [upd, Quiet]

/-- From a settled StatefulSet, or an absent one, the step leaves a settled one. -/
theorem syncStatefulSet_arrive
    (hd : ∀ d, desired = some d → d.metadata.name = name ∧ d.spec.replicas.isSome)
    (h : StatefulSetNear desired storage (s.statefulSets name) (prefixClaims s (claimPrefix c a))) :
    Wp false (syncStatefulSet name desired storage c a) (fun r s' _ => r = some (.ok ()) ∧
      StatefulSetSettled desired storage (s'.statefulSets name)
        (prefixClaims s' (claimPrefix c a))) s := by
  rcases h with h | ⟨hdes, hl⟩
  · exact (syncStatefulSet_quiet h).mono fun _ _ _ ⟨hr, hs, _⟩ => ⟨hr, hs ▸ h⟩
  · exact syncStatefulSet_create hd hdes hl

/-- From a fresh StatefulSet the step leaves a settled one, or, when the storage request changed
    under `Recreate`, an absent one. -/
theorem syncStatefulSet_approach
    (hd : ∀ d, desired = some d → d.metadata.name = name ∧ d.spec.replicas.isSome)
    (h : StatefulSetFresh desired (s.statefulSets name) (prefixClaims s (claimPrefix c a))) :
    Wp false (syncStatefulSet name desired storage c a) (fun r s' _ => r = some (.ok ()) ∧
      StatefulSetNear desired storage (s'.statefulSets name)
        (prefixClaims s' (claimPrefix c a))) s := by
  obtain ⟨hdes, hrep, hnd⟩ := h
  cases hl : s.statefulSets name with
  | none => exact (syncStatefulSet_create hd hdes hl).mono fun _ _ _ ⟨hr, h⟩ => ⟨hr, .inl h⟩
  | some live =>
    obtain ⟨d, rfl⟩ := Option.isSome_iff_exists.mp hdes
    have hdr := (hd d rfl).2
    have hlr := hrep live hl
    simp only [syncStatefulSet, getObj, send, bind_eq, call_bind, Prog.pure_bind, Wp.get,
      Store.get, Store.lookup, hl, syncExisting, storageSizeChanged_withName]
    refine ⟨nofun, ?_⟩
    split_ifs with hc hpol
    · refine ((recreate_ok (by show (s.statefulSets name).isSome; simp [hl]) hnd).and
        (recreate_wp _ c a s)).mono fun r s' _ ⟨hr, h⟩ => ⟨hr, .inr ⟨rfl, (h hr).2⟩⟩
    · refine Wp.bind_of (resizePVCs_grows c a d s) (fun r s₁ _ ⟨hr, hobj, hg⟩ => ?_)
        fun _ _ h => nomatch h.1
      cases hr
      exact (updateStatefulSetIfNeeded_settles _
        ((hobj .statefulSet name).trans hl) hlr hdr (.inr ⟨hpol, hg⟩)).mono
          fun _ _ _ ⟨hr, h⟩ => ⟨hr, .inl h⟩
    · exact (updateStatefulSetIfNeeded_settles _ hl hlr hdr
        (.inl (by simpa using hc))).mono fun _ _ _ ⟨hr, h⟩ => ⟨hr, .inl h⟩

end StatefulSet

/-! ## The application Service and autoscaler -/

section App

variable {ms : MusicService} {s : Store}

/-- The application Service step creates the Service when it is absent. -/
theorem reconcileService_settles (ms : MusicService) (s : Store) :
    Wp false (AppReconciler.reconcileService ms)
      (fun r s' _ => r = some (.ok ()) ∧ (s'.services ms.name).isSome) s := by
  simp only [AppReconciler.reconcileService, getObj, send, bind_eq, call_bind, Prog.pure_bind,
    Wp.get, Store.get, Store.lookup]
  refine ⟨nofun, ?_⟩
  cases hl : s.services ms.name
  · simp [Store.notFound, ApiError.isNotFound, createObj, send, Store.create, Store.lookup, hl,
      buildAppService, objectMeta, Store.put]
  · simp [hl]

theorem reconcileService_quiet (h : (s.services ms.name).isSome) :
    Wp false (AppReconciler.reconcileService ms) (Quiet s) s := by
  obtain ⟨x, hl⟩ := Option.isSome_iff_exists.mp h
  simp [AppReconciler.reconcileService, getObj, send, Store.get, Store.lookup, hl, Quiet]

/-- The application autoscaler settled on the descriptor: absent when `spec.autoscaling` is
    unset, otherwise present with nothing for the diff to update. -/
def AutoscalerSettled : Option HorizontalPodAutoscaler → Option HorizontalPodAutoscaler → Prop
  | none, x => x = none
  | some d, x => ∃ h, x = some h ∧ autoscalerNeedsUpdate h d = false

/-- The application autoscaler step settles the autoscaler. -/
theorem appReconcileAutoscaler_settles [QuantityParser] (ms : MusicService) (s : Store) :
    Wp false (AppReconciler.reconcileAutoscaler ms) (fun r s' _ => r = some (.ok ()) ∧
      AutoscalerSettled (buildAutoscaler ms) (s'.autoscalers (ms.name ++ "-autoscaler"))) s := by
  unfold AppReconciler.reconcileAutoscaler AppReconciler.deleteAutoscalerIfExists
  cases ha : ms.spec.autoscaling with
  | none =>
    have hb : buildAutoscaler ms = none := by simp [buildAutoscaler, ha]
    simp only [hb, getObj, send, bind_eq, call_bind, Prog.pure_bind, Wp.get, Store.get, Store.lookup]
    refine ⟨nofun, ?_⟩
    cases hl : s.autoscalers (ms.name ++ "-autoscaler")
    · simp [Store.notFound, ApiError.isNotFound, AutoscalerSettled, hl]
    · simp [deleteObj, send, Store.delete, Store.lookup, hl, Kind.withName, AutoscalerSettled,
        Store.put]
  | some sp =>
    obtain ⟨d, hb⟩ : ∃ d, buildAutoscaler ms = some d := by simp [buildAutoscaler, ha]
    have hn := buildAutoscaler_some hb
    simp only [hb, getObj, send, bind_eq, call_bind, Prog.pure_bind, Wp.get, Store.get, Store.lookup]
    refine ⟨nofun, ?_⟩
    cases hl : s.autoscalers (ms.name ++ "-autoscaler") with
    | none =>
      simp [Store.notFound, ApiError.isNotFound, createObj, send, Store.create, Store.lookup, hn,
        hl, AutoscalerSettled, Store.put, autoscalerNeedsUpdate_of_spec]
    | some live =>
      by_cases hu : autoscalerNeedsUpdate (Kind.withName .autoscaler (ms.name ++ "-autoscaler") live) d
      · simp only [hu, ite_true]
        simp [updateObj, send, Store.update, Store.lookup, hl, Kind.withName, AutoscalerSettled,
          Store.put, autoscalerNeedsUpdate_of_spec, Store.Kind.keepServerFields]
      · simp only [hu, Bool.false_eq_true, ite_false, pure_eq, Wp.pure_iff, true_and]
        exact ⟨live, hl, by simpa using hu⟩

theorem appReconcileAutoscaler_quiet
    (h : AutoscalerSettled (buildAutoscaler ms) (s.autoscalers (ms.name ++ "-autoscaler"))) :
    Wp false (AppReconciler.reconcileAutoscaler ms) (Quiet s) s := by
  unfold AppReconciler.reconcileAutoscaler AppReconciler.deleteAutoscalerIfExists
  cases ha : ms.spec.autoscaling with
  | none =>
    have hl : s.autoscalers (ms.name ++ "-autoscaler") = none := by
      simpa [AutoscalerSettled, buildAutoscaler, ha] using h
    simp [getObj, send, Store.get, Store.lookup, hl, Store.notFound, ApiError.isNotFound, Quiet]
  | some sp =>
    obtain ⟨d, hb⟩ : ∃ d, buildAutoscaler ms = some d := by simp [buildAutoscaler, ha]
    obtain ⟨live, hl, hu⟩ : ∃ live, s.autoscalers (ms.name ++ "-autoscaler") = some live ∧
        autoscalerNeedsUpdate live d = false := by simpa [AutoscalerSettled, hb] using h
    have hu' : autoscalerNeedsUpdate (Kind.withName .autoscaler (ms.name ++ "-autoscaler") live) d =
      false := hu
    simp [hb, getObj, send, Store.get, Store.lookup, hl, hu', Quiet]

end App

/-! ## The database tier -/

section Database

variable {ms : MusicService} {s : Store}

/-- The Secret's step only writes the Secret. -/
theorem ensureReplicationSecret_writes (ms : MusicService) :
    All (Req.WritesIn (.ofKeys [⟨.secret, ms.name ++ "-db-replication"⟩] []))
      (DatabaseReconciler.ensureReplicationSecret ms) :=
  DatabaseReconciler.ensureReplicationSecret_all trivial trivial fun _ h => by
    simp [Req.WritesIn, h]

/-- Against the exact store the backfill of a stored Secret returns without error. -/
theorem backfillReplicationSecret_ok {name : String} {sec : Secret}
    (hl : s.secrets name = some sec) :
    Wp false (DatabaseReconciler.backfillReplicationSecret (Kind.withName .secret name sec))
      (fun r _ _ => ∃ x, r = some (.ok x)) s := by
  have hn : (Kind.withName .secret name sec).metadata.name = name := rfl
  unfold DatabaseReconciler.backfillReplicationSecret DatabaseReconciler.writeBackIfUpdated
  simp only [generatePassword, updateObj, send, bind_eq, call_bind, Prog.pure_bind,
    Wp.generatePassword, Wp.update, Store.update, Store.lookup, Kind.nameOf_secret, hn, hl]
  repeat' split
  all_goals simp_all [Store.update, Store.lookup]

/-- The backfill of a stored Secret leaves it with both keys. -/
theorem backfillReplicationSecret_ready {name : String} {sec : Secret}
    (hl : s.secrets name = some sec) :
    Wp false (DatabaseReconciler.backfillReplicationSecret (Kind.withName .secret name sec))
      (fun r s' _ => (∃ x, r = some (.ok x)) ∧ SecretReady (s'.secrets name)) s :=
  ((backfillReplicationSecret_ok hl).and (backfillReplicationSecret_spec hl)).mono
    fun _ _ _ ⟨⟨x, hx⟩, _, h⟩ => ⟨⟨x, hx⟩, h x hx⟩

/-- The Secret's step leaves the Secret with both keys, when it manages one. -/
theorem ensureReplicationSecret_ready (ms : MusicService) (s : Store) :
    Wp false (DatabaseReconciler.ensureReplicationSecret ms) (fun r s' _ =>
      (∃ x, r = some (.ok x)) ∧ (replicationEnabled ms = true →
        ms.spec.database.map (·.replicas) ≠ some 0 →
          SecretReady (s'.secrets (ms.name ++ "-db-replication")))) s := by
  unfold DatabaseReconciler.ensureReplicationSecret
  split_ifs with h
  · exact ⟨⟨_, rfl⟩, fun he h0 => by simp_all⟩
  simp only [getObj, send, bind_eq, call_bind, Prog.pure_bind, Wp.get, Store.get, Store.lookup]
  refine ⟨nofun, ?_⟩
  cases hl : s.secrets (ms.name ++ "-db-replication") with
  | none =>
    simp [Store.notFound, ApiError.isNotFound, generatePassword, send, createObj, Store.create,
      Store.lookup, hl, Store.put, SecretReady, dataHas_cons]
  | some sec => exact (backfillReplicationSecret_ready hl).mono fun _ _ _ ⟨hr, h⟩ => ⟨hr, fun _ _ => h⟩

/-- With the Secret ready, the Secret's step sends only its `Get`. -/
theorem ensureReplicationSecret_quiet
    (h : replicationEnabled ms = true → ms.spec.database.map (·.replicas) ≠ some 0 →
      SecretReady (s.secrets (ms.name ++ "-db-replication"))) :
    Wp false (DatabaseReconciler.ensureReplicationSecret ms) (fun r s' tr =>
      (∃ x, r = some (.ok x)) ∧ s' = s ∧ ∀ x ∈ tr, x.isWrite = false) s := by
  unfold DatabaseReconciler.ensureReplicationSecret
  split_ifs with hm
  · simp
  obtain ⟨sec, hl, hu, hp⟩ := h (by simp_all) (by simp_all)
  have hd : (Kind.withName .secret (ms.name ++ "-db-replication") sec).data = sec.data := rfl
  simp [getObj, send, Store.get, Store.lookup, hl, DatabaseReconciler.backfillReplicationSecret,
    hd, hu, hp, DatabaseReconciler.writeBackIfUpdated]

/-- The Secret, when replication is enabled, present with both keys. -/
def SecretOK (ms : MusicService) (x : Option Secret) : Prop :=
  replicationEnabled ms = true → SecretReady x

section Replicas

variable [QuantityParser] {db : DatabaseSpec}

/-- The replica step against the exact store: the Secret made ready, then the StatefulSet step,
    which changes no Secret. -/
theorem reconcileReplicas_wp (hdb : ms.spec.database = some db) (h0 : db.replicas ≠ 0)
    {P Q : Option StatefulSet → List PersistentVolumeClaim → Prop}
    (hsync : ∀ s, P (s.statefulSets (ms.name ++ "-db-replica"))
        (prefixClaims s (claimPrefix "db-data" (ms.name ++ "-db-replica"))) →
      Wp false (syncStatefulSet (ms.name ++ "-db-replica") (buildDatabaseReplicaStatefulSet ms)
          (databaseStorageSpec ms) "db-data" (ms.name ++ "-db-replica"))
        (fun r s' _ => r = some (.ok ()) ∧ Q (s'.statefulSets (ms.name ++ "-db-replica"))
          (prefixClaims s' (claimPrefix "db-data" (ms.name ++ "-db-replica")))) s)
    (hP : P (s.statefulSets (ms.name ++ "-db-replica"))
      (prefixClaims s (claimPrefix "db-data" (ms.name ++ "-db-replica")))) :
    Wp false (DatabaseReconciler.reconcileReplicas ms) (fun r s' _ => r = some (.ok ()) ∧
      SecretOK ms (s'.secrets (ms.name ++ "-db-replication")) ∧
      Q (s'.statefulSets (ms.name ++ "-db-replica"))
        (prefixClaims s' (claimPrefix "db-data" (ms.name ++ "-db-replica")))) s := by
  have sync : All (Req.Within (.ofKeys [⟨.statefulSet, ms.name ++ "-db-replica"⟩]
      [claimPrefix "db-data" (ms.name ++ "-db-replica")]))
      (syncStatefulSet (ms.name ++ "-db-replica") (buildDatabaseReplicaStatefulSet ms)
        (databaseStorageSpec ms) "db-data" (ms.name ++ "-db-replica")) :=
    syncStatefulSet_within (List.mem_singleton_self _) (List.mem_singleton_self _)
      fun _ h => (buildDatabaseReplicaStatefulSet_some h).1
  simp only [DatabaseReconciler.reconcileReplicas, hdb, h0, ↓reduceIte, bind_eq]
  refine Wp.bind_of ((ensureReplicationSecret_ready ms s).and
    (All.wp_agree (ensureReplicationSecret_writes ms))) (fun r s₁ _ ⟨⟨⟨x, hx⟩, hsec⟩, hag⟩ => ?_)
    fun _ _ ⟨⟨⟨_, h⟩, _⟩, _⟩ => nomatch h
  cases hx
  have hP₁ : P (s₁.statefulSets (ms.name ++ "-db-replica"))
      (prefixClaims s₁ (claimPrefix "db-data" (ms.name ++ "-db-replica"))) := by
    rwa [show s₁.statefulSets _ = s.statefulSets _ from hag.1 .statefulSet _ (by simp),
      prefixClaims, hag.claims_eq]
  refine ((hsync s₁ hP₁).and (All.wp_agree (sync.mono fun _ h => h.writesIn))).mono
    fun r s' _ ⟨⟨hr, hq⟩, hag'⟩ => ⟨hr, fun he => ?_, hq⟩
  rw [show s'.secrets _ = s₁.secrets _ from hag'.1 .secret _ (by simp)]
  exact hsec he (by simp [hdb, h0])

/-- The replica tier at a stage: nothing to do without replicas; otherwise the Secret and the
    replica StatefulSet at their stages. -/
def ReplicasStage (ms : MusicService) (secret : Option Secret → Prop)
    (sts : Option StatefulSet → List PersistentVolumeClaim → Prop)
    (v : Option Secret × Option StatefulSet × List PersistentVolumeClaim) : Prop :=
  ms.spec.database.map (·.replicas) = some 0 ∨ secret v.1 ∧ sts v.2.1 v.2.2

/-- The replica tier's view: the Secret, the replica StatefulSet and its claims. -/
def replicasView (ms : MusicService) (s : Store) :
    Option Secret × Option StatefulSet × List PersistentVolumeClaim :=
  (s.secrets (ms.name ++ "-db-replication"), s.statefulSets (ms.name ++ "-db-replica"),
    prefixClaims s (claimPrefix "db-data" (ms.name ++ "-db-replica")))

theorem replicaDescriptor (hdb : ms.spec.database = some db) :
    ∀ d, buildDatabaseReplicaStatefulSet ms = some d →
      d.metadata.name = ms.name ++ "-db-replica" ∧ d.spec.replicas.isSome :=
  fun _ h => ⟨(buildDatabaseReplicaStatefulSet_some h).1, by
    simp [(buildDatabaseReplicaStatefulSet_some h).2 db hdb]⟩

/-- The replica step advances its tier by one stage of the StatefulSet step, and readies the
    Secret. -/
theorem reconcileReplicas_advance (hdb : ms.spec.database = some db)
    {S : Option Secret → Prop} {P Q : Option StatefulSet → List PersistentVolumeClaim → Prop}
    (hsync : ∀ s, P (s.statefulSets (ms.name ++ "-db-replica"))
        (prefixClaims s (claimPrefix "db-data" (ms.name ++ "-db-replica"))) →
      Wp false (syncStatefulSet (ms.name ++ "-db-replica") (buildDatabaseReplicaStatefulSet ms)
          (databaseStorageSpec ms) "db-data" (ms.name ++ "-db-replica"))
        (fun r s' _ => r = some (.ok ()) ∧ Q (s'.statefulSets (ms.name ++ "-db-replica"))
          (prefixClaims s' (claimPrefix "db-data" (ms.name ++ "-db-replica")))) s)
    (h : ReplicasStage ms S P (replicasView ms s)) :
    Wp false (DatabaseReconciler.reconcileReplicas ms) (fun r s' _ => r = some (.ok ()) ∧
      ReplicasStage ms (SecretOK ms) Q (replicasView ms s')) s := by
  by_cases h0 : db.replicas = 0
  · simp only [DatabaseReconciler.reconcileReplicas, hdb, h0, ↓reduceIte, pure_eq, Wp.pure_iff]
    exact ⟨trivial, .inl (by simp [hdb, h0])⟩
  · exact (reconcileReplicas_wp hdb h0 hsync (h.resolve_left (by simp [hdb, h0])).2).mono
      fun _ _ _ ⟨hr, hs, hq⟩ => ⟨hr, .inr ⟨hs, hq⟩⟩

/-- With its tier settled, the replica step is quiet. -/
theorem reconcileReplicas_quiet (hdb : ms.spec.database = some db)
    (h : ReplicasStage ms (SecretOK ms)
      (StatefulSetSettled (buildDatabaseReplicaStatefulSet ms) (databaseStorageSpec ms))
      (replicasView ms s)) :
    Wp false (DatabaseReconciler.reconcileReplicas ms) (Quiet s) s := by
  by_cases h0 : db.replicas = 0
  · simp [DatabaseReconciler.reconcileReplicas, hdb, h0, Quiet]
  obtain ⟨hsec, hsts⟩ := h.resolve_left (by simp [hdb, h0])
  simp only [DatabaseReconciler.reconcileReplicas, hdb, h0, ↓reduceIte, bind_eq]
  refine Wp.bind_of (ensureReplicationSecret_quiet fun he _ => hsec he)
    (fun r s₁ tr ⟨⟨x, hx⟩, hs, hw⟩ => ?_) fun _ _ ⟨⟨_, h⟩, _⟩ => nomatch h
  cases hx
  cases hs
  exact (syncStatefulSet_quiet hsts).mono fun _ _ tr' ⟨hr, hs', hw'⟩ =>
    ⟨hr, hs', fun x hx => (List.mem_append.mp hx).elim (hw x) (hw' x)⟩

end Replicas

/-! ### The database Services -/

/-- The master Service present, and the read Service when there are replicas. -/
def ServicesReady (ms : MusicService) (v : Option Service × Option Service) : Prop :=
  v.1.isSome ∧ ∀ db, ms.spec.database = some db → db.replicas > 0 → v.2.isSome

/-- The database Services' view. -/
def servicesView (ms : MusicService) (s : Store) : Option Service × Option Service :=
  (s.services (ms.name ++ "-db-master"), s.services (ms.name ++ "-db-read"))

theorem reconcileReadService_settles {db : DatabaseSpec} (hdb : ms.spec.database = some db)
    (s : Store) :
    Wp false (DatabaseReconciler.reconcileReadService ms) (fun r s' _ => r = some (.ok ()) ∧
      s'.services (ms.name ++ "-db-master") = s.services (ms.name ++ "-db-master") ∧
      (db.replicas > 0 → (s'.services (ms.name ++ "-db-read")).isSome)) s := by
  unfold DatabaseReconciler.reconcileReadService
  simp only [hdb]
  split_ifs with hpos
  · simp only [getObj, send, bind_eq, call_bind, Prog.pure_bind, Wp.get, Store.get, Store.lookup]
    refine ⟨nofun, ?_⟩
    cases hl : s.services (ms.name ++ "-db-read")
    · simp [Store.notFound, ApiError.isNotFound, createObj, send, Store.create, Store.lookup, hl,
        Store.put, buildDatabaseReadService, objectMeta, Function.update_apply]
    · simp [hl]
  · simp [hpos]

theorem reconcileServices_settles {db : DatabaseSpec} (hdb : ms.spec.database = some db)
    (s : Store) :
    Wp false (DatabaseReconciler.reconcileServices ms)
      (fun r s' _ => r = some (.ok ()) ∧ ServicesReady ms (servicesView ms s')) s := by
  have read : ∀ s₀, Wp false (DatabaseReconciler.reconcileReadService ms) (fun r s' _ =>
      r = some (.ok ()) ∧ s'.services (ms.name ++ "-db-master") = s₀.services (ms.name ++ "-db-master") ∧
        ∀ db', ms.spec.database = some db' → db'.replicas > 0 →
          (s'.services (ms.name ++ "-db-read")).isSome) s₀ :=
    fun s₀ => (reconcileReadService_settles hdb s₀).mono fun r s' _ ⟨hr, hm, hread⟩ =>
      ⟨hr, hm, fun db' h' => Option.some.inj (hdb.symm.trans h') ▸ hread⟩
  simp only [DatabaseReconciler.reconcileServices, getObj, send, bind_eq, call_bind,
    Prog.pure_bind, Wp.get, Store.get, Store.lookup]
  refine ⟨nofun, ?_⟩
  cases hl : s.services (ms.name ++ "-db-master")
  · simp only [Store.notFound, ApiError.isNotFound, ↓reduceIte, createObj, send, call_bind,
      Prog.pure_bind, Wp.create, Store.create, Kind.nameOf_service, Store.lookup,
      show (buildDatabaseMasterService ms).metadata.name = ms.name ++ "-db-master" from rfl, hl]
    refine ⟨nofun, (read _).mono fun r s' _ ⟨hr, hm, hread⟩ => ⟨hr, ?_, hread⟩⟩
    simp [hm, Store.put, servicesView]
  · exact (read s).mono fun r s' _ ⟨hr, hm, hread⟩ => ⟨hr, by simp [servicesView, hm, hl], hread⟩

theorem reconcileServices_quiet {db : DatabaseSpec} (hdb : ms.spec.database = some db)
    (h : ServicesReady ms (servicesView ms s)) :
    Wp false (DatabaseReconciler.reconcileServices ms) (Quiet s) s := by
  obtain ⟨⟨m, hm⟩, hread⟩ := And.intro (Option.isSome_iff_exists.mp h.1) (h.2 db hdb)
  simp only [servicesView] at hm hread
  simp only [DatabaseReconciler.reconcileServices, DatabaseReconciler.reconcileReadService,
    getObj, send, bind_eq, call_bind, Prog.pure_bind, Wp.get, Store.get, Store.lookup, hm, hdb]
  refine ⟨nofun, ?_⟩
  split_ifs with hpos
  · obtain ⟨r, hr⟩ := Option.isSome_iff_exists.mp (hread hpos)
    simp [getObj, send, Store.get, Store.lookup, hr, Quiet]
  · simp [Quiet]

/-! ### The replica autoscaler -/

/-- The replica autoscaler, when its step manages it, present with the descriptor's spec. -/
def ReplicaAutoscalerSettled [QuantityParser] (ms : MusicService)
    (x : Option HorizontalPodAutoscaler) : Prop :=
  replicaAutoscalerManaged ms = true →
    ∃ h d, x = some h ∧ buildDatabaseReplicaAutoscaler ms = some d ∧ h.spec = d.spec

section Autoscaler

variable [QuantityParser] {db : DatabaseSpec}

omit [QuantityParser] in
/-- A managed replica autoscaler has a descriptor. -/
theorem replicaAutoscaler_descriptor (hdb : ms.spec.database = some db)
    (hm : ¬(db.autoscaling.isNone || decide (db.replicas = 0)) = true) :
    replicaAutoscalerManaged ms = true ∧ ∃ d, buildDatabaseReplicaAutoscaler ms = some d := by
  simp only [Bool.or_eq_true, Option.isNone_iff_eq_none, decide_eq_true_eq, not_or] at hm
  obtain ⟨a, ha⟩ := Option.ne_none_iff_exists'.mp hm.1
  exact ⟨by simp [replicaAutoscalerManaged, hdb, ha, hm.2],
    autoscalerFor ms (ms.name ++ "-db-replica-autoscaler") "db-autoscaler" (ms.name ++ "-db-replica") a,
    by simp [buildDatabaseReplicaAutoscaler, hdb, ha]⟩

theorem databaseReconcileAutoscaler_settles (hdb : ms.spec.database = some db) (s : Store) :
    Wp false (DatabaseReconciler.reconcileAutoscaler ms) (fun r s' _ => r = some (.ok ()) ∧
      ReplicaAutoscalerSettled ms (s'.autoscalers (ms.name ++ "-db-replica-autoscaler"))) s := by
  unfold DatabaseReconciler.reconcileAutoscaler
  simp only [hdb]
  split_ifs with hm
  · refine ⟨rfl, fun h => ?_⟩
    simp_all [replicaAutoscalerManaged]
  obtain ⟨-, d, hb⟩ := replicaAutoscaler_descriptor hdb hm
  have hn := (buildDatabaseReplicaAutoscaler_some hb).1
  simp only [hb, getObj, send, bind_eq, call_bind, Prog.pure_bind, Wp.get, Store.get, Store.lookup]
  refine ⟨nofun, ?_⟩
  cases hl : s.autoscalers (ms.name ++ "-db-replica-autoscaler") with
  | none =>
    simp [Store.notFound, ApiError.isNotFound, createObj, send, Store.create, Store.lookup, hn, hl,
      ReplicaAutoscalerSettled, Store.put, hb]
  | some live =>
    by_cases hu : (Kind.withName .autoscaler (ms.name ++ "-db-replica-autoscaler") live).spec = d.spec
    · simp only [hu, bne_self_eq_false, Bool.false_eq_true, ↓reduceIte, pure_eq, Wp.pure_iff,
        true_and]
      exact fun _ => ⟨live, d, hl, hb, hu⟩
    · simp only [bne_iff_ne, ne_eq, hu, not_false_eq_true, ↓reduceIte]
      simp [updateObj, send, Store.update, Store.lookup, hl, Kind.withName, ReplicaAutoscalerSettled,
        Store.put, Store.Kind.keepServerFields, hb]

theorem databaseReconcileAutoscaler_quiet (hdb : ms.spec.database = some db)
    (h : ReplicaAutoscalerSettled ms (s.autoscalers (ms.name ++ "-db-replica-autoscaler"))) :
    Wp false (DatabaseReconciler.reconcileAutoscaler ms) (Quiet s) s := by
  unfold DatabaseReconciler.reconcileAutoscaler
  simp only [hdb]
  split_ifs with hm
  · simp [Quiet]
  obtain ⟨live, d, hl, hb, hs⟩ := h (replicaAutoscaler_descriptor hdb hm).1
  have hs' : (Kind.withName .autoscaler (ms.name ++ "-db-replica-autoscaler") live).spec = d.spec :=
    hs
  simp [hb, getObj, send, Store.get, Store.lookup, hl, hs', Quiet]

end Autoscaler

end Database

end MusicOperator
