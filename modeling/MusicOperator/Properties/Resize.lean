import MusicOperator.Properties.Footprint

/-!
  Claim sizes.

  1. **Selection** — the status manager's `listPVCsByPrefix` (a length check and a slice
     comparison) and the reconciler's (`strings.HasPrefix`) are the same program
     (`listPVCsByPrefix_agree`): the storage condition is computed over exactly the claims that
     resize and recreate act on.
  2. **The resize loop** — `resizePVCsLoop r pvcs` walks the listed claims in order; a claim
     with a request below `r` is updated to `r`, every other one is skipped. Over a namespace
     of distinct claim names, after the first `k` listed claims have been processed the
     namespace is `growClaims r (pvcs.take k)`: those claims carry `max(old, r)`, all others are
     as they were (`resizePVCsLoop_spec`). A failed `Update` ends the loop there, so the claims
     after it are untouched.
  3. **No pass lowers a request** — every step keeps `ClaimsNotLowered` (only the resize loop
     writes a request, and only upwards; the recreate path deletes), so every pass does, under
     either policy and whatever fails (`resize_only_grows`).
-/

namespace MusicOperator

open Prog Builder Reconciler Controller

/-! ## The two claim filters -/

/-- The manager's test `len(name) >= len(prefix) && name[:len(prefix)] == prefix` is
    `strings.HasPrefix`; the length check only guards the slice. -/
theorem managerPrefixTest_eq (name pfx : String) :
    (decide (name.length ≥ pfx.length) && name.toList.take pfx.length == pfx.toList) =
      hasPrefix name pfx := by
  rw [Bool.eq_iff_iff]
  simp only [Bool.and_eq_true, decide_eq_true_eq, beq_iff_eq, hasPrefix,
    List.isPrefixOf_iff_prefix]
  constructor
  · rintro ⟨-, h⟩
    exact h ▸ List.take_prefix _ _
  · intro h
    exact ⟨h.length_le, (List.prefix_iff_eq_take.mp h).symm⟩

/-- **The two claim filters agree.** The status manager's `listPVCsByPrefix` and the
    reconciler's are the same program: one `List`, then the same claims in the same order. -/
theorem listPVCsByPrefix_agree (claimName appName : String) :
    Status.Manager.listPVCsByPrefix claimName appName =
      Reconciler.listPVCsByPrefix claimName appName := by
  unfold Status.Manager.listPVCsByPrefix Reconciler.listPVCsByPrefix
  congr 1
  funext x
  rcases x with e | items
  · rfl
  · simp only [managerPrefixTest_eq]

/-! ## The resize loop -/

/-- A claim whose request has grown to at least `r`: `max(old, r)`; a claim without a request
    stays as it is. -/
def grownTo (r : Quantity) (c : PersistentVolumeClaim) : PersistentVolumeClaim :=
  { c with storage := c.storage.map (max · r) }

/-- The claims `L` after those of `done` among them have grown to at least `r`. -/
def growClaims (r : Quantity) (done L : List PersistentVolumeClaim) : List PersistentVolumeClaim :=
  L.map fun c => if c ∈ done then grownTo r c else c

variable {r : Quantity} {L done : List PersistentVolumeClaim} {pvc : PersistentVolumeClaim}

@[simp] theorem growClaims_nil : growClaims r [] L = L := by simp [growClaims]

/-- Processing a claim the loop skips changes nothing. -/
theorem growClaims_snoc_of_eq (h : grownTo r pvc = pvc) :
    growClaims r (done ++ [pvc]) L = growClaims r done L := by
  refine List.map_congr_left fun c _ => ?_
  by_cases hc : c = pvc
  · subst hc; by_cases hd : c ∈ done <;> simp [hd, h]
  · simp [hc]

theorem grownTo_of_none (h : pvc.storage = none) : grownTo r pvc = pvc := by
  cases pvc; simp_all [grownTo]

theorem grownTo_of_le {q : Quantity} (hq : pvc.storage = some q) (hle : r ≤ q) :
    grownTo r pvc = pvc := by
  cases pvc; simp_all [grownTo]

theorem grownTo_of_lt {q : Quantity} (hq : pvc.storage = some q) (hlt : q < r) :
    grownTo r pvc = { pvc with storage := some r } := by
  simp [grownTo, hq, Nat.max_eq_right hlt.le]

/-- The `Update` of a listed claim `pvc` not yet processed, over distinct names, is the next
    step of `growClaims`. -/
theorem updateClaim_growClaims (hL : (L.map (·.name)).Nodup) (hp : pvc ∈ L) (hd : pvc ∉ done)
    {q : Quantity} (hq : pvc.storage = some q) (hlt : q < r) :
    (growClaims r done L).map (fun x => if x.name = pvc.name then { pvc with storage := some r }
      else x) = growClaims r (done ++ [pvc]) L := by
  simp only [growClaims, List.map_map]
  refine List.map_congr_left fun c hc => ?_
  by_cases e : c = pvc
  · subst e; simp [hd, grownTo_of_lt hq hlt]
  · have hn : c.name ≠ pvc.name := fun h => e (List.inj_on_of_nodup_map hL hc hp h)
    by_cases hcd : c ∈ done <;> simp [hcd, e, hn, grownTo]

/-- **The resize loop.** Over a namespace of distinct claim names whose claims are `L` with the
    claims `done` already grown, the loop over the rest `pvcs` of a sublist of `L` ends with the
    first `k` of them grown too, every other claim unchanged; it returns `nil` only with
    `k = pvcs.length`. Whatever request fails. -/
theorem resizePVCsLoop_spec {m : Bool} (hL : (L.map (·.name)).Nodup) :
    ∀ (pvcs done : List PersistentVolumeClaim) (s : Store), (done ++ pvcs).Sublist L →
      s.claims = growClaims r done L →
      Wp m (resizePVCsLoop r pvcs) (fun res s' _ => ∃ k ≤ pvcs.length,
        s'.claims = growClaims r (done ++ pvcs.take k) L ∧
          (res = some (.ok ()) → k = pvcs.length)) s
  | [], done, s, _, hs => ⟨0, le_rfl, by simpa using hs, fun _ => rfl⟩
  | pvc :: pvcs, done, s, hsub, hs => by
    have hsub' : (done ++ [pvc] ++ pvcs).Sublist L := by simpa using hsub
    have hnd : pvc ∉ done := fun h => by
      have := (hL.of_map _).sublist hsub
      simp only [List.nodup_append, List.nodup_cons] at this
      exact this.2.2 h (List.mem_cons_self _ _)
    have hp : pvc ∈ L := hsub.subset (by simp)
    have next (s' : Store) (hs' : s'.claims = growClaims r (done ++ [pvc]) L) :
        Wp m (resizePVCsLoop r pvcs) (fun res s'' _ => ∃ k ≤ (pvc :: pvcs).length,
          s''.claims = growClaims r (done ++ (pvc :: pvcs).take k) L ∧
            (res = some (.ok ()) → k = (pvc :: pvcs).length)) s' :=
      (resizePVCsLoop_spec hL pvcs _ s' hsub' hs').mono fun _ _ _ ⟨k, hk, hc, hr⟩ =>
        ⟨k + 1, by simpa using hk, by simpa using hc, fun h => by simp [hr h]⟩
    unfold resizePVCsLoop
    split
    · exact next s (hs.trans (growClaims_snoc_of_eq (grownTo_of_none ‹_›)).symm)
    · rename_i q hq
      split_ifs with hle
      · exact next s (hs.trans (growClaims_snoc_of_eq (grownTo_of_le hq hle)).symm)
      simp only [updateClaim, send, bind_eq, call_bind, Prog.pure_bind, Wp.updateClaim,
        Store.updateClaim]
      refine ⟨fun _ _ => ⟨0, by simp, by simpa using hs, nofun⟩, ?_⟩
      have hany : s.claims.any (·.name = pvc.name) = true := by
        rw [hs]
        exact List.any_eq_true.mpr ⟨_, List.mem_map_of_mem _ hp, by simp [hnd]⟩
      rw [if_pos hany]
      exact next _ (by rw [hs]; exact updateClaim_growClaims hL hp hnd hq (not_le.mp hle))

/-! ## No pass lowers a request -/

/-- Every claim of `s'` has a claim of its name in `s` whose request it does not lower. -/
def ClaimsNotLowered (s s' : Store) : Prop :=
  ∀ c' ∈ s'.claims, ∃ c ∈ s.claims, c.name = c'.name ∧
    ∀ q, c.storage = some q → ∃ q', c'.storage = some q' ∧ q ≤ q'

/-- Every request but a claim `Update`. -/
def Req.NoClaimUpdate : Req → Prop
  | .updateClaim _ => False
  | _ => True

namespace ClaimsNotLowered

theorem refl (s : Store) : ClaimsNotLowered s s :=
  fun c hc => ⟨c, hc, rfl, fun q h => ⟨q, h, le_rfl⟩⟩

theorem trans {s₁ s₂ s₃ : Store} (h₁ : ClaimsNotLowered s₁ s₂) (h₂ : ClaimsNotLowered s₂ s₃) :
    ClaimsNotLowered s₁ s₃ := fun c₃ hc₃ =>
  let ⟨c₂, hc₂, hn₂, hg₂⟩ := h₂ c₃ hc₃
  let ⟨c₁, hc₁, hn₁, hg₁⟩ := h₁ c₂ hc₂
  ⟨c₁, hc₁, hn₁.trans hn₂, fun q hq =>
    let ⟨q₂, hq₂, hle₂⟩ := hg₁ q hq
    let ⟨q₃, hq₃, hle₃⟩ := hg₂ q₂ hq₂
    ⟨q₃, hq₃, hle₂.trans hle₃⟩⟩

theorem of_sublist {s s' : Store} (h : s'.claims.Sublist s.claims) : ClaimsNotLowered s s' :=
  fun c hc => ⟨c, h.subset hc, rfl, fun q hq => ⟨q, hq, le_rfl⟩⟩

/-- A request that is no claim `Update` keeps the claims or deletes some. -/
theorem answer {r : Req} (hr : r.NoClaimUpdate) (s : Store) (o : Oracle) :
    ClaimsNotLowered s (s.answer o r).2 := by
  refine of_sublist ?_
  cases r <;> simp only [Store.answer, Oracle.guard] <;> (try split) <;>
    try exact List.Sublist.refl _
  all_goals first
    | exact hr.elim
    | simp only [Store.create, Store.update, Store.delete, Store.updateStatus, Store.deleteClaim]
      split <;> simp [List.filter_sublist]

end ClaimsNotLowered

section Keeps

variable {m : Bool}

theorem noClaimUpdate_keeps {p : Prog α} (h : All Req.NoClaimUpdate p) :
    Keeps m ClaimsNotLowered p :=
  h.keeps_of ClaimsNotLowered.refl ClaimsNotLowered.trans fun _ s o hr =>
    ClaimsNotLowered.answer hr s o

/-- The resize loop only raises the requests of claims listed from `s₀`. -/
theorem resizePVCsLoop_notLowered (s₀ : Store) (r : Quantity) :
    ∀ (pvcs : List PersistentVolumeClaim) (s : Store), (∀ p ∈ pvcs, p ∈ s₀.claims) →
      ClaimsNotLowered s₀ s → Wp m (resizePVCsLoop r pvcs) (fun _ s' _ => ClaimsNotLowered s₀ s') s
  | [], _, _, hs => hs
  | pvc :: pvcs, s, hp, hs => by
    have rest := resizePVCsLoop_notLowered s₀ r pvcs
    have hp' : ∀ p ∈ pvcs, p ∈ s₀.claims := fun p h => hp p (List.mem_cons_of_mem _ h)
    unfold resizePVCsLoop
    split
    · exact rest s hp' hs
    · rename_i q hq
      split_ifs with hle
      · exact rest s hp' hs
      simp only [updateClaim, send, bind_eq, call_bind, Prog.pure_bind, Wp.updateClaim,
        Store.updateClaim]
      refine ⟨fun _ _ => hs, ?_⟩
      by_cases hany : (s.claims.any fun x => decide (x.name = pvc.name)) = true
      · simp only [if_pos hany]
        refine rest _ hp' fun c' hc' => ?_
        obtain ⟨x, hx, rfl⟩ := List.mem_map.mp hc'
        split_ifs
        · exact ⟨pvc, hp pvc (List.mem_cons_self _ _), rfl, fun q' hq' =>
            ⟨r, rfl, by rw [hq] at hq'; cases hq'; exact (not_le.mp hle).le⟩⟩
        · exact hs x hx
      · simp only [if_neg hany]
        exact hs

theorem resizePVCs_keeps (c a : String) (d : StatefulSet) :
    Keeps m ClaimsNotLowered (resizePVCs c a d) := fun s => by
  unfold resizePVCs
  split
  · exact ClaimsNotLowered.refl s
  simp only [listPVCsByPrefix, Prog.listClaims, send, bind_eq, call_bind, Prog.pure_bind,
    Wp.listClaims]
  exact ⟨fun _ _ => ClaimsNotLowered.refl s, resizePVCsLoop_notLowered _ _ _ s
    (fun _ h => (List.mem_filter.mp h).1) (ClaimsNotLowered.refl s)⟩

theorem syncStatefulSet_keeps {name : String} {desired : Option StatefulSet} {st : StorageSpec}
    {c a : String} : Keeps m ClaimsNotLowered (syncStatefulSet name desired st c a) := by
  have upd : ∀ live d : StatefulSet, Keeps m ClaimsNotLowered (updateStatefulSetIfNeeded live d) :=
    fun _ _ => noClaimUpdate_keeps (updateStatefulSetIfNeeded_all trivial)
  refine Keeps.send_bind @ClaimsNotLowered.trans
    (ClaimsNotLowered.answer trivial) fun x _ => ?_
  rcases x with e | live
  · show Keeps m _ (if e.isNotFound then _ else _)
    split
    · cases desired
      · exact Keeps.panic ClaimsNotLowered.refl
      · exact noClaimUpdate_keeps (.call trivial fun _ _ => .pure _)
    · exact Keeps.pure ClaimsNotLowered.refl _
  cases desired with
  | none => exact Keeps.panic ClaimsNotLowered.refl
  | some d =>
    show Keeps m _ (syncExisting live d st c a)
    unfold syncExisting
    split_ifs
    · exact noClaimUpdate_keeps (recreate_all trivial trivial fun _ _ => trivial)
    · exact Keeps.bind @ClaimsNotLowered.trans (resizePVCs_keeps c a d)
        fun r => by
        rcases r with e | ⟨⟩
        exacts [Keeps.pure ClaimsNotLowered.refl _, upd live d]
    · exact upd live d

variable [QuantityParser]

/-- Every step of a pass keeps `ClaimsNotLowered`, given the Galera steps do. -/
theorem steps_keep_claims [GaleraReconciler]
    (hG : ∀ ms : MusicService, Keeps m ClaimsNotLowered (GaleraReconciler.reconcileGalera ms) ∧
      Keeps m ClaimsNotLowered (GaleraReconciler.reconcileGaleraServices ms))
    (ms : MusicService) : ∀ st ∈ appSteps ms ++ databaseSteps ms, Keeps m ClaimsNotLowered st.2 := by
  intro st hst
  rcases List.mem_append.mp hst with h | h
  · rcases mem_appSteps h with e | e | e <;> rw [e]
    · exact noClaimUpdate_keeps (AppReconciler.reconcileService_all trivial trivial)
    · exact syncStatefulSet_keeps
    · exact noClaimUpdate_keeps (AppReconciler.reconcileAutoscaler_all trivial
        (fun _ _ => trivial) (fun _ _ _ _ => trivial) trivial)
  obtain ⟨-, ⟨-, e | e⟩ | ⟨-, e | e | e⟩ | e⟩ := mem_databaseSteps h <;> rw [e]
  · exact (hG ms).1
  · exact (hG ms).2
  · exact syncStatefulSet_keeps
  · unfold DatabaseReconciler.reconcileReplicas
    split
    · exact Keeps.panic ClaimsNotLowered.refl
    split
    · exact Keeps.pure ClaimsNotLowered.refl _
    refine Keeps.bind @ClaimsNotLowered.trans (noClaimUpdate_keeps
      (DatabaseReconciler.ensureReplicationSecret_all trivial trivial fun _ _ => ⟨trivial, trivial⟩))
      fun r => ?_
    rcases r with e | _
    exacts [Keeps.pure ClaimsNotLowered.refl _, syncStatefulSet_keeps]
  · exact noClaimUpdate_keeps (DatabaseReconciler.reconcileServices_all trivial trivial
      (DatabaseReconciler.reconcileReadService_all trivial trivial))
  · exact noClaimUpdate_keeps (DatabaseReconciler.reconcileAutoscaler_all trivial
      (fun _ _ => trivial) fun _ _ _ _ => trivial)

end Keeps

/-- **Resize only grows.** Let the Galera steps lower no claim. For a desired StatefulSet with
    storage request `r`, over a namespace of distinct claim names, `resizePVCs` ends with the
    first `k` claims of the tier, in list order, at `max(old, r)` and every other claim as it
    was; it returns `nil` only with all of the tier's claims processed, and a failed request
    leaves the claims after it untouched. And no pass for any parent lowers the storage request
    of a claim, under either policy and whatever fails. -/
theorem resize_only_grows [QuantityParser] [GaleraReconciler]
    (hG : ∀ ms : MusicService, Keeps true ClaimsNotLowered (GaleraReconciler.reconcileGalera ms) ∧
      Keeps true ClaimsNotLowered (GaleraReconciler.reconcileGaleraServices ms))
    (claimName appName : String) (desired : StatefulSet) (r : Quantity)
    (hr : storageRequestFromStatefulSet desired = some r) :
    (∀ s : Store, (s.claims.map (·.name)).Nodup →
      Wp true (resizePVCs claimName appName desired) (fun res s' _ =>
        ∃ k ≤ (s.claims.filter fun c => hasPrefix c.name (claimPrefix claimName appName)).length,
          s'.claims = growClaims r ((s.claims.filter fun c =>
            hasPrefix c.name (claimPrefix claimName appName)).take k) s.claims ∧
          (res = some (.ok ()) →
            k = (s.claims.filter fun c => hasPrefix c.name (claimPrefix claimName appName)).length))
        s) ∧
    ∀ (name : String) (o : Oracle) (s : Store), (s.claims.map (·.name)).Nodup →
      ∀ c' ∈ ((reconcile name).run o s).store.claims, ∀ c ∈ s.claims, c.name = c'.name →
        ∀ q, c.storage = some q → ∃ q', c'.storage = some q' ∧ q ≤ q' := by
  refine ⟨fun s hn => ?_, fun name o s hn c' hc' c hc he => ?_⟩
  · unfold resizePVCs
    simp only [hr, listPVCsByPrefix, Prog.listClaims, send, bind_eq, call_bind, Prog.pure_bind,
      Wp.listClaims]
    exact ⟨fun _ _ => ⟨0, by simp, by simp, nofun⟩, (resizePVCsLoop_spec hn _ [] s
      (List.filter_sublist _) (by simp)).mono fun _ _ _ h => by simpa using h⟩
  · have keeps := (reconcile_keeps (n := name) ClaimsNotLowered.refl ClaimsNotLowered.trans
      (fun _ _ h => ClaimsNotLowered.of_sublist (by rw [h.claims_eq]))
      (fun ms _ => steps_keep_claims hG ms) s).run o (.inl rfl)
    obtain ⟨c₀, hc₀, hn₀, hg₀⟩ := keeps c' hc'
    rwa [List.inj_on_of_nodup_map hn hc hc₀ (he.trans hn₀.symm)]

/-- A StatefulSet whose first claim template requests `5`. -/
def smallClaimStatefulSet : StatefulSet :=
  { metadata := { name := "m" }
    spec :=
      { replicas := some 1
        serviceName := "m"
        selector := []
        template := { labels := [], spec := {} }
        volumeClaimTemplates := [{ name := "music-data", accessModes := [], storage := some 5 }] } }

/-- The parent `m` declaring `20Gi` over its StatefulSet built for `10Gi`, with one `10Gi`
    claim. -/
def growingStore : Store :=
  sampleStore { sampleSpec with storage := { size := "20Gi" } } (some sampleSpec)
    [{ name := "music-data-m-0", storage := some (10 * 2 ^ 30), phase := "Bound" }]

/-- With Galera steps that send nothing, a pass for `m` in which the third request fails lowers
    the request of no claim. -/
theorem sample_resize_only_grows :
    List.Forall (fun c' => ∀ c ∈ growingStore.claims, c.name = c'.name →
        ∀ q, c.storage = some q → ∃ q', c'.storage = some q' ∧ q ≤ q')
      ((reconcile "m").run (failingAt 3) growingStore).store.claims :=
  List.forall_iff_forall_mem.mpr <| (resize_only_grows (fun _ => ⟨Keeps.pure ClaimsNotLowered.refl _,
    Keeps.pure ClaimsNotLowered.refl _⟩) "music-data" "m" smallClaimStatefulSet 5 rfl).2 "m"
      (failingAt 3) growingStore (by decide)

end MusicOperator
