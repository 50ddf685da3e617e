import MusicOperator.Store.Hoare
import MusicOperator.Reconciler.Storage

/-!
  Which claims the storage operations touch.

  The claims of a tier are selected by NAME PREFIX: `listPVCsByPrefix c a` keeps every claim of
  the namespace whose name starts with `c-a-`. That is more than the claims `c-a-<ordinal>` the
  tier's `volumeClaimTemplate` produces: for parents `foo` and `foo-2`, the claim
  `music-data-foo-2-0` of `foo-2` starts with `music-data-foo-`
  (`recreate_deletes_claims_of_other_parent`).

  What does hold (`storage_operations_scope`):
  1. `recreateStatefulSetStorage sts c a` writes only the StatefulSet `sts` and claims named
     `c-a-*` (`recreate_writes`), so every other object and every claim outside that prefix is
     unchanged, whatever request fails (`Prog.All.agree`);
  2. when it returns `nil`, the StatefulSet is gone and the claims are exactly those outside the
     prefix (`recreate_wp`);
  3. `resizePVCs c a desired` writes only claims named `c-a-*` (`resize_writes`).
-/

namespace MusicOperator.Reconciler

open Prog

/-- The claims whose name starts with `c-a-`. -/
def tierClaims (claimName appName : String) : Region :=
  ⟨fun _ => False, fun n => hasPrefix n (claimPrefix claimName appName)⟩

/-- StatefulSet `stsName` and the claims whose name starts with `c-a-`. -/
def tierRegion (stsName claimName appName : String) : Region :=
  ⟨fun key => key = ⟨.statefulSet, stsName⟩, fun n => hasPrefix n (claimPrefix claimName appName)⟩

/-! ## The requests of the storage operations -/

section Requests

variable {P : Req → Prop}

theorem deletePVCsLoop_all :
    ∀ l : List PersistentVolumeClaim, (∀ c ∈ l, P (.deleteClaim c.name)) →
      All P (deletePVCsLoop l)
  | [], _ => .pure _
  | c :: l, h => .call (h c (List.mem_cons_self _ _)) fun x _ => by
      rcases x with e | ⟨⟩
      · exact .pure _
      · exact deletePVCsLoop_all l fun d hd => h d (List.mem_cons_of_mem _ hd)

theorem resizePVCsLoop_all (d : Quantity) :
    ∀ l : List PersistentVolumeClaim, (∀ c ∈ l, P (.updateClaim { c with storage := some d })) →
      All P (resizePVCsLoop d l)
  | [], _ => .pure _
  | c :: l, h => by
    have hl := resizePVCsLoop_all d l fun d hd => h d (List.mem_cons_of_mem _ hd)
    unfold resizePVCsLoop
    split
    · exact hl
    · split
      · exact hl
      · refine .call (h c (List.mem_cons_self _ _)) fun x _ => ?_
        rcases x with e | ⟨⟩
        · exact .pure _
        · exact hl

/-- The list, then a loop over the listed claims, which all start with `c-a-`. -/
theorem listPVCsByPrefix_bind_all {c a : String}
    {f : Except ApiError (List PersistentVolumeClaim) → Prog β} (hl : P .listClaims)
    (hf : ∀ e, All P (f (.error e)))
    (hok : ∀ l : List PersistentVolumeClaim,
      (∀ x ∈ l, hasPrefix x.name (claimPrefix c a)) → All P (f (.ok l))) :
    All P ((listPVCsByPrefix c a).bind f) := by
  refine .call hl fun x _ => ?_
  rcases x with e | l
  · exact hf e
  · exact hok _ fun _ hx => (List.mem_filter.mp hx).2

/-- A recreate sends the StatefulSet's `Delete`, the `List`, and `Delete`s of claims named
    `c-a-*`. -/
theorem recreate_all {sts : StatefulSet} {c a : String}
    (hd : P (.delete .statefulSet sts.metadata.name)) (hl : P .listClaims)
    (hc : ∀ n, hasPrefix n (claimPrefix c a) → P (.deleteClaim n)) :
    All P (recreateStatefulSetStorage sts c a) := by
  refine .call hd fun x _ => ?_
  rcases x with e | ⟨⟩
  · exact .pure _
  · exact listPVCsByPrefix_bind_all hl (fun _ => .pure _) fun l h =>
      deletePVCsLoop_all l fun x hx => hc _ (h x hx)

/-- A resize sends the `List` and `Update`s of claims named `c-a-*`. -/
theorem resizePVCs_all {c a : String} {desired : StatefulSet} (hl : P .listClaims)
    (hc : ∀ pvc : PersistentVolumeClaim, hasPrefix pvc.name (claimPrefix c a) →
      P (.updateClaim pvc)) :
    All P (resizePVCs c a desired) := by
  unfold resizePVCs
  split
  · exact .pure _
  · exact listPVCsByPrefix_bind_all hl (fun _ => .pure _) fun l h =>
      resizePVCsLoop_all _ l fun x hx => hc _ (h x hx)

end Requests

theorem recreate_writes (sts : StatefulSet) (c a : String) :
    All (Req.WritesIn (tierRegion sts.metadata.name c a)) (recreateStatefulSetStorage sts c a) :=
  recreate_all rfl trivial fun _ h => h

theorem resize_writes (c a : String) (desired : StatefulSet) :
    All (Req.WritesIn (tierClaims c a)) (resizePVCs c a desired) :=
  resizePVCs_all trivial fun _ h => h

/-! ## A successful recreate -/

/-- Deleting the names of the claims that match `p` deletes exactly the claims that match `p`. -/
theorem filter_not_any_filter (l : List PersistentVolumeClaim) (p : String → Bool) :
    l.filter (fun c => !(l.filter fun d => p d.name).any (·.name = c.name)) =
      l.filter fun c => !p c.name := by
  refine List.filter_congr fun x hx => ?_
  cases hp : p x.name
  · simp only [Bool.not_false, Bool.not_eq_true', List.any_eq_false, List.mem_filter]
    rintro y ⟨-, hy⟩ h
    simp_all
  · simp only [Bool.not_true, Bool.not_eq_false', List.any_eq_true, List.mem_filter]
    exact ⟨x, ⟨hx, hp⟩, by simp⟩

variable {m : Bool}

/-- A deletion loop that returns `nil` has removed every listed name and nothing else. -/
theorem deletePVCsLoop_wp (s : Store) :
    ∀ l : List PersistentVolumeClaim, Wp m (deletePVCsLoop l) (fun r s' _ => r = some (.ok ()) →
      s' = { s with claims := s.claims.filter fun c => !l.any (·.name = c.name) }) s
  | [] => by simp [deletePVCsLoop]
  | x :: l => by
    simp only [deletePVCsLoop, deleteClaim, send, bind_eq, call_bind, pure_bind, Wp.deleteClaim,
      Store.deleteClaim]
    refine ⟨fun _ e => by simp, ?_⟩
    split_ifs
    · refine (deletePVCsLoop_wp _ l).mono fun r s' _ h hr => ?_
      rw [h hr]
      simp only [List.filter_filter, List.any_cons]
      congr 2
      funext c
      by_cases hc : x.name = c.name <;> simp [hc, eq_comm]
    · simp

/-- A recreate that returns `nil` has deleted the StatefulSet and exactly the claims named
    `c-a-*`. -/
theorem recreate_wp (sts : StatefulSet) (c a : String) (s : Store) :
    Wp m (recreateStatefulSetStorage sts c a) (fun r s' _ => r = some (.ok ()) →
      s'.claims = (tierRegion sts.metadata.name c a).outside s.claims ∧
        s'.statefulSets sts.metadata.name = none) s := by
  simp only [recreateStatefulSetStorage, deletePVCsByPrefix, listPVCsByPrefix, deleteObj,
    listClaims, send, bind_eq, call_bind, pure_bind, Wp.delete, Wp.listClaims, Store.delete]
  refine ⟨fun _ e => by simp, ?_⟩
  cases hl : s.lookup .statefulSet sts.metadata.name <;>
    simp only [hl, pure_eq, pure_bind, Wp.listClaims, Store.claims_put]
  · simp
  · refine ⟨fun _ e => by simp, (deletePVCsLoop_wp _ _).mono fun r s' _ h hr => ?_⟩
    rw [h hr]
    exact ⟨by simpa only [Store.claims_put] using
      filter_not_any_filter s.claims (hasPrefix · (claimPrefix c a)), by simp [Store.put]⟩

/-- **Storage scope.** The recreate path writes only its StatefulSet and the claims named
    `c-a-*`, and a successful recreate removes exactly those; the resize path writes only claims
    named `c-a-*`. Everything else is unchanged, whatever request fails. -/
theorem storage_operations_scope (c a : String) (sts desired : StatefulSet) (o : Oracle)
    (s : Store) :
    Store.Agree (tierRegion sts.metadata.name c a) s
        ((recreateStatefulSetStorage sts c a).run o s).store ∧
      (((recreateStatefulSetStorage sts c a).run o s).result = some (.ok ()) →
        ((recreateStatefulSetStorage sts c a).run o s).store.claims =
            (tierRegion sts.metadata.name c a).outside s.claims ∧
          ((recreateStatefulSetStorage sts c a).run o s).store.statefulSets sts.metadata.name =
            none) ∧
      Store.Agree (tierClaims c a) s ((resizePVCs c a desired).run o s).store :=
  ⟨(recreate_writes sts c a).agree o s, (recreate_wp sts c a s).run o (.inl rfl),
    (resize_writes c a desired).agree o s⟩

/-- Recreating the storage of `foo` (claim template `music-data`) deletes `music-data-foo-2-0`,
    a claim of the parent `foo-2`, which is not of the form `music-data-foo-<ordinal>`. -/
theorem recreate_deletes_claims_of_other_parent :
    let sts : StatefulSet := ⟨{ name := "foo" }, ⟨some 1, "foo", [], ⟨[], {}⟩, []⟩, {}⟩
    let s : Store :=
      { Store.empty with
        statefulSets := fun n => if n = "foo" then some sts else none
        claims := [⟨"music-data-foo-0", some 10, "Bound"⟩, ⟨"music-data-foo-2-0", some 10, "Bound"⟩] }
    ((recreateStatefulSetStorage sts "music-data" "foo").run
      (Oracle.exact (fun _ => 0) (fun _ => "")) s).store.claims = [] := by
  decide

end MusicOperator.Reconciler
