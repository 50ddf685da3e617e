import MusicOperator.Properties.Conditions
import MusicOperator.Properties.Resize

/-!
  What the storage condition looks at.

  1. The reason `updateStorageWarnings` records is `ShrinkNotSupported` exactly when the declared
     size is below the request of the live StatefulSet's claim template
     (`updateStorageWarnings_reason`): the claims themselves are listed only for their phase.
  2. A `Resize` pass that grows the claims but changes nothing the StatefulSet diff compares sends
     no StatefulSet write (`syncExisting_no_statefulSet_write`): the template keeps the old size.

  Together: grow the size alone, then declare the old size again, and the condition reports
  `StorageHealthy` over claims larger than the declared size.
-/

namespace MusicOperator

open Prog Builder Reconciler Controller Status Manager

/-! ## The reason a condition records -/

/-- `setCondition` records the reason of the condition it sets. -/
theorem conditionOf_setCondition_reason (now : Time) (cs : List Condition) (c : Condition) :
    (conditionOf c.type (setCondition now cs c)).map (·.reason) = some c.reason := by
  unfold setCondition
  split
  · rw [show c.type = { c with lastTransitionTime := now }.type from rfl,
      conditionOf_setConditionLoop]
    cases conditionOf c.type cs <;> rfl
  · rw [conditionOf_setConditionLoop]
    cases conditionOf c.type cs <;> rfl

theorem setStatusCondition_reason {ms : MusicService} {t : String} (status reason message : String) :
    AllRet (fun _ => True) (fun ms' => (conditionOf t ms'.status.conditions).map (·.reason) = some reason)
      (setStatusCondition ms t status reason message) :=
  AllRet.send_bind trivial fun now _ => .pure (conditionOf_setCondition_reason now _
    { type := t, status := status, observedGeneration := ms.generation, reason := reason,
      message := message })

/-! ## A grow alone leaves the template -/

/-- Under `Resize`, a live StatefulSet the diff finds nothing to update in is never written: a
    size change only resizes the claims. -/
theorem syncExisting_no_statefulSet_write {live d : StatefulSet} {st : StorageSpec} {c a : String}
    (hu : statefulSetNeedsUpdate live d = some false) (hp : storageUpdatePolicy st ≠ "Recreate") :
    All (fun r => r.writtenStatefulSet? = none) (syncExisting live d st c a) := by
  have upd : All (fun r => r.writtenStatefulSet? = none) (updateStatefulSetIfNeeded live d) := by
    unfold updateStatefulSetIfNeeded
    rw [hu]
    exact .pure _
  unfold syncExisting
  split_ifs
  · refine (resizePVCs_all (P := fun r => r.writtenStatefulSet? = none) rfl fun _ _ => rfl).bind
      fun r => ?_
    rcases r with e | ⟨⟩
    exacts [.pure _, upd]
  · exact upd

/-! ## The storage condition -/

section Condition

variable [QuantityParser]

/-- The storage condition is `ShrinkNotSupported` exactly when the template shows a shrink,
    whatever the claims' requests. -/
theorem updateStorageWarnings_reason {ms : MusicService} {t : String} (sts : StatefulSet)
    (c a size : String) :
    AllRet (fun _ => True) (fun ms' => ∃ r, (conditionOf t ms'.status.conditions).map (·.reason) =
      some r ∧ (r = "ShrinkNotSupported" ↔ shrinkRequested sts size = true))
      (updateStorageWarnings ms sts c a size t) := by
  have set : ∀ reason status message, (reason = "ShrinkNotSupported" ↔ shrinkRequested sts size = true) →
      AllRet (fun _ => True) (fun ms' => ∃ r, (conditionOf t ms'.status.conditions).map (·.reason) =
        some r ∧ (r = "ShrinkNotSupported" ↔ shrinkRequested sts size = true))
        (setStatusCondition ms t status reason message) :=
    fun _ _ _ hr => (setStatusCondition_reason ..).imp (fun _ h => h) fun _ h => ⟨_, h, hr⟩
  unfold updateStorageWarnings
  split
  · exact set _ _ _ (by simpa)
  · rename_i hs
    refine ((listPVCsByPrefix_all (n := ms.name) c a).imp (fun _ _ => trivial) fun _ h => h).bind
      fun r _ => ?_
    rcases r with e | l
    · exact set _ _ _ (by simpa using hs)
    · dsimp only
      split <;> exact set _ _ _ (by simpa using hs)

end Condition

/-- The shrink check reads the claim template only: every run of `updateStorageWarnings` records
    `ShrinkNotSupported` exactly when the declared size is below the template's request, in every
    store, whatever the claims request. And under `Resize`, a live StatefulSet the diff finds
    nothing to update in is never written, whatever fails, even when the size changed: growing
    the size alone leaves the template at the old size. -/
theorem shrink_check_reads_template [QuantityParser] :
    (∀ (ms : MusicService) (sts : StatefulSet) (c a size t : String) (o : Oracle) (s : Store)
      (ms' : MusicService), ((updateStorageWarnings ms sts c a size t).run o s).result = some ms' →
        ∃ r, (conditionOf t ms'.status.conditions).map (·.reason) = some r ∧
          (r = "ShrinkNotSupported" ↔ shrinkRequested sts size = true)) ∧
    ∀ (live d : StatefulSet) (st : StorageSpec) (c a : String) (o : Oracle) (s : Store),
      statefulSetNeedsUpdate live d = some false → storageUpdatePolicy st ≠ "Recreate" →
        ∀ r ∈ ((syncExisting live d st c a).run o s).trace, r.writtenStatefulSet? = none :=
  ⟨fun _ sts _ _ _ _ o s _ h => (updateStorageWarnings_reason sts ..).of_run o s h,
    fun _ _ _ _ _ o s hu hp => ((syncExisting_no_statefulSet_write hu hp).wp (m := true) (s := s)).run o
      (.inl rfl)⟩

/-- After the grow: the parent declares `10Gi` again over the same StatefulSet, and the claim
    requests `20Gi`. -/
def shrunkStore : Store :=
  sampleStore sampleSpec (some sampleSpec)
    [{ name := "music-data-m-0", storage := some (20 * 2 ^ 30), phase := "Bound" }]

/-- Growing to `20Gi` resizes the claim and leaves the StatefulSet, so after the size is set back
    to `10Gi` the next pass records `StorageHealthy`; the storage check of that pass, applied to
    the live StatefulSet, cannot report the shrink. -/
theorem sample_shrink_unreported :
    (((reconcile "m").run exactOracle growingStore).store.claims = shrunkStore.claims ∧
      ((reconcile "m").run exactOracle growingStore).store.statefulSets "m" =
        shrunkStore.statefulSets "m" ∧
      (((reconcile "m").run exactOracle shrunkStore).store.musicServices "m").bind (fun ms =>
        (conditionOf "StorageWarningApp" ms.status.conditions).map fun c => (c.status, c.reason)) =
          some ("True", "StorageHealthy")) ∧
    ∃ sts ms', shrunkStore.statefulSets "m" = some sts ∧ shrinkRequested sts "10Gi" = false ∧
      ((updateStorageWarnings (sampleParent sampleSpec) sts "music-data" "m" "10Gi"
        "StorageWarningApp").run exactOracle shrunkStore).result = some ms' ∧
      ∃ r, (conditionOf "StorageWarningApp" ms'.status.conditions).map (·.reason) = some r ∧
        r ≠ "ShrinkNotSupported" :=
  let ⟨sts, hs, hshrink, hrun⟩ : ∃ sts, shrunkStore.statefulSets "m" = some sts ∧
      shrinkRequested sts "10Gi" = false ∧
      ((updateStorageWarnings (sampleParent sampleSpec) sts "music-data" "m" "10Gi"
        "StorageWarningApp").run exactOracle shrunkStore).result.isSome :=
    ⟨_, rfl, by decide, by decide⟩
  let ⟨ms', hr⟩ := Option.isSome_iff_exists.mp hrun
  let ⟨r, hr', hiff⟩ := shrink_check_reads_template.1 _ _ _ _ _ _ _ _ _ hr
  ⟨by decide, sts, ms', hs, hshrink, hr, r, hr', fun h => absurd (hiff.mp h) (by simp [hshrink])⟩

end MusicOperator
