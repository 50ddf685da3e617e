import MusicOperator.Properties.Settle

/-!
  Where a pass panics.

  `Prog.panic` is a Go panic: a `nil` dereference or `resource.MustParse` on a string it
  rejects. The CRD schema requires a storage size only to be a non-empty string
  (`StorageSpec.Admitted`), so a parent it admits can carry a size the parser rejects.

  1. Without a descriptor, a StatefulSet step panics against the exact store whether the
     StatefulSet exists or not (`syncStatefulSet_none_panics`).
  2. The application descriptor is missing exactly when the parser rejects `spec.storage.size`,
     and the step before it, the application Service, succeeds against the exact store; so every
     failure-free pass for a live parent with such a size panics (`malformed_size_panics`),
     rather than recording the error with `UpdateError`.
-/

namespace MusicOperator

open Prog Builder Reconciler Controller

/-! ## A malformed application storage size -/

section Malformed

variable {s : Store} {ms : MusicService}

/-- With no descriptor, a StatefulSet step against the exact store panics. -/
theorem syncStatefulSet_none_panics (name : String) (st : StorageSpec) (c a : String) :
    Wp false (syncStatefulSet name none st c a) (fun r _ _ => r = none) s := by
  simp only [syncStatefulSet, getObj, send, bind_eq, call_bind, Prog.pure_bind, Wp.get, Store.get]
  refine ⟨nofun, ?_⟩
  cases s.lookup .statefulSet name <;> simp [Store.notFound, ApiError.isNotFound]

variable [QuantityParser]

theorem buildAppStatefulSet_eq_none (hp : mustParse ms.spec.storage.size = none) :
    buildAppStatefulSet ms = none := by
  simp [buildAppStatefulSet, hp]

theorem reconcileStatefulSet_malformed (hp : mustParse ms.spec.storage.size = none) :
    Wp false (AppReconciler.reconcileStatefulSet ms) (fun r _ _ => r = none) s := by
  unfold AppReconciler.reconcileStatefulSet
  rw [buildAppStatefulSet_eq_none hp]
  exact syncStatefulSet_none_panics _ _ _ _

/-- The Service step succeeds, then the StatefulSet step panics. -/
theorem runSteps_appSteps_malformed (hp : mustParse ms.spec.storage.size = none) :
    Wp false (runSteps (appSteps ms)) (fun r _ _ => r = none) s := by
  simp only [appSteps, runSteps, bind_eq]
  refine Wp.bind_of (reconcileService_settles ms s) (fun r s₁ _ ⟨hr, _⟩ => ?_)
    fun _ _ ⟨h, _⟩ => nomatch h
  cases hr
  exact Wp.bind_of (reconcileStatefulSet_malformed hp) (fun _ _ _ h => nomatch h) fun _ _ _ => rfl

variable [GaleraReconciler]

theorem reconcileLive_malformed (hp : mustParse ms.spec.storage.size = none) :
    Wp false (reconcileLive ms) (fun r _ _ => r = none) s :=
  Wp.bind_of (runSteps_appSteps_malformed hp) (fun _ _ _ h => nomatch h) fun _ _ _ => rfl

theorem reconcileObject_malformed {x : MusicService} (hl : s.musicServices ms.name = some x)
    (hd : ms.deletionTimestamp = none) (hp : mustParse ms.spec.storage.size = none) :
    Wp false (reconcileObject ms) (fun r _ _ => r = none) s := by
  unfold reconcileObject
  simp only [hd, Option.isSome_none, Bool.false_eq_true, if_false]
  split
  · exact reconcileLive_malformed hp
  · simp only [Prog.updateObj, send, bind_eq, call_bind, Prog.pure_bind, Wp.update]
    refine ⟨nofun, ?_⟩
    simp only [Store.update, Store.lookup, Kind.nameOf, hl]
    exact reconcileLive_malformed hp

/-- Every failure-free pass for a live parent whose storage size the parser rejects panics. -/
theorem malformed_size_panics {name : String} (hs : s.musicServices name = some ms)
    (hd : ms.deletionTimestamp = none) (hp : mustParse ms.spec.storage.size = none) :
    Wp false (reconcile name) (fun r _ _ => r = none) s := by
  simp only [reconcile, getObj, send, bind_eq, call_bind, Prog.pure_bind, Wp.get, Store.get,
    Store.lookup, hs]
  exact ⟨nofun, reconcileObject_malformed hs hd hp⟩

end Malformed

/-- The parent spec of the concrete runs with the storage size `abc`, which the schema admits. -/
def malformedSpec : MusicServiceSpec := { sampleSpec with storage := { size := "abc" } }

/-- The parent `m` with size `abc` is admitted, and every failure-free pass for it panics. -/
theorem sample_malformed_size_panics :
    (sampleParent malformedSpec).spec.Admitted ∧
      Wp false (reconcile "m") (fun r _ _ => r = none) (sampleStore malformedSpec none []) :=
  ⟨by decide, malformed_size_panics rfl rfl (by decide)⟩

example : ((reconcile "m").run exactOracle (sampleStore malformedSpec none [])).result = none := by
  decide

end MusicOperator
