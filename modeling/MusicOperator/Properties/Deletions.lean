import MusicOperator.Properties.StatefulSetWrites

/-!
  What a pass deletes.

  The operator deletes in two places only: `deleteAutoscalerIfExists`, when `spec.autoscaling`
  is unset, and `recreateStatefulSetStorage`, when a tier's storage request changed under the
  `Recreate` policy. So, step by step:

  1. A StatefulSet step deletes only under `Recreate`: its StatefulSet and the claims of its
     tier (`syncStatefulSet_deletes`).
  2. The application autoscaler step deletes only `n-autoscaler`, and only while
     `spec.autoscaling` is unset (`appReconcileAutoscaler_deletes`); no other step deletes.
  3. A pass deletes only what its steps may (`pass_deletes`): no Service, Secret, parent or
     replica autoscaler is ever deleted, and under `Resize` — the default — no StatefulSet and no
     claim.
-/

namespace MusicOperator

open Prog Builder Reconciler Controller

/-- A request that removes an object or a claim. -/
def Req.IsDelete : Req → Prop
  | .delete .. | .deleteClaim _ => True
  | _ => False

/-- A delete of a StatefulSet step for `name` over the claims `c-a-*`: allowed under
    `Recreate` only, of the StatefulSet `name` or of a claim of the tier. -/
def RecreateDelete (name : String) (st : StorageSpec) (c a : String) (r : Req) : Prop :=
  storageUpdatePolicy st = "Recreate" ∧
    (r = .delete .statefulSet name ∨ ∃ n, r = .deleteClaim n ∧ hasPrefix n (claimPrefix c a) = true)

/-- The deletes a pass for `ms` may send: the application autoscaler while `spec.autoscaling` is
    unset; the application tier under its `Recreate` policy; the master and replica tiers, for
    an enabled database without high availability, under the database's `Recreate` policy. -/
def PassDelete (ms : MusicService) (r : Req) : Prop :=
  (r = .delete .autoscaler (ms.name ++ "-autoscaler") ∧ ms.spec.autoscaling = none) ∨
    RecreateDelete ms.name ms.spec.storage "music-data" ms.name r ∨
    (databaseEnabled ms = true ∧ databaseHAEnabled ms = false ∧
      (RecreateDelete (ms.name ++ "-db-master") (databaseStorageSpec ms) "db-data"
          (ms.name ++ "-db-master") r ∨
        RecreateDelete (ms.name ++ "-db-replica") (databaseStorageSpec ms) "db-data"
          (ms.name ++ "-db-replica") r))

/-- `PassDelete` reads the name and the spec only. -/
theorem passDelete_congr {ms ms' : MusicService} (hn : ms'.name = ms.name)
    (hs : ms'.spec = ms.spec) : PassDelete ms' = PassDelete ms := by
  obtain ⟨⟩ := ms
  obtain ⟨⟩ := ms'
  dsimp only at hn hs
  subst hn hs
  rfl

/-- A request that deletes nothing satisfies every delete condition. -/
theorem Req.IsDelete.none {r : Req} {P : Req → Prop} (h : ¬r.IsDelete) : r.IsDelete → P r :=
  fun h' => absurd h' h

/-! ## The steps -/

section Steps

variable {ms : MusicService}

/-- A StatefulSet step deletes only under `Recreate`: its StatefulSet and the claims `c-a-*`. -/
theorem syncStatefulSet_deletes {name : String} {desired : Option StatefulSet}
    {st : StorageSpec} {c a : String} :
    All (fun r => r.IsDelete → RecreateDelete name st c a r)
      (syncStatefulSet name desired st c a) := by
  refine syncStatefulSet_all nofun (fun _ _ => nofun) fun live d hl _ => ?_
  unfold syncExisting
  split_ifs with _ hp
  · exact recreate_all (fun _ => ⟨hp, .inl (by rw [hl])⟩) nofun
      fun n hn _ => ⟨hp, .inr ⟨n, rfl, hn⟩⟩
  · refine (resizePVCs_all nofun fun _ _ => nofun).bind fun r => ?_
    rcases r with e | ⟨⟩
    exacts [.pure _, updateStatefulSetIfNeeded_all nofun]
  · exact updateStatefulSetIfNeeded_all nofun

variable [QuantityParser]

/-- The application autoscaler step deletes only `n-autoscaler`, and only while
    `spec.autoscaling` is unset. -/
theorem appReconcileAutoscaler_deletes :
    All (fun r => r.IsDelete →
        r = .delete .autoscaler (ms.name ++ "-autoscaler") ∧ ms.spec.autoscaling = none)
      (AppReconciler.reconcileAutoscaler ms) := by
  cases ha : ms.spec.autoscaling with
  | none =>
    exact AppReconciler.reconcileAutoscaler_all (P := fun r => r.IsDelete →
        r = .delete .autoscaler (ms.name ++ "-autoscaler") ∧ none = none) nofun
      (fun _ _ => nofun) (fun _ _ _ _ => nofun) fun _ => ⟨rfl, rfl⟩
  | some _ =>
    simp only [AppReconciler.reconcileAutoscaler, ha]
    refine .call nofun fun x _ => ?_
    rcases x with e | live
    · show All _ (if e.isNotFound then _ else _)
      split
      · split
        exacts [.panic, .call nofun fun _ _ => .pure _]
      · exact .pure _
    · show All _ (match buildAutoscaler ms with | none => _ | some _ => _)
      split
      · exact .panic
      · split
        exacts [.call nofun fun _ _ => .pure _, .pure _]

variable [GaleraReconciler]
  (hG : ∀ ms : MusicService,
    All (fun r => ¬r.IsDelete) (GaleraReconciler.reconcileGalera ms) ∧
      All (fun r => ¬r.IsDelete) (GaleraReconciler.reconcileGaleraServices ms))

include hG in
/-- Every delete of a step of a pass for `ms` is one `PassDelete` allows. -/
theorem steps_deletes :
    ∀ st ∈ appSteps ms ++ databaseSteps ms, All (fun r => r.IsDelete → PassDelete ms r) st.2 := by
  have none : ∀ {α} {p : Prog α}, All (fun r => ¬r.IsDelete) p →
      All (fun r => r.IsDelete → PassDelete ms r) p := fun h => h.mono fun _ => Req.IsDelete.none
  intro st hst
  rcases List.mem_append.mp hst with h | h
  · rcases Controller.mem_appSteps h with e | e | e <;> rw [e]
    · exact none (AppReconciler.reconcileService_all nofun nofun)
    · exact syncStatefulSet_deletes.mono fun _ h hd => .inr (.inl (h hd))
    · exact appReconcileAutoscaler_deletes.mono fun _ h hd => .inl (h hd)
  obtain ⟨he, ⟨-, e | e⟩ | ⟨hno, e | e | e⟩ | e⟩ := Controller.mem_databaseSteps h <;> rw [e]
  · exact none (hG ms).1
  · exact none (hG ms).2
  · exact syncStatefulSet_deletes.mono fun _ h hd => .inr (.inr ⟨he, hno, .inl (h hd)⟩)
  · exact DatabaseReconciler.reconcileReplicas_all
      (none (DatabaseReconciler.ensureReplicationSecret_all nofun nofun fun _ _ => ⟨nofun, nofun⟩))
      (syncStatefulSet_deletes.mono fun _ h hd => .inr (.inr ⟨he, hno, .inr (h hd)⟩))
  · exact none (DatabaseReconciler.reconcileServices_all nofun nofun
      (DatabaseReconciler.reconcileReadService_all nofun nofun))
  · exact none (DatabaseReconciler.reconcileAutoscaler_all nofun (fun _ _ => nofun)
      fun _ _ _ _ => nofun)

include hG in
/-- **What a pass deletes.** Provided the Galera steps delete nothing, in every run of a pass
    for the object stored under `name`, from any store and whatever fails, every `Delete` and
    every claim delete is one of: the application autoscaler `name-autoscaler`, while
    `spec.autoscaling` is unset; the StatefulSet `name` or a claim `music-data-name-*`, under the
    application tier's `Recreate` policy; the StatefulSet `name-db-master` or `name-db-replica`
    or a claim of that tier, for an enabled database without high availability, under the
    database's `Recreate` policy. No Service, Secret, parent or replica autoscaler is deleted. -/
theorem pass_deletes {name : String} {s : Store} {ms : MusicService}
    (hs : s.musicServices name = some ms) (o : Oracle) :
    ∀ r ∈ ((reconcile name).run o s).trace, r.IsDelete → PassDelete { ms with name := name } r :=
  (reconcile_wp (m := true) s nofun fun ms' h => by
    cases hs.symm.trans h
    exact reconcileObject_all (fun _ _ => nofun) fun ms'' hn hsp =>
      reconcileLive_all (fun ms''' hn' hsp' st hst => (steps_deletes hG st hst).mono
          fun _ h hd => passDelete_congr (hn'.trans hn) (hsp'.trans hsp) ▸ h hd)
        fun r hr hd => by cases r <;> first | exact hd.elim | exact hr.elim).run o (.inl rfl)

end Steps

/-- The interrupted recreate of the storage claims: the deletes of a pass from
    `interruptedStore`, failing at its seventh request or not at all, are all allowed. -/
theorem sample_pass_deletes :
    List.Forall (fun r => r.IsDelete → PassDelete { sampleParent recreateSpec with name := "m" } r)
      ((reconcile "m").run exactOracle interruptedStore).trace ∧
    List.Forall (fun r => r.IsDelete → PassDelete { sampleParent recreateSpec with name := "m" } r)
      ((reconcile "m").run (failingAt 6) interruptedStore).trace :=
  ⟨List.forall_iff_forall_mem.mpr (pass_deletes (fun _ => ⟨.pure _, .pure _⟩) rfl exactOracle),
    List.forall_iff_forall_mem.mpr (pass_deletes (fun _ => ⟨.pure _, .pure _⟩) rfl (failingAt 6))⟩

example : ((reconcile "m").run exactOracle interruptedStore).store.statefulSets "m" = none := by
  decide

end MusicOperator
