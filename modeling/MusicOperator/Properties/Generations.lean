import MusicOperator.Properties.Parents
import MusicOperator.Properties.Passes

/-!
  Observed generations.

  The API server bumps a parent's `metadata.generation` on every spec edit. The pass copies the
  generation it fetched into `status.observedGeneration` and into the `observedGeneration` of
  every condition it sets. So no stored status names a generation its object has not reached
  (`GenerationsObserved`), whatever the passes, the edits and the failures:

  1. In memory: every status-manager operation keeps the object `Fresh` for the parent `x` the
     pass fetched — `x`'s name, generation and spec, and a status that names no generation above
     `x`'s when `x`'s does not — and writes only fresh objects (`updateReconciled_fresh`, ...,
     `updateDatabase_fresh`).
  2. One pass: every request of the pass for `x` is `GenSafe`: a write of a child, a status
     write of a fresh object, or the finalizer `Update` at `x`'s generation
     (`reconcileObject_genSafe`). Each keeps `PassInv` — the invariant, and the object at `x`'s
     generation — (`PassInv.answer`), so the pass keeps the invariant
     (`reconcile_generationsObserved`).
  3. A run: an edit raises a generation and changes no status (`editSpec_generationsObserved`),
     so every run of passes and edits keeps the invariant (`events_keep_generations_observed`).
-/

namespace MusicOperator

open Prog Status Manager Controller
open Reconciler (GaleraReconciler sampleStore sampleSpec recreateSpec exactOracle failingAt)

/-- No generation the status names is above `g`: neither `observedGeneration` nor any
    condition's. -/
structure StatusBelow (g : Int) (st : MusicServiceStatus) : Prop where
  observed : st.observedGeneration ≤ g
  conditions : ∀ c ∈ st.conditions, c.observedGeneration ≤ g

/-- No stored parent's status names a generation above the parent's own. -/
def GenerationsObserved (s : Store) : Prop :=
  ∀ n x, s.musicServices n = some x → StatusBelow x.generation x.status

theorem StatusBelow.mono {g g' : Int} {st : MusicServiceStatus} (h : StatusBelow g st)
    (hg : g ≤ g') : StatusBelow g' st :=
  ⟨h.observed.trans hg, fun c hc => (h.conditions c hc).trans hg⟩

/-! ## `setCondition` -/

section SetCondition

variable (now : Time) (c₀ : Condition)

/-- A condition `setConditionLoop` leaves was there before, or carries `c₀`'s generation. -/
theorem setConditionLoop_observed : ∀ cs : List Condition, ∀ c ∈ setConditionLoop now c₀ cs,
    c ∈ cs ∨ c.observedGeneration = c₀.observedGeneration
  | [], c, h => .inr (by rw [List.mem_singleton.mp h])
  | d :: cs, c, h => by
    unfold setConditionLoop at h
    split at h
    · rcases List.mem_cons.mp h with rfl | h
      exacts [.inr rfl, .inl (List.mem_cons_of_mem _ h)]
    · rcases List.mem_cons.mp h with rfl | h
      exacts [.inl (List.mem_cons_self _ _),
        (setConditionLoop_observed cs c h).imp_left (List.mem_cons_of_mem _)]

theorem setCondition_observed (cs : List Condition) : ∀ c ∈ setCondition now cs c₀,
    c ∈ cs ∨ c.observedGeneration = c₀.observedGeneration := by
  unfold setCondition
  split
  exacts [setConditionLoop_observed now _ cs, setConditionLoop_observed now _ cs]

end SetCondition

/-! ## The object in memory -/

/-- The object a pass for the fetched parent `x` holds in memory: `x`'s name, generation and
    spec, and — when `x`'s status names no generation above `x`'s — a status that names none
    either. -/
structure Fresh (x ms : MusicService) : Prop where
  name : ms.name = x.name
  generation : ms.generation = x.generation
  spec : ms.spec = x.spec
  status : StatusBelow x.generation x.status → StatusBelow x.generation ms.status

/-- A request of a pass for the fetched parent `x`: a write of a child or a claim (or no
    write), a status write of a fresh object, or an `Update` of `x`'s name at `x`'s
    generation. -/
def Req.GenSafe (x : MusicService) (r : Req) : Prop :=
  r.WritesIn childRegion ∨ (∃ ms, r = .updateStatus ms ∧ Fresh x ms) ∨
    ∃ y, r = .update .musicService y ∧ y.name = x.name ∧ y.generation = x.generation

section Memory

variable {x ms : MusicService}

/-- The fetched object itself. -/
theorem Fresh.refl (x : MusicService) : Fresh x x := ⟨rfl, rfl, rfl, id⟩

/-- A status edit that names no later generation and keeps the conditions. -/
theorem Fresh.withStatus (h : Fresh x ms) {st : MusicServiceStatus}
    (ho : st.observedGeneration ≤ x.generation) (hc : st.conditions = ms.status.conditions) :
    Fresh x { ms with status := st } :=
  ⟨h.name, h.generation, h.spec, fun hx => ⟨ho, hc ▸ (h.status hx).conditions⟩⟩

/-- A status edit that keeps `observedGeneration` and the conditions. -/
theorem Fresh.edit (h : Fresh x ms) {st : MusicServiceStatus}
    (ho : st.observedGeneration = ms.status.observedGeneration)
    (hc : st.conditions = ms.status.conditions) : Fresh x { ms with status := st } :=
  ⟨h.name, h.generation, h.spec, fun hx =>
    ⟨ho ▸ (h.status hx).observed, hc ▸ (h.status hx).conditions⟩⟩

theorem setStatusCondition_fresh (h : Fresh x ms) (type status reason message : String) :
    AllRet (Req.GenSafe x) (Fresh x) (setStatusCondition ms type status reason message) :=
  .call (.inl trivial) fun now _ => .pure ⟨h.name, h.generation, h.spec, fun hx =>
    ⟨(h.status hx).observed, fun c hc => (setCondition_observed now _ _ c hc).elim
      ((h.status hx).conditions c) fun e => (e.trans h.generation).le⟩⟩

theorem updateReconciled_fresh (h : Fresh x ms) :
    AllRet (Req.GenSafe x) (fun p : MusicService × Except ApiError Unit => Fresh x p.1)
      (updateReconciled ms) :=
  (setStatusCondition_fresh h ..).bind fun _ h' => .call (.inl trivial) fun _ _ =>
    .call (.inr (.inl ⟨_, rfl, by exact h'.edit rfl rfl⟩)) fun _ _ => .pure (h'.edit rfl rfl)

theorem updateError_fresh (h : Fresh x ms) (reason message : String) :
    AllRet (Req.GenSafe x) (fun p : MusicService × Except ApiError Unit => Fresh x p.1)
      (updateError ms reason message) :=
  .call (.inl trivial) fun _ _ =>
    (setStatusCondition_fresh (by exact h.edit rfl rfl) ..).bind fun _ h' =>
      .call (.inr (.inl ⟨_, rfl, h'⟩)) fun _ _ => .pure h'

theorem setAvailability_fresh (h : Fresh x ms) (ready replicas : Int) :
    AllRet (Req.GenSafe x) (Fresh x) (setAvailability ms ready replicas) := by
  unfold setAvailability
  split_ifs <;> exact setStatusCondition_fresh (by exact h.edit rfl rfl) ..

theorem updateReplicaStatus_fresh (h : Fresh x ms) :
    AllRet (Req.GenSafe x) (Fresh x) (updateReplicaStatus ms) := by
  unfold updateReplicaStatus
  split
  · exact .panic
  · split
    · refine AllRet.send_bind (.inl trivial) fun x _ => ?_
      rcases x with e | sts
      · dsimp only
        split
        · exact setStatusCondition_fresh (by exact h.edit rfl rfl) ..
        · exact .pure h
      · exact AllRet.send_bind (.inl trivial) fun _ _ =>
          setStatusCondition_fresh (by exact h.edit rfl rfl) ..
    · exact .pure h

variable [QuantityParser]

theorem updateStorageWarnings_fresh (h : Fresh x ms) (sts : StatefulSet) (c a size type : String) :
    AllRet (Req.GenSafe x) (Fresh x) (updateStorageWarnings ms sts c a size type) := by
  unfold updateStorageWarnings
  split
  · exact setStatusCondition_fresh h ..
  · refine (AllRet.send_bind (Q := fun _ => True) (.inl trivial) fun x _ => by
      rcases x with e | l <;> exact .pure trivial).bind fun r _ => ?_
    rcases r with e | l
    · exact setStatusCondition_fresh h ..
    · dsimp only
      split <;> exact setStatusCondition_fresh h ..

theorem updateFromAppStatefulSet_fresh (h : Fresh x ms) (sts : StatefulSet) :
    AllRet (Req.GenSafe x) (fun p : MusicService × Except ApiError Unit => Fresh x p.1)
      (updateFromAppStatefulSet ms sts) := by
  unfold updateFromAppStatefulSet
  split
  · exact .panic
  · exact (setAvailability_fresh (by exact h.withStatus h.generation.le rfl) ..).bind fun _ h' =>
      (updateStorageWarnings_fresh h' ..).bind fun _ h'' =>
        .call (.inr (.inl ⟨_, rfl, h''⟩)) fun _ _ => .pure h''

theorem updateMasterStatus_fresh (h : Fresh x ms) :
    AllRet (Req.GenSafe x) (Fresh x) (updateMasterStatus ms) := by
  refine AllRet.send_bind (.inl trivial) fun x _ => ?_
  rcases x with e | sts
  · exact .pure h
  · dsimp only
    split
    · exact .panic
    · split
      · exact updateStorageWarnings_fresh (by exact h.edit rfl rfl) ..
      · exact .pure (h.edit rfl rfl)

theorem updateDatabase_fresh (h : Fresh x ms) :
    AllRet (Req.GenSafe x) (fun p : MusicService × Except ApiError Unit => Fresh x p.1)
      (updateDatabase ms) := by
  unfold updateDatabase
  refine (updateMasterStatus_fresh ?_).bind fun _ h' => (updateReplicaStatus_fresh h').bind
    fun _ h'' => .call (.inr (.inl ⟨_, rfl, h''⟩)) fun _ _ => .pure h''
  split
  exacts [h.edit rfl rfl, h]

theorem syncAppStatus_fresh (h : Fresh x ms) :
    AllRet (Req.GenSafe x) (fun p : MusicService × Except ApiError Unit => Fresh x p.1)
      (syncAppStatus ms) :=
  AllRet.send_bind (.inl trivial) fun x _ => by
    rcases x with e | sts
    exacts [.pure h, updateFromAppStatefulSet_fresh h _]

theorem syncDatabaseStatus_fresh (h : Fresh x ms) :
    AllRet (Req.GenSafe x) (fun p : MusicService × Except ApiError Unit => Fresh x p.1)
      (syncDatabaseStatus ms) := by
  unfold syncDatabaseStatus
  split
  exacts [updateDatabase_fresh h, .pure h]

end Memory

/-! ## The store during a pass -/

/-- During a pass for `n` at generation `g`: no stored status names a generation above its
    object's, and `n`, when stored, is at generation `g`. -/
structure PassInv (n : String) (g : Int) (s : Store) : Prop where
  observed : GenerationsObserved s
  generation : ∀ y, s.musicServices n = some y → y.generation = g

namespace PassInv

variable {n : String} {g : Int} {s s' : Store}

theorem of_agree (h : PassInv n g s) (ha : Store.Agree childRegion s s') : PassInv n g s' := by
  have e : ∀ m, s'.musicServices m = s.musicServices m := fun m =>
    ha.1 .musicService m fun h => h rfl
  exact ⟨fun m x hx => h.observed m x ((e m).symm.trans hx),
    fun y hy => h.generation y ((e n).symm.trans hy)⟩

/-- Storing, under `n`, nothing or an object at generation `g` whose status names no later
    one. -/
theorem put (h : PassInv n g s) {x : Option MusicService}
    (hx : ∀ y, x = some y → y.generation = g ∧ StatusBelow g y.status) :
    PassInv n g (s.put .musicService n x) := by
  have e : ∀ m, (s.put .musicService n x).musicServices m =
      if m = n then x else s.musicServices m := fun m => Store.lookup_put s .musicService n m _
  refine ⟨fun m y hy => ?_, fun y hy => ?_⟩
  · rw [e] at hy
    split_ifs at hy
    · exact (hx y hy).1 ▸ (hx y hy).2
    · exact h.observed m y hy
  · rw [e, if_pos rfl] at hy
    exact (hx y hy).1

theorem guard {α : Type} (h : PassInv n g s) (o : Oracle) (p : Except ApiError α × Store)
    (hp : PassInv n g p.2) : PassInv n g (o.guard s p).2 := by
  unfold Oracle.guard
  split
  exacts [h, hp]

/-- Every request of a pass for the fetched parent `x` keeps the invariant at `x`'s name and
    generation. -/
theorem answer {x : MusicService} {r : Req} (hr : r.GenSafe x)
    (hx : StatusBelow x.generation x.status) (h : PassInv x.name x.generation s) (o : Oracle) :
    PassInv x.name x.generation (s.answer o r).2 := by
  rcases hr with hr | ⟨ms, rfl, hf⟩ | ⟨y, rfl, hn, hy⟩
  · exact h.of_agree (s.answer_agree o hr)
  · refine h.guard o _ ?_
    unfold Store.updateStatus
    split
    · rename_i st hst
      rw [hf.name] at hst ⊢
      exact h.put fun y hy => by cases hy; exact ⟨h.generation st hst, hf.status hx⟩
    · exact h
  · refine h.guard o _ ?_
    unfold Store.update
    split
    · rename_i st hst
      replace hst : s.musicServices x.name = some st := hn ▸ hst
      have hb : StatusBelow x.generation st.status := h.generation st hst ▸ h.observed _ st hst
      simp only [Kind.nameOf_musicService, hn]
      exact h.put fun z hz => by
        cases Store.Kind.finalize_eq_some hz
        exact ⟨hy, hb⟩
    · exact h

end PassInv

/-! ## One pass -/

section Pass

variable {x ms : MusicService}

theorem initDatabaseStatus_fresh (h : Fresh x ms) : Fresh x (initDatabaseStatus ms) := by
  unfold initDatabaseStatus
  split
  exacts [h.edit rfl rfl, h]

theorem failPass_genSafe (h : Fresh x ms) (reason : String) (e : ApiError) :
    All (Req.GenSafe x) (failPass ms reason e) :=
  (updateError_fresh h ..).bind_all fun _ _ => .pure _

variable [QuantityParser]

theorem syncStatus_genSafe (h : Fresh x ms) : All (Req.GenSafe x) (syncStatus ms) := by
  refine (syncAppStatus_fresh h).bind_all fun ⟨ms, r⟩ h => ?_
  rcases r with e | ⟨⟩
  · exact .pure _
  refine (syncDatabaseStatus_fresh h).bind_all fun ⟨ms, r⟩ h => ?_
  rcases r with e | ⟨⟩
  · exact .pure _
  refine (updateReconciled_fresh h).bind_all fun ⟨ms, r⟩ _ => ?_
  rcases r with e | ⟨⟩ <;> exact .pure _

variable [GaleraReconciler]
  (hG : ∀ ms : MusicService,
    All (Req.WritesIn childRegion) (GaleraReconciler.reconcileGalera ms) ∧
      All (Req.WritesIn childRegion) (GaleraReconciler.reconcileGaleraServices ms))
include hG

/-- The pass for a live object: its steps write children, and the status manager writes the
    object as initialised, at the generation it was fetched at. -/
theorem reconcileLive_genSafe (h : Fresh x ms) : All (Req.GenSafe x) (reconcileLive ms) := by
  have steps : ∀ ms' : MusicService, ∀ st ∈ appSteps ms' ++ databaseSteps ms',
      All (Req.GenSafe x) st.2 := fun ms' st hst =>
    (steps_writesIn_childRegion hG ms' st hst).mono fun _ => .inl
  have h₀ : Fresh x { ms with
      status.observedGeneration := ms.generation, status.desiredReplicas := ms.spec.replicas } :=
    h.withStatus h.generation.le rfl
  refine (runSteps_all _ fun st hst => steps _ st (List.mem_append_left _ hst)).bind fun r => ?_
  rcases r with _ | ⟨reason, e⟩
  · refine (runSteps_all _ fun st hst => steps _ st (List.mem_append_right _ hst)).bind fun r => ?_
    rcases r with _ | ⟨reason, e⟩
    · exact syncStatus_genSafe (initDatabaseStatus_fresh h₀)
    · exact failPass_genSafe (initDatabaseStatus_fresh h₀) ..
  · exact failPass_genSafe h₀ ..

theorem reconcileObject_genSafe (h : Fresh x ms) : All (Req.GenSafe x) (reconcileObject ms) := by
  have upd : ∀ f, Req.GenSafe x (.update .musicService { ms with finalizers := f }) :=
    fun _ => .inr (.inr ⟨_, rfl, h.name, h.generation⟩)
  unfold reconcileObject
  split_ifs
  · exact All.send_bind (upd _) fun y _ => by rcases y with e | ⟨⟩ <;> exact .pure _
  · exact .pure _
  · exact reconcileLive_genSafe hG h
  · exact All.send_bind (upd _) fun y _ => by
      rcases y with e | ⟨⟩
      exacts [.pure _, reconcileLive_genSafe hG ⟨h.name, h.generation, h.spec, h.status⟩]

/-- Every run of a pass keeps the invariant. -/
theorem reconcile_generationsObserved {m : Bool} (n : String) :
    Keeps m (fun s s' => GenerationsObserved s → GenerationsObserved s') (reconcile n) := fun s => by
  by_cases hs : GenerationsObserved s
  · simp only [reconcile, getObj, send, bind_eq, call_bind, Prog.pure_bind]
    refine Wp.get_of (fun _ _ => hs) fun x hx => ?_
    refine ((reconcileObject_genSafe hG (Fresh.refl _)).keeps_of (m := m)
      (R := fun s s' => PassInv n x.generation s → PassInv n x.generation s') (fun _ => id)
      (fun h₁ h₂ hi => h₂ (h₁ hi))
      (fun r s o hr hi => PassInv.answer (x := Kind.withName .musicService n x) hr (hs n x hx) hi o)
      s).mono
      fun _ _ _ hk _ => (hk ⟨hs, fun y hy => ?_⟩).observed
    cases hx.symm.trans hy
    rfl
  · exact (Wp.trivial _).mono fun _ _ _ _ h => absurd h hs

end Pass

/-! ## Runs of passes and edits -/

/-- What happens to a namespace: a pass for a name, answered by an oracle, or a user's edit of a
    parent's spec. -/
inductive Event where
  | pass (name : String) (o : Oracle)
  | edit (name : String) (spec : MusicServiceSpec)

/-- An edit raises one generation and changes no status. -/
theorem editSpec_generationsObserved {s : Store} (h : GenerationsObserved s) (n : String)
    (spec : MusicServiceSpec) : GenerationsObserved (s.editSpec n spec) := fun m x hx => by
  simp only [Store.editSpec, Function.update_apply] at hx
  split_ifs at hx
  · obtain ⟨y, hy, rfl⟩ := Option.map_eq_some'.mp hx
    exact (h _ y hy).mono (Int.le_add_one le_rfl)
  · exact h m x hx

section Runs

variable [QuantityParser] [GaleraReconciler]

def Event.apply : Event → Store → Store
  | .pass name o, s => ((reconcile name).run o s).store
  | .edit name spec, s => s.editSpec name spec

/-- The store after the events `es`, in order. -/
def runEvents : List Event → Store → Store
  | [], s => s
  | e :: es, s => runEvents es (e.apply s)

/-- **Observed generations over runs.** Provided the Galera steps write no parent, from a
    namespace where no status names a generation above its object's, every run of passes and
    spec edits, under any store failures, keeps it so: `status.observedGeneration` and the
    `observedGeneration` of every condition stay at most `metadata.generation`. -/
theorem events_keep_generations_observed
    (hG : ∀ ms : MusicService,
      All (Req.WritesIn childRegion) (GaleraReconciler.reconcileGalera ms) ∧
        All (Req.WritesIn childRegion) (GaleraReconciler.reconcileGaleraServices ms)) :
    ∀ (es : List Event) (s : Store), GenerationsObserved s → GenerationsObserved (runEvents es s)
  | [], _, hs => hs
  | .pass name o :: es, s, hs => events_keep_generations_observed hG es _
      (Wp.run (reconcile_generationsObserved hG name s) o (.inl rfl) hs)
  | .edit name spec :: es, _, hs => events_keep_generations_observed hG es _
      (editSpec_generationsObserved hs name spec)

end Runs

/-- The sample namespaces hold the parent `m` with the default status. -/
theorem sampleStore_generationsObserved (spec : MusicServiceSpec) (built : Option MusicServiceSpec)
    (claims : List PersistentVolumeClaim) : GenerationsObserved (sampleStore spec built claims) :=
  fun n x hx => by
    simp only [sampleStore] at hx
    split_ifs at hx
    cases hx
    exact ⟨le_rfl, nofun⟩

/-- A pass for `m`, an edit of its spec, and a pass failing at its fourth request. -/
theorem sample_generations_observed :
    GenerationsObserved (runEvents [.pass "m" exactOracle, .edit "m" recreateSpec,
      .pass "m" (failingAt 3)] (sampleStore sampleSpec none [])) :=
  events_keep_generations_observed (fun _ => ⟨.pure _, .pure _⟩) _ _
    (sampleStore_generationsObserved _ _ _)

/-- After a pass and an edit, `m` is at generation `1` with the status observed at `0`. -/
example : ((runEvents [.pass "m" exactOracle, .edit "m" recreateSpec]
    (sampleStore sampleSpec none [])).musicServices "m").map
      (fun x => (x.generation, x.status.observedGeneration)) = some (1, 0) := by
  decide

end MusicOperator
