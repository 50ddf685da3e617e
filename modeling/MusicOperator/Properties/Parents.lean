import MusicOperator.Properties.Secrets

/-!
  What the operator does to the parents.

  The `MusicService` objects belong to the user: a pass writes them only by the finalizer
  `Update` of the object it fetched and by status writes. The argument has three layers.

  1. One request: a request of a step writes a child key or a claim
     (`steps_writesIn_childRegion`), a status write replaces one parent's status only, and the
     finalizer `Update` keeps the object as fetched but for the operator's finalizer
     (`ParentStep.addFinalizer`, `ParentStep.removeFinalizer`).
  2. One pass: `ParentsKept` — no parent created; one deleted only once the operator's
     finalizer, its last, is removed under a deletion mark (the API server deletes it then);
     every other one kept with its spec, generation, deletion mark and every other finalizer,
     the operator's finalizer added only to a live object and removed only from one being
     deleted — is reflexive and transitive, so the pass keeps it (`reconcile_parentsKept`).
  3. A run: every run of passes keeps it (`passes_keep_parents`).

  Apart from that, a pass for an object being deleted touches nothing but that object: cleanup
  of the children is left to their owner references (`deleting_pass`).
-/

namespace MusicOperator

open Prog Reconciler Controller

/-! ## Parents and children -/

/-- Every key but the parents', and every claim: what the steps may write. -/
def childRegion : Region := ⟨fun key => key.kind ≠ .musicService, fun _ => true⟩

theorem ofKeys_sub_childRegion {keys : List Key} {pfxs : List String}
    (h : ∀ k ∈ keys, k.kind ≠ .musicService) : (Region.ofKeys keys pfxs).Sub childRegion :=
  ⟨h, fun _ _ => rfl⟩

/-- What a pass may change in one stored parent `x`, leaving `x'`: nothing but the status and
    the operator's finalizer, which it adds only to an object not being deleted and removes only
    from one being deleted. -/
structure ParentStep (x x' : MusicService) : Prop where
  spec : x'.spec = x.spec
  generation : x'.generation = x.generation
  deletionTimestamp : x'.deletionTimestamp = x.deletionTimestamp
  others : x'.finalizers.filter (· ≠ musicServiceFinalizerName) =
    x.finalizers.filter (· ≠ musicServiceFinalizerName)
  added : musicServiceFinalizerName ∈ x'.finalizers → musicServiceFinalizerName ∉ x.finalizers →
    x.deletionTimestamp = none
  removed : musicServiceFinalizerName ∈ x.finalizers →
    musicServiceFinalizerName ∉ x'.finalizers → x.deletionTimestamp ≠ none

/-- What the operator's writes may do to the parent stored under one name: leave an absent one
    absent, step a stored one, or remove one with a deletion mark whose finalizers were all the
    operator's — the API server deletes it once that last finalizer is removed. -/
inductive ParentChange : Option MusicService → Option MusicService → Prop
  | absent : ParentChange none none
  | step {x x' : MusicService} : ParentStep x x' → ParentChange (some x) (some x')
  | finalized {x : MusicService} : x.deletionTimestamp ≠ none →
      musicServiceFinalizerName ∈ x.finalizers →
      x.finalizers.filter (· ≠ musicServiceFinalizerName) = [] → ParentChange (some x) none

/-- `ParentChange` at every name: no parent is created, and one is deleted only as finalized. -/
def ParentsKept (s s' : Store) : Prop :=
  ∀ n, ParentChange (s.musicServices n) (s'.musicServices n)

namespace ParentStep

variable {x y z : MusicService}

/-- A status write keeps everything `ParentStep` looks at. -/
theorem status (x : MusicService) (st : MusicServiceStatus) : ParentStep x { x with status := st } :=
  ⟨rfl, rfl, rfl, rfl, fun h h' => absurd h h', fun h h' => absurd h h'⟩

theorem refl (x : MusicService) : ParentStep x x := status x x.status

theorem trans (h₁ : ParentStep x y) (h₂ : ParentStep y z) : ParentStep x z where
  spec := h₂.spec.trans h₁.spec
  generation := h₂.generation.trans h₁.generation
  deletionTimestamp := h₂.deletionTimestamp.trans h₁.deletionTimestamp
  others := h₂.others.trans h₁.others
  added hz hx := by
    by_cases hy : musicServiceFinalizerName ∈ y.finalizers
    · exact h₁.added hy hx
    · exact h₁.deletionTimestamp.symm.trans (h₂.added hz hy)
  removed hx hz := by
    by_cases hy : musicServiceFinalizerName ∈ y.finalizers
    · exact fun h => h₂.removed hy hz (h₁.deletionTimestamp.trans h)
    · exact h₁.removed hx hy

/-- The finalizer `Update` of a live object (`controllerutil.AddFinalizer`). -/
theorem addFinalizer (hd : x.deletionTimestamp = none) (n : String) :
    ParentStep x { x with name := n, finalizers := x.finalizers ++ [musicServiceFinalizerName] } :=
  ⟨rfl, rfl, rfl, by simp, fun _ _ => hd, fun h h' => absurd (List.mem_append_left _ h) h'⟩

/-- The finalizer `Update` of an object being deleted (`controllerutil.RemoveFinalizer`). -/
theorem removeFinalizer (hd : x.deletionTimestamp ≠ none) (n : String) :
    ParentStep x
      { x with name := n, finalizers := x.finalizers.filter (· ≠ musicServiceFinalizerName) } :=
  ⟨rfl, rfl, rfl, by simp, fun h _ => absurd h (by simp), fun _ _ => hd⟩

end ParentStep

namespace ParentChange

theorem refl : ∀ x : Option MusicService, ParentChange x x
  | none => .absent
  | some x => .step (.refl x)

theorem trans : ∀ {a b c : Option MusicService}, ParentChange a b → ParentChange b c →
    ParentChange a c
  | _, _, _, .absent, .absent => .absent
  | _, _, _, .step h, .step h' => .step (h.trans h')
  | _, _, _, .step h, .finalized hd hf hr =>
    have hd' := h.deletionTimestamp ▸ hd
    .finalized hd' (by_contra fun hx => hd' (h.added hf hx)) (h.others ▸ hr)
  | _, _, _, .finalized hd hf hr, .absent => .finalized hd hf hr

end ParentChange

namespace ParentsKept

variable {s s₁ s₂ : Store}

theorem refl (s : Store) : ParentsKept s s := fun _ => .refl _

theorem trans (h₁ : ParentsKept s s₁) (h₂ : ParentsKept s₁ s₂) : ParentsKept s s₂ :=
  fun n => (h₁ n).trans (h₂ n)

/-- Stores that agree outside the children hold the same parents. -/
theorem of_agree (h : Store.Agree childRegion s s₁) : ParentsKept s s₁ := fun n => by
  rw [show s₁.musicServices n = s.musicServices n from h.1 .musicService n fun hk => hk rfl]
  exact .refl _

/-- Replacing, or removing, a stored parent as `ParentChange` allows. -/
theorem put {n : String} {x : MusicService} {x' : Option MusicService}
    (hx : s.musicServices n = some x) (h : ParentChange (some x) x') :
    ParentsKept s (s.put .musicService n x') := fun m => by
  by_cases hm : m = n
  · subst hm
    simpa [Store.put, hx] using h
  · simpa [Store.put, Function.update_noteq hm] using refl s m

end ParentsKept

/-! ## One request -/

/-- The store's answer to a request that writes only children, or to a status write, keeps the
    parents. -/
theorem parentsKept_answer {r : Req} (hr : r.WritesIn childRegion ∨ ∃ ms, r = .updateStatus ms)
    (s : Store) (o : Oracle) : ParentsKept s (s.answer o r).2 := by
  rcases hr with hr | ⟨ms, rfl⟩
  · exact .of_agree (s.answer_agree o hr)
  simp only [Store.answer, Oracle.guard]
  split
  · exact .refl s
  unfold Store.updateStatus
  split
  · exact .put ‹_› (.step (.status _ _))
  · exact .refl s

theorem Req.IsStatusRequest.keepsParents {n : String} {r : Req} (h : r.IsStatusRequest n) :
    r.WritesIn childRegion ∨ ∃ ms, r = .updateStatus ms := by
  cases r with
  | updateStatus ms => exact .inr ⟨ms, rfl⟩
  | create | update | delete | updateClaim | deleteClaim => exact h.elim
  | _ => exact .inl trivial

/-- The finalizer `Update` of the object fetched from `s` keeps the parents, when it adds the
    finalizer to a live object or removes it from one being deleted: the object is stored as
    written, with the stored status and deletion mark, or deleted when no finalizer is left. -/
theorem parentsKept_update {n : String} {x : MusicService} (hx : s.musicServices n = some x)
    {f : List String} (h : ParentStep x { x with name := n, finalizers := f })
    (hf : f = [] → x.deletionTimestamp ≠ none → musicServiceFinalizerName ∈ x.finalizers) :
    ParentsKept s (s.update .musicService { x with name := n, finalizers := f }).2 := by
  simp only [Store.update, Store.lookup, Kind.nameOf_musicService, hx, Store.Kind.finalize]
  split_ifs with hfin
  · obtain ⟨hd, hf0⟩ : x.deletionTimestamp ≠ none ∧ f = [] := hfin
    have hr : x.finalizers.filter (· ≠ musicServiceFinalizerName) = [] := by
      rw [← h.others]
      simp [hf0]
    exact .put hx (.finalized hd (hf hf0 hd) hr)
  · exact .put hx (.step (h.trans (.status _ _)))

/-! ## One pass -/

section Pass

variable [QuantityParser] [GaleraReconciler] {m : Bool}
  (hG : ∀ ms : MusicService,
    All (Req.WritesIn childRegion) (GaleraReconciler.reconcileGalera ms) ∧
      All (Req.WritesIn childRegion) (GaleraReconciler.reconcileGaleraServices ms))

include hG

/-- Every request of a step writes a child key or a claim, given the Galera steps do. -/
theorem steps_writesIn_childRegion (ms : MusicService) :
    ∀ st ∈ appSteps ms ++ databaseSteps ms, All (Req.WritesIn childRegion) st.2 := by
  have sub : ∀ {R : Region} {α} {p : Prog α}, R.Sub childRegion → All (Req.Within R) p →
      All (Req.WritesIn childRegion) p := fun hs h => h.mono fun _ hr => hr.writesIn.mono hs
  intro st hst
  rcases List.mem_append.mp hst with h | h
  · exact sub (ofKeys_sub_childRegion (by simp)) (appSteps_within ms st h)
  obtain ⟨-, ⟨-, e | e⟩ | ⟨-, e | e | e⟩ | e⟩ := Controller.mem_databaseSteps h <;> rw [e]
  · exact (hG ms).1
  · exact (hG ms).2
  · exact sub (ofKeys_sub_childRegion (by simp)) (reconcileMaster_within ms)
  · exact sub (ofKeys_sub_childRegion (by simp)) (reconcileReplicas_within ms)
  · exact sub (ofKeys_sub_childRegion (by simp)) (reconcileServices_within ms)
  · exact sub (ofKeys_sub_childRegion (by split <;> simp))
      (reconcileReplicaAutoscaler_within ms)

/-- The pass for a live object keeps the parents: its steps write children, and the status
    manager writes statuses. -/
theorem reconcileLive_parentsKept (ms : MusicService) : Keeps m ParentsKept (reconcileLive ms) :=
  (reconcileLive_all (P := fun r => r.WritesIn childRegion ∨ ∃ ms, r = .updateStatus ms)
    (fun ms' _ _ st hst => (steps_writesIn_childRegion hG ms' st hst).mono fun _ => .inl)
    fun _ hr => hr.keepsParents).keeps_of ParentsKept.refl ParentsKept.trans
      fun _ s o hr => parentsKept_answer hr s o

/-- **A pass keeps the parents.** -/
theorem reconcile_parentsKept (n : String) : Keeps m ParentsKept (reconcile n) := fun s => by
  simp only [reconcile, getObj, send, bind_eq, call_bind, Prog.pure_bind]
  refine Wp.get_of (fun _ => .refl s) fun x hx => ?_
  replace hx : s.musicServices n = some x := hx
  simp only [Kind.withName, reconcileObject]
  split_ifs with hd hf hf
  · simp only [updateObj, send, bind_eq, call_bind, Prog.pure_bind, Wp.update]
    refine ⟨fun _ _ => .refl s, ?_⟩
    have h := parentsKept_update hx (.removeFinalizer (Option.isSome_iff_ne_none.mp hd) n)
      fun _ _ => hf
    split <;> exact h
  · exact .refl s
  · exact reconcileLive_parentsKept hG _ s
  · simp only [updateObj, send, bind_eq, call_bind, Prog.pure_bind, Wp.update]
    refine ⟨fun _ _ => .refl s, ?_⟩
    have h := parentsKept_update hx (.addFinalizer (Option.not_isSome_iff_eq_none.mp hd) n)
      fun h => absurd h (by simp)
    split
    · exact h
    · exact (reconcileLive_parentsKept hG _ _).mono fun _ _ _ h' => h.trans h'

/-- **The operator keeps the user's objects.** Provided the Galera steps write no parent, in
    every run of passes, from any store and whatever fails, no `MusicService` is created; one is
    deleted only when it has a deletion mark and `music.mixcorp.org/finalizer` was its only
    finalizer (the API server deletes it once that finalizer is removed); and each one kept
    keeps its spec, generation, deletion mark and every finalizer other than
    `music.mixcorp.org/finalizer`, which is added only to an object without a deletion mark and
    removed only from one with a deletion mark. -/
theorem passes_keep_parents :
    ∀ (ps : List (String × Oracle)) (s : Store), ParentsKept s (runReconciles ps s)
  | [], s => .refl s
  | (name, o) :: ps, s =>
    (Wp.run (reconcile_parentsKept hG name s) o (.inl rfl)).trans (passes_keep_parents ps _)

end Pass

/-! ## Deletion -/

section Deletion

variable [QuantityParser] [GaleraReconciler] {n : String} {s : Store} {x : MusicService}

/-- The pass for an object being deleted: at most the finalizer `Update`. -/
theorem reconcileObject_deleting (hd : x.deletionTimestamp ≠ none) :
    All (fun r => r = .update .musicService
        { x with name := n, finalizers := x.finalizers.filter (· ≠ musicServiceFinalizerName) })
      (reconcileObject { x with name := n }) := by
  simp only [reconcileObject, Option.isSome_iff_ne_none.mpr hd, ite_true]
  split_ifs
  · exact All.send_bind rfl fun y _ => by rcases y with e | ⟨⟩ <;> exact .pure _
  · exact .pure _

/-- What the exact store holds under `n` after the finalizer is taken off `x`: nothing when it
    was the last finalizer, which deletes the object, else the other finalizers. -/
def finalizersAfterDeletion (x : MusicService) : Option (List String) :=
  if musicServiceFinalizerName ∈ x.finalizers ∧
      x.finalizers.filter (· ≠ musicServiceFinalizerName) = [] then none
  else some (x.finalizers.filter (· ≠ musicServiceFinalizerName))

/-- Against the exact store, the pass for an object being deleted returns an empty result and
    leaves the object without the finalizer, or deleted. -/
theorem reconcile_deleting_exact (hs : s.musicServices n = some x)
    (hd : x.deletionTimestamp ≠ none) :
    Wp false (reconcile n) (fun r s' _ => r = some (.ok {}) ∧
      (s'.musicServices n).map (·.finalizers) = finalizersAfterDeletion x) s := by
  simp only [reconcile, getObj, send, bind_eq, call_bind, Prog.pure_bind, Wp.get, Store.get,
    Store.lookup, hs, Kind.withName, reconcileObject, Option.isSome_iff_ne_none.mpr hd, ite_true]
  refine ⟨nofun, ?_⟩
  split_ifs with hf
  · simp [updateObj, send, Store.update, Store.lookup, hs, Store.put, Store.Kind.keepServerFields,
      Store.Kind.finalize, hd, finalizersAfterDeletion, hf]
    split_ifs <;> rfl
  · simp only [pure_eq, Wp.pure_iff, true_and, hs, Option.map_some', finalizersAfterDeletion, hf,
      false_and, if_false]
    refine congrArg some (List.filter_eq_self.mpr fun a ha => ?_).symm
    simp only [ne_eq, decide_eq_true_eq]
    exact fun e => hf (e ▸ ha)

/-- **Deletion touches the parent only.** For an object being deleted, every run of a pass,
    whatever fails, sends the object's `Get` and at most one `Update` of it: the object as
    stored, named `n`, without `music.mixcorp.org/finalizer`. No child object and no claim is
    read or written: the children go only by their owner references. Against the exact store the
    pass returns an empty result and leaves the object with its other finalizers, or deleted by
    the API server when `music.mixcorp.org/finalizer` was its last one. -/
theorem deleting_pass (hs : s.musicServices n = some x) (hd : x.deletionTimestamp ≠ none)
    (o : Oracle) :
    (∀ r ∈ ((reconcile n).run o s).trace, r = .get .musicService n ∨
      r = .update .musicService
        { x with name := n, finalizers := x.finalizers.filter (· ≠ musicServiceFinalizerName) }) ∧
    ((∀ i, o.fault i = none) → ((reconcile n).run o s).result = some (.ok {}) ∧
      (((reconcile n).run o s).store.musicServices n).map (·.finalizers) =
        finalizersAfterDeletion x) :=
  ⟨(reconcile_wp (m := true) s (.inl rfl) fun ms h => by
      cases hs.symm.trans h
      exact (reconcileObject_deleting hd).mono fun _ => .inr).run o (.inl rfl),
    fun ho => (reconcile_deleting_exact hs hd).run o (.inr ho)⟩

end Deletion

/-- Two passes for `m` from the namespace holding it, the second failing at its fourth request,
    keep the parent `m` as the user wrote it. -/
theorem sample_parents_kept :
    ParentsKept (sampleStore sampleSpec none [])
      (runReconciles [("m", exactOracle), ("m", failingAt 3)] (sampleStore sampleSpec none [])) :=
  passes_keep_parents (fun _ => ⟨.pure _, .pure _⟩) _ _

/-- The parent `m`, marked for deletion at time `7` and carrying the finalizer. -/
def deletingParent : MusicService := { sampleParent sampleSpec with deletionTimestamp := some 7 }

/-- The namespace holding only `deletingParent`. -/
def deletingStore : Store :=
  { sampleStore sampleSpec none [] with
    musicServices := fun n => if n = "m" then some deletingParent else none }

/-- A pass for `m` marked for deletion, failing at its second request or not at all; the
    failure-free pass deletes `m`, whose only finalizer was the operator's. -/
theorem sample_deleting_pass :
    (∀ r ∈ ((reconcile "m").run (failingAt 1) deletingStore).trace, r = .get .musicService "m" ∨
      r = .update .musicService { deletingParent with
        name := "m", finalizers := deletingParent.finalizers.filter (· ≠ musicServiceFinalizerName) }) ∧
      ((reconcile "m").run exactOracle deletingStore).result = some (.ok {}) ∧
      (((reconcile "m").run exactOracle deletingStore).store.musicServices "m").map
        (·.finalizers) = finalizersAfterDeletion deletingParent :=
  ⟨(deleting_pass (n := "m") rfl (Option.some_ne_none 7) (failingAt 1)).1,
    (deleting_pass (n := "m") rfl (Option.some_ne_none 7) exactOracle).2 fun _ => rfl⟩

example : ((reconcile "m").run exactOracle deletingStore).store.musicServices "m" = none := by
  decide

end MusicOperator
