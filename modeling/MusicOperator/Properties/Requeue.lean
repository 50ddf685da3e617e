import MusicOperator.Properties.Generations
import MusicOperator.Properties.StatusSync

/-!
  The requeue delay.

  A pass asks to be requeued only when it completes its status sync: after 5 s while the object
  it holds counts fewer ready replicas than its spec asks for, after 30 s otherwise. A failed
  step ends the pass with `UpdateError` and no delay (`failPass_noDelay`). The object whose
  counts the sync compares is the one `UpdateReconciled` wrote last, and it carries the fetched
  spec (`Fresh`), so the delay is read off the status the pass stored (`syncStatus_delay`,
  `reconcile_delay`); the pass keeps the stored spec (`ParentsKept`). So the delay agrees with
  what the pass leaves stored (`requeue_delay_reflects_status`).
-/

namespace MusicOperator

open Prog Status Manager Controller
open Reconciler (GaleraReconciler sampleStore sampleSpec exactOracle)

/-- The object `n`'s stored status is `st`, and `d` is the delay `st` calls for under a spec
    asking for `sp.replicas`. -/
def DelayRecorded (n : String) (sp : MusicServiceSpec) (s : Store) (d : Nat) : Prop :=
  ∃ st, (s.musicServices n).map (·.status) = some st ∧
    d = if st.readyReplicas < sp.replicas then 5 else 30

section Delay

variable {m : Bool} {s : Store} {x ms : MusicService}

/-- A pass ended by a failed step asks for no requeue. -/
theorem failPass_noDelay (reason : String) (e : ApiError) :
    Wp m (failPass ms reason e) (fun r _ _ => ∀ d, r ≠ some (.ok ⟨some d⟩)) s :=
  Wp.bind_of (Wp.trivial _) (fun ⟨_, r⟩ _ _ _ => by cases r <;> simp [Except.map])
    fun _ _ _ => by simp

variable [QuantityParser]

/-- The status sync's delay is the one the status `UpdateReconciled` stored calls for. -/
theorem syncStatus_delay (h : Fresh x ms) :
    Wp m (syncStatus ms) (fun r s' _ => ∀ d, r = some (.ok ⟨some d⟩) →
      DelayRecorded x.name x.spec s' d) s := by
  refine Wp.bind_of (AllRet.wp (syncAppStatus_fresh h)) (fun ⟨_, r⟩ _ _ h₁ => ?_)
    fun _ _ _ => by simp
  rcases r with e | ⟨⟩
  · simp
  refine Wp.bind_of (AllRet.wp (syncDatabaseStatus_fresh (h₁ _ rfl)))
    (fun ⟨ms₂, r⟩ _ _ h₂ => ?_) fun _ _ _ => by simp
  rcases r with e | ⟨⟩
  · simp
  refine Wp.bind_of (updateReconciled_wp.and (AllRet.wp (updateReconciled_fresh (h₂ _ rfl))))
    (fun ⟨ms₃, r⟩ _ _ h₃ => ?_) fun _ _ _ => by simp
  rcases r with e | ⟨⟩
  · simp
  rintro d ⟨⟩
  exact ⟨_, (h₂ _ rfl).name ▸ (h₃.1 ms₃ rfl).1, by rw [(h₃.2 _ rfl).spec]⟩

variable [GaleraReconciler]

theorem reconcileLive_delay (h : Fresh x ms) :
    Wp m (reconcileLive ms) (fun r s' _ => ∀ d, r = some (.ok ⟨some d⟩) →
      DelayRecorded x.name x.spec s' d) s := by
  have fail : ∀ (ms' : MusicService) reason e s₁, Wp m (failPass ms' reason e)
      (fun r s' _ => ∀ d, r = some (.ok ⟨some d⟩) → DelayRecorded x.name x.spec s' d) s₁ :=
    fun _ reason e _ => (failPass_noDelay reason e).mono fun _ _ _ h d hd => absurd hd (h d)
  unfold reconcileLive
  simp only [bind_eq]
  refine Wp.bind_of (Wp.trivial _) (fun r s₁ _ _ => ?_) fun _ _ _ => by simp
  rcases r with _ | ⟨reason, e⟩
  · refine Wp.bind_of (Wp.trivial _) (fun r s₂ _ _ => ?_) fun _ _ _ => by simp
    rcases r with _ | ⟨reason, e⟩
    · exact syncStatus_delay (initDatabaseStatus_fresh (h.withStatus h.generation.le rfl))
    · exact fail _ reason e s₂
  · exact fail _ reason e s₁

/-- A pass that returns the delay `d` found its object stored, and leaves the status whose
    counts call for `d` under the spec it found. -/
theorem reconcile_delay (name : String) :
    Wp m (reconcile name) (fun r s' _ => ∀ d, r = some (.ok ⟨some d⟩) →
      ∃ x, s.musicServices name = some x ∧ DelayRecorded name x.spec s' d) s := by
  simp only [reconcile, getObj, send, bind_eq, call_bind, Prog.pure_bind]
  refine Wp.get_of (fun e d hd => ?_) fun x hx => ?_
  · split at hd <;> simp at hd
  have live : ∀ ms' s₁, Fresh (Kind.withName .musicService name x) ms' →
      Wp m (reconcileLive ms') (fun r s' _ => ∀ d, r = some (.ok ⟨some d⟩) →
        ∃ x, s.musicServices name = some x ∧ DelayRecorded name x.spec s' d) s₁ :=
    fun _ _ hf => (reconcileLive_delay hf).mono fun _ _ _ h d hd => ⟨x, hx, h d hd⟩
  unfold reconcileObject
  simp only [bind_eq]
  split_ifs
  · exact Wp.bind_of (Wp.trivial _) (fun y _ _ _ => by rcases y with e | ⟨⟩ <;> simp)
      fun _ _ _ => by simp
  · simp
  · exact live _ s (Fresh.refl _)
  · exact Wp.bind_of (Wp.trivial _) (fun y s₁ _ _ => by
      rcases y with e | ⟨⟩
      exacts [by simp, live _ s₁ ⟨rfl, rfl, rfl, id⟩]) fun _ _ _ => by simp

end Delay

/-- **The requeue delay reflects the stored status.** Provided the Galera steps write no parent,
    in every run of a pass, from any store and whatever fails: when the pass asks to be
    requeued after `d` seconds, the object is stored, and `d` is 5 when its stored status counts
    fewer ready replicas than its stored spec asks for, and 30 otherwise. -/
theorem requeue_delay_reflects_status [QuantityParser] [GaleraReconciler]
    (hG : ∀ ms : MusicService,
      All (Req.WritesIn childRegion) (GaleraReconciler.reconcileGalera ms) ∧
        All (Req.WritesIn childRegion) (GaleraReconciler.reconcileGaleraServices ms))
    (name : String) (o : Oracle) (s : Store) (d : Nat)
    (h : ((reconcile name).run o s).result = some (.ok ⟨some d⟩)) :
    ∃ x, ((reconcile name).run o s).store.musicServices name = some x ∧
      d = if x.status.readyReplicas < x.spec.replicas then 5 else 30 := by
  have hw := ((reconcile_delay name).and (reconcile_parentsKept hG name s)).run o (.inl rfl)
  obtain ⟨x, hx, st, hst, hd⟩ := hw.1 d h
  obtain ⟨x', hx', rfl⟩ := Option.map_eq_some'.mp hst
  have hrel := hw.2 name
  rw [hx, hx'] at hrel
  cases hrel with
  | step hstep => exact ⟨x', hx', by rw [hstep.spec]; exact hd⟩

/-- The first pass over the namespace holding only `m` asks for a requeue after 5 s. -/
theorem sample_requeue_delay :
    ∃ x, ((reconcile "m").run exactOracle (sampleStore sampleSpec none [])).store.musicServices
        "m" = some x ∧ 5 = if x.status.readyReplicas < x.spec.replicas then 5 else 30 :=
  requeue_delay_reflects_status (fun _ => ⟨.pure _, .pure _⟩) "m" exactOracle _ 5 (by decide)

end MusicOperator
