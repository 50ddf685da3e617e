import MusicOperator.Properties.StatefulSetWrites

/-!
  Label selectors.

  A Service routes to, and a StatefulSet adopts, the pods whose labels hold every pair of its
  selector. The operator labels the pods of each tier (the application, the database master,
  the database replicas, the Galera nodes) with the parent's name under `app` and the tier under
  `component`, and its Services select them by the same two labels. Object names may collide between parents
  (one parent's `<n>-db-master` is the application StatefulSet of a parent named so); labels
  never do.

  1. Labels: the labels of one tier of one parent, read as a selector, pick among the pods of
     every tier of every parent exactly that tier's (`selects_tierLabels`).
  2. Requests: each Service descriptor selects one tier of its parent, and each StatefulSet
     descriptor selects one tier and stamps its pods with those labels
     (`Tier.statefulSet_tierSpec`); an `Update` of a StatefulSet writes the descriptor's spec.
     So every Service or StatefulSet a pass for `name` writes, from any store and whatever
     fails, selects exactly the pods of one tier of `name` (`pass_selects_own_pods`).
-/

namespace MusicOperator

open Prog Builder Reconciler Controller

/-- The tiers whose pods the operator runs; the Galera nodes are built by the Galera steps. -/
inductive Tier
  | app
  | master
  | replica
  | galera
  deriving DecidableEq, Repr

/-- The `component` label of a tier's pods (`db-galera` for the Galera nodes, as the Galera
    builders' tests require). -/
def Tier.component : Tier → String
  | .app => "music-service"
  | .master => "db-master"
  | .replica => "db-replica"
  | .galera => "db-galera"

/-- The labels of the pods of tier `t` of the parent `name` (`podLabels`). -/
def Tier.labels (t : Tier) (name : String) : List (String × String) :=
  [("app", name), ("component", t.component)]

/-- A Service's `selector`, or a `matchLabels` selector, picks a pod when the pod carries every
    one of its pairs. -/
def Selects (selector labels : List (String × String)) : Bool :=
  selector.all fun p => labels.lookup p.1 == some p.2

theorem Tier.component_inj {t t' : Tier} : t.component = t'.component ↔ t = t' := by
  cases t <;> cases t' <;> simp [Tier.component]

/-- One tier's labels, as a selector, pick one tier's pods exactly when the parents and the
    tiers agree. -/
theorem selects_tierLabels (t t' : Tier) (n n' : String) :
    Selects (t.labels n) (t'.labels n') = true ↔ n' = n ∧ t' = t := by
  simp [Selects, Tier.labels, List.lookup_cons, Tier.component_inj]

/-- The master Service of `a` does not route to the application pods of the parent
    `a-db-master`, whose StatefulSet and Service share its name. -/
example : Selects (Tier.master.labels "a") (Tier.app.labels "a-db-master") = false := by
  decide

/-- `sel` picks, among the pods of every tier of every parent, exactly those of one tier of
    `name`. -/
def SelectsTier (name : String) (sel : List (String × String)) : Prop :=
  ∃ t : Tier, ∀ n' t', Selects sel (t'.labels n') = true ↔ n' = name ∧ t' = t

theorem selectsTier_labels (t : Tier) (name : String) : SelectsTier name (t.labels name) :=
  ⟨t, fun n' t' => selects_tierLabels t t' name n'⟩

/-- What a request of a pass for `name` may write as a selector: a StatefulSet it creates or
    updates selects one tier of `name` and stamps its pods with the labels it selects; a Service
    it creates or updates selects one tier of `name`. -/
def Req.SelectsOwnPods (name : String) : Req → Prop
  | .create .statefulSet x | .update .statefulSet x =>
    SelectsTier name (x : StatefulSet).spec.selector ∧
      (x : StatefulSet).spec.template.labels = (x : StatefulSet).spec.selector
  | .create .service x | .update .service x => SelectsTier name (x : Service).spec.selector
  | _ => True

/-- A StatefulSet spec that selects the pods of tier `t` of `name` and stamps them with those
    labels. -/
def TierSpec (name : String) (t : Tier) (sp : StatefulSetSpec) : Prop :=
  sp.selector = t.labels name ∧ sp.template.labels = t.labels name

theorem TierSpec.selectsOwnPods {name : String} {t : Tier} {x : StatefulSet}
    (h : TierSpec name t x.spec) :
    (Req.create .statefulSet x).SelectsOwnPods name ∧
      (Req.update .statefulSet x).SelectsOwnPods name :=
  have hs : SelectsTier name x.spec.selector := h.1 ▸ selectsTier_labels t name
  ⟨⟨hs, h.2.trans h.1.symm⟩, ⟨hs, h.2.trans h.1.symm⟩⟩

section Steps

variable [QuantityParser] {ms : MusicService}

/-- The StatefulSet descriptor of a tier; the Galera steps, not a builder of the repository,
    write the Galera StatefulSet. -/
def Tier.statefulSet : Tier → MusicService → Option StatefulSet
  | .app => buildAppStatefulSet
  | .master => buildDatabaseMasterStatefulSet
  | .replica => buildDatabaseReplicaStatefulSet
  | .galera => fun _ => none

theorem Tier.statefulSet_tierSpec {t : Tier} {d : StatefulSet} (h : t.statefulSet ms = some d) :
    TierSpec ms.name t d.spec := by
  cases t
  case galera => cases h
  all_goals obtain ⟨_, -, h⟩ := Option.bind_eq_some.mp h; cases h; exact ⟨rfl, rfl⟩

/-- A StatefulSet step writes the descriptor, or the live object with the descriptor's spec. -/
theorem syncStatefulSet_selectsOwnPods {t : Tier} {n c a : String} {st : StorageSpec} :
    All (Req.SelectsOwnPods ms.name) (syncStatefulSet n (t.statefulSet ms) st c a) :=
  syncStatefulSet_all trivial (fun _ h => (Tier.statefulSet_tierSpec h).selectsOwnPods.1)
    fun _ _ _ h => syncExisting_all trivial trivial (fun _ _ => trivial) (fun _ _ => trivial)
      (Tier.statefulSet_tierSpec h).selectsOwnPods.2

variable [GaleraReconciler]

theorem steps_selectOwnPods
    (hG : All (Req.SelectsOwnPods ms.name) (GaleraReconciler.reconcileGalera ms) ∧
      All (Req.SelectsOwnPods ms.name) (GaleraReconciler.reconcileGaleraServices ms)) :
    ∀ st ∈ appSteps ms ++ databaseSteps ms, All (Req.SelectsOwnPods ms.name) st.2 := by
  intro st hst
  rcases List.mem_append.mp hst with h | h
  · rcases mem_appSteps h with e | e | e <;> rw [e]
    · exact AppReconciler.reconcileService_all trivial (selectsTier_labels .app ms.name)
    · exact syncStatefulSet_selectsOwnPods (t := .app)
    · exact AppReconciler.reconcileAutoscaler_all trivial (fun _ _ => trivial)
        (fun _ _ _ _ => trivial) trivial
  obtain ⟨-, ⟨-, e | e⟩ | ⟨-, e | e | e⟩ | e⟩ := mem_databaseSteps h <;> rw [e]
  · exact hG.1
  · exact hG.2
  · exact syncStatefulSet_selectsOwnPods (t := .master)
  · exact DatabaseReconciler.reconcileReplicas_all
      (DatabaseReconciler.ensureReplicationSecret_all trivial trivial
        fun _ _ => ⟨trivial, trivial⟩)
      (syncStatefulSet_selectsOwnPods (t := .replica))
  · exact DatabaseReconciler.reconcileServices_all trivial (selectsTier_labels .master ms.name)
      (DatabaseReconciler.reconcileReadService_all trivial (selectsTier_labels .replica ms.name))
  · exact DatabaseReconciler.reconcileAutoscaler_all trivial (fun _ _ => trivial)
      fun _ _ _ _ => trivial

end Steps

/-- **Selectors pick only the parent's own pods.** Provided the Galera steps write only
    selectors of their parent's tiers, every Service or StatefulSet a pass for `name` creates or
    updates, in any run from any store and whatever fails, selects among the pods of every tier
    of every parent exactly those of one tier of `name`; and a StatefulSet stamps its pods with
    the labels it selects. -/
theorem pass_selects_own_pods [QuantityParser] [GaleraReconciler]
    (hG : ∀ ms : MusicService,
      All (Req.SelectsOwnPods ms.name) (GaleraReconciler.reconcileGalera ms) ∧
        All (Req.SelectsOwnPods ms.name) (GaleraReconciler.reconcileGaleraServices ms))
    (name : String) (o : Oracle) (s : Store) :
    ∀ r ∈ ((reconcile name).run o s).trace, r.SelectsOwnPods name := by
  refine (reconcile_wp (m := true) s trivial fun _ _ => reconcileObject_all (fun _ _ => trivial)
    fun ms' hn _ => reconcileLive_all (fun ms'' hn' _ st hst => ?_)
      fun r hr => by cases r <;> trivial).run o (.inl rfl)
  have key := steps_selectOwnPods (hG ms'') st hst
  rwa [hn', hn] at key

/-- The first pass over the namespace holding only `m` writes only selectors of `m`'s pods. -/
theorem sample_pass_selects_own_pods :
    ((reconcile "m").run exactOracle (sampleStore sampleSpec none [])).trace.Forall
      (Req.SelectsOwnPods "m") :=
  List.forall_iff_forall_mem.mpr
    (pass_selects_own_pods (fun _ => ⟨.pure _, .pure _⟩) "m" exactOracle _)

end MusicOperator
