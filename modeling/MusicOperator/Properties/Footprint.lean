import MusicOperator.Properties.StatefulSetWrites

/-!
  Which objects a pass addresses, and when two parents stay out of each other's way.

  A request is `Within R` when every key it reads or writes is a key of `R` and every claim it
  writes is a claim of `R`; a program is, along every branch of replies, when
  `All (Req.Within R)` holds of it, and then it changes nothing outside `R` (`Prog.All.agree`).

  Each step of a pass for the parent `n` stays within a fixed region:

  * the application steps: Service `n`, StatefulSet `n`, autoscaler `n-autoscaler`, and the
    claims `music-data-n-*` (`appSteps_within`);
  * `ReconcileMaster`: StatefulSet `n-db-master`, claims `db-data-n-db-master-*`;
  * `ReconcileReplicas`: Secret `n-db-replication`, StatefulSet `n-db-replica`, claims
    `db-data-n-db-replica-*`;
  * `ReconcileServices`: Services `n-db-master` and `n-db-read`;
  * the replica autoscaler step: autoscaler `n-db-replica-autoscaler`, and only when
    `database.autoscaling` is set and `database.replicas` is not 0 (`replicaAutoscalerManaged`);
  * the finalizer and the status sync: the `MusicService` `n`, and reads of the StatefulSets
    `n`, `n-db-master` and `n-db-replica`.

  All of these lie in `ownedRegion n`: the objects named `n` or `n-…`, and the claims named
  `music-data-n-…` or `db-data-n-…`. So, provided the Galera steps stay there too, a whole pass
  for `n` does (`pass_within_ownedRegion`).

  Distinct names do not give disjoint regions: `foo-db-master` is the master StatefulSet of `foo`
  and the application StatefulSet of the parent `foo-db-master`, and the order of the two passes
  decides which spec it ends up with (`parents_share_statefulSet`). The regions are disjoint
  exactly when neither name extends the other past a dash (`Separated`, `ownedRegion_disjoint`).
-/

namespace MusicOperator

open Prog Builder Reconciler

/-! ## Requests within a region -/

/-- `r` reads or writes only keys of `R`, and writes only claims of `R`; the claim `List` and
    the calls to the environment address no key. -/
def Req.Within (R : Region) : Req → Prop
  | .get k n | .delete k n => R.keys ⟨k, n⟩
  | .create k x | .update k x => R.keys ⟨k, k.nameOf x⟩
  | .updateStatus ms => R.keys ⟨.musicService, ms.name⟩
  | .updateClaim c => R.claims c.name
  | .deleteClaim n => R.claims n
  | .listClaims | .now | .generatePassword _ => True

/-- `R` lies inside `R'`. -/
def Region.Sub (R R' : Region) : Prop :=
  (∀ k, R.keys k → R'.keys k) ∧ ∀ n, R.claims n = true → R'.claims n = true

/-- The keys of `keys`, and the claims whose name starts with one of `pfxs`. -/
def Region.ofKeys (keys : List Key) (pfxs : List String) : Region :=
  ⟨(· ∈ keys), fun n => pfxs.any (hasPrefix n)⟩

namespace Req

variable {R R' : Region} {r : Req}

theorem Within.writesIn (h : r.Within R) : r.WritesIn R := by
  cases r <;> first | exact h | trivial

theorem Within.mono (h : r.Within R) (hs : R.Sub R') : r.Within R' := by
  cases r <;> first | exact hs.1 _ h | exact hs.2 _ h | trivial

theorem WritesIn.mono (h : r.WritesIn R) (hs : R.Sub R') : r.WritesIn R' := by
  cases r <;> first | exact hs.1 _ h | exact hs.2 _ h | trivial

/-- A keyed request within `R` addresses a key of `R`. -/
theorem Within.key {key : Key} (h : r.Within R) (hk : r.key? = some key) : R.keys key := by
  cases r <;> simp only [key?, Option.some.injEq, reduceCtorEq] at hk <;> exact hk ▸ h

/-- A write that stays in `R` writes a key of `R`. -/
theorem WritesIn.key {key : Key} (h : r.WritesIn R) (hw : r.isWrite = true)
    (hk : r.key? = some key) : R.keys key := by
  cases r <;> simp only [isWrite, key?, Option.some.injEq, reduceCtorEq] at hw hk <;>
    exact hk ▸ h

end Req

/-! ## Name prefixes -/

theorem hasPrefix_iff {s p : String} : hasPrefix s p = true ↔ p.data <+: s.data :=
  List.isPrefixOf_iff_prefix

theorem hasPrefix_trans {s p q : String} (h₁ : hasPrefix s p = true) (h₂ : hasPrefix p q = true) :
    hasPrefix s q = true :=
  hasPrefix_iff.mpr ((hasPrefix_iff.mp h₂).trans (hasPrefix_iff.mp h₁))

/-- `a-…` extends `a` past a dash. -/
theorem hasPrefix_append_dash (a t : String) (h : hasPrefix t "-" = true) :
    hasPrefix (a ++ t) (a ++ "-") = true := by
  rw [hasPrefix_iff, String.data_append, String.data_append]
  exact (List.prefix_append_right_inj _).mpr (hasPrefix_iff.mp h)

/-- The claims of a suffixed tier `a-…` are among the claims of `a`. -/
theorem claimPrefix_append_dash (c a t : String) (h : hasPrefix t "-" = true) :
    hasPrefix (claimPrefix c (a ++ t)) (claimPrefix c a) = true := by
  simp only [hasPrefix_iff, claimPrefix, String.data_append, List.append_assoc,
    List.prefix_append_right_inj]
  exact (hasPrefix_iff.mp h).trans (List.prefix_append _ _)

/-- `a-` is a prefix of `b-` only when `a = b` or `b` extends `a` past a dash. -/
theorem dash_prefix_cases {a b : String} (h : (a ++ "-").data <+: (b ++ "-").data) :
    a = b ∨ hasPrefix b (a ++ "-") = true := by
  rw [String.data_append, String.data_append, List.prefix_concat_iff] at h
  rcases h with h | h
  · exact .inl (String.ext (List.append_cancel_right h))
  · exact .inr (hasPrefix_iff.mpr (by simpa only [String.data_append] using h))

/-- Two parents are separated when neither name is the other or extends it past a dash. -/
def Separated (n₁ n₂ : String) : Prop :=
  n₁ ≠ n₂ ∧ hasPrefix n₁ (n₂ ++ "-") = false ∧ hasPrefix n₂ (n₁ ++ "-") = false

instance (n₁ n₂ : String) : Decidable (Separated n₁ n₂) := inferInstanceAs (Decidable (_ ∧ _))

namespace Separated

variable {n₁ n₂ : String}

/-- `n₁-` and `n₂-` are never prefixes of one string. -/
theorem not_both_dash (h : Separated n₁ n₂) {x : List Char} (h₁ : (n₁ ++ "-").data <+: x)
    (h₂ : (n₂ ++ "-").data <+: x) : False := by
  rcases List.prefix_or_prefix_of_prefix h₁ h₂ with h₁₂ | h₂₁
  · rcases dash_prefix_cases h₁₂ with e | e
    exacts [h.1 e, absurd e (by simp [h.2.2])]
  · rcases dash_prefix_cases h₂₁ with e | e
    exacts [h.1 e.symm, absurd e (by simp [h.2.1])]

/-- `t-n₁-` and `t-n₂-` are never prefixes of one string. -/
theorem not_both_claimPrefix (h : Separated n₁ n₂) {t : String} {x : List Char}
    (h₁ : (claimPrefix t n₁).data <+: x) (h₂ : (claimPrefix t n₂).data <+: x) : False := by
  have split : ∀ n, (claimPrefix t n).data = (t ++ "-").data ++ (n ++ "-").data := fun n => by
    simp only [claimPrefix, String.data_append, List.append_assoc]
  rw [split] at h₁ h₂
  rcases List.prefix_or_prefix_of_prefix h₁ h₂ with h₁₂ | h₂₁
  · exact h.not_both_dash ((List.prefix_append_right_inj _).mp h₁₂) List.prefix_rfl
  · exact h.not_both_dash List.prefix_rfl ((List.prefix_append_right_inj _).mp h₂₁)

end Separated

/-! ## The regions of a pass -/

section Regions

variable (n : String)

/-- The objects named `n` or `n-…`, and the claims named `music-data-n-…` or `db-data-n-…`. -/
def ownedRegion : Region :=
  ⟨fun key => key.name = n ∨ hasPrefix key.name (n ++ "-") = true,
    fun c => hasPrefix c (claimPrefix "music-data" n) || hasPrefix c (claimPrefix "db-data" n)⟩

/-- The application steps. -/
def appRegion : Region :=
  .ofKeys [⟨.service, n⟩, ⟨.statefulSet, n⟩, ⟨.autoscaler, n ++ "-autoscaler"⟩]
    [claimPrefix "music-data" n]

/-- `ReconcileMaster`. -/
def masterRegion : Region :=
  .ofKeys [⟨.statefulSet, n ++ "-db-master"⟩] [claimPrefix "db-data" (n ++ "-db-master")]

/-- `ReconcileReplicas`. -/
def replicaRegion : Region :=
  .ofKeys [⟨.secret, n ++ "-db-replication"⟩, ⟨.statefulSet, n ++ "-db-replica"⟩]
    [claimPrefix "db-data" (n ++ "-db-replica")]

/-- `ReconcileServices`. -/
def databaseServicesRegion : Region :=
  .ofKeys [⟨.service, n ++ "-db-master"⟩, ⟨.service, n ++ "-db-read"⟩] []

/-- The finalizer and the status sync. -/
def statusRegion : Region :=
  .ofKeys [⟨.musicService, n⟩, ⟨.statefulSet, n⟩, ⟨.statefulSet, n ++ "-db-master"⟩,
    ⟨.statefulSet, n ++ "-db-replica"⟩] []

/-- The parent's own key: what the finalizer update and the status sync write. -/
def parentRegion : Region := .ofKeys [⟨.musicService, n⟩] []

end Regions

/-- Whether the replica autoscaler step does anything: `database.autoscaling` is set and
    `database.replicas` is not 0. -/
def replicaAutoscalerManaged (ms : MusicService) : Bool :=
  match ms.spec.database with
  | some db => db.autoscaling.isSome && db.replicas != 0
  | none => false

/-- The replica autoscaler step: `n-db-replica-autoscaler` when it is managed, nothing
    otherwise. -/
def replicaAutoscalerRegion (ms : MusicService) : Region :=
  .ofKeys (if replicaAutoscalerManaged ms then [⟨.autoscaler, ms.name ++ "-db-replica-autoscaler"⟩]
    else []) []

section Sub

variable {n : String}

@[simp] theorem Region.ofKeys_keys {keys : List Key} {pfxs : List String} {k : Key} :
    (Region.ofKeys keys pfxs).keys k ↔ k ∈ keys := Iff.rfl

@[simp] theorem Region.ofKeys_claims {keys : List Key} {pfxs : List String} {c : String} :
    (Region.ofKeys keys pfxs).claims c = pfxs.any (hasPrefix c) := rfl

/-- Stores that agree outside a region of keys only hold the same claims. -/
theorem Store.Agree.claims_eq {keys : List Key} {s s' : Store}
    (h : Store.Agree (.ofKeys keys []) s s') : s'.claims = s.claims := by
  simpa [Region.outside] using h.2

/-- A key named `n ++ t`, with `t` starting with a dash, is owned by `n`. -/
theorem ownedRegion_suffix {k : Kind} {t : String} (h : hasPrefix t "-" = true) :
    (ownedRegion n).keys ⟨k, n ++ t⟩ :=
  .inr (hasPrefix_append_dash n t h)

theorem ownedRegion_self {k : Kind} : (ownedRegion n).keys ⟨k, n⟩ := .inl rfl

/-- Every key of `keys` is owned by `n`, and every prefix of `pfxs` extends one of `n`'s. -/
theorem ofKeys_sub_ownedRegion {keys : List Key} {pfxs : List String}
    (hk : ∀ k ∈ keys, (ownedRegion n).keys k)
    (hp : ∀ p ∈ pfxs, hasPrefix p (claimPrefix "music-data" n) = true ∨
      hasPrefix p (claimPrefix "db-data" n) = true) :
    (Region.ofKeys keys pfxs).Sub (ownedRegion n) := by
  refine ⟨hk, fun c hc => ?_⟩
  obtain ⟨p, hp', hcp⟩ := List.any_eq_true.mp hc
  simp only [ownedRegion, Bool.or_eq_true]
  rcases hp p hp' with h | h
  exacts [.inl (hasPrefix_trans hcp h), .inr (hasPrefix_trans hcp h)]

theorem appRegion_sub : (appRegion n).Sub (ownedRegion n) :=
  ofKeys_sub_ownedRegion (by simp [ownedRegion_self, ownedRegion_suffix, hasPrefix])
    (by simp [hasPrefix_iff])

theorem masterRegion_sub : (masterRegion n).Sub (ownedRegion n) :=
  ofKeys_sub_ownedRegion (by simp [ownedRegion_suffix, hasPrefix])
    fun _ hp => .inr (List.mem_singleton.mp hp ▸ claimPrefix_append_dash _ _ _ rfl)

theorem replicaRegion_sub : (replicaRegion n).Sub (ownedRegion n) :=
  ofKeys_sub_ownedRegion (by simp [ownedRegion_suffix, hasPrefix])
    fun _ hp => .inr (List.mem_singleton.mp hp ▸ claimPrefix_append_dash _ _ _ rfl)

theorem databaseServicesRegion_sub : (databaseServicesRegion n).Sub (ownedRegion n) :=
  ofKeys_sub_ownedRegion (by simp [ownedRegion_suffix, hasPrefix]) (by simp)

theorem statusRegion_sub : (statusRegion n).Sub (ownedRegion n) :=
  ofKeys_sub_ownedRegion (by simp [ownedRegion_self, ownedRegion_suffix, hasPrefix]) (by simp)

theorem replicaAutoscalerRegion_sub {ms : MusicService} :
    (replicaAutoscalerRegion ms).Sub (ownedRegion ms.name) :=
  ofKeys_sub_ownedRegion (by split <;> simp [ownedRegion_suffix, hasPrefix]) (by simp)

end Sub

/-- **Owned regions of separated parents are disjoint**: no key and no claim name is owned by
    both. -/
theorem ownedRegion_disjoint {n₁ n₂ : String} (h : Separated n₁ n₂) :
    (∀ key, (ownedRegion n₁).keys key → ¬(ownedRegion n₂).keys key) ∧
      ∀ c, (ownedRegion n₁).claims c = true → (ownedRegion n₂).claims c = false := by
  refine ⟨fun ⟨k, m⟩ h₁ h₂ => ?_, fun c h₁ => ?_⟩
  · rcases h₁ with rfl | h₁ <;> rcases h₂ with e | h₂
    · exact h.1 e
    · exact absurd h₂ (by simp [h.2.1])
    · subst e; exact absurd h₁ (by simp [h.2.2])
    · exact h.not_both_dash (hasPrefix_iff.mp h₁) (hasPrefix_iff.mp h₂)
  · simp only [ownedRegion, Bool.or_eq_true, Bool.or_eq_false_iff] at h₁ ⊢
    simp only [← Bool.not_eq_true]
    refine ⟨fun h₂ => ?_, fun h₂ => ?_⟩ <;> rcases h₁ with h₁ | h₁ <;>
      have h₁ := hasPrefix_iff.mp h₁ <;> have h₂ := hasPrefix_iff.mp h₂
    · exact h.not_both_claimPrefix h₁ h₂
    · rcases List.prefix_or_prefix_of_prefix h₁ h₂ with e | e <;> simp [claimPrefix] at e
    · rcases List.prefix_or_prefix_of_prefix h₁ h₂ with e | e <;> simp [claimPrefix] at e
    · exact h.not_both_claimPrefix h₁ h₂

/-- What a run that stays in `R` keeps of the claims: the claims of any region disjoint from `R`,
    in order. -/
theorem Store.Agree.claims_filter {R : Region} {s s' : Store} (h : Store.Agree R s s')
    {p : String → Bool} (hp : ∀ c, p c = true → R.claims c = false) :
    s'.claims.filter (p ·.name) = s.claims.filter (p ·.name) := by
  have key : ∀ l : List PersistentVolumeClaim, l.filter (p ·.name) = (R.outside l).filter (p ·.name) :=
    fun l => by
      rw [Region.outside, List.filter_filter]
      refine List.filter_congr fun c _ => ?_
      cases hc : p c.name
      · simp [hc]
      · simp [hp _ hc]
  rw [key, h.2, ← key]

/-! ## The steps of a pass -/

section Steps

/-- `syncStatefulSet name desired` stays within any region that holds the StatefulSet `name` and
    the claims `c-a-*`, when the descriptor is named `name`. -/
theorem syncStatefulSet_within {keys : List Key} {pfxs : List String} {name : String}
    {desired : Option StatefulSet} {st : StorageSpec} {c a : String}
    (hk : ⟨.statefulSet, name⟩ ∈ keys) (hp : claimPrefix c a ∈ pfxs)
    (hd : ∀ d, desired = some d → d.metadata.name = name) :
    All (Req.Within (.ofKeys keys pfxs)) (syncStatefulSet name desired st c a) := by
  have hc : ∀ n, hasPrefix n (claimPrefix c a) = true → (Region.ofKeys keys pfxs).claims n :=
    fun n h => List.any_eq_true.mpr ⟨_, hp, h⟩
  refine syncStatefulSet_all hk (fun d h => by simpa [Req.Within, hd d h] using hk)
    fun live d hl _ => syncExisting_all ?_ trivial hc (fun _ => hc _) ?_ <;>
  simpa [Req.Within, hl] using hk

theorem reconcileServices_within (ms : MusicService) :
    All (Req.Within (databaseServicesRegion ms.name)) (DatabaseReconciler.reconcileServices ms) :=
  DatabaseReconciler.reconcileServices_all (by simp [Req.Within, databaseServicesRegion])
    (by simp [Req.Within, databaseServicesRegion, buildDatabaseMasterService, objectMeta])
    (DatabaseReconciler.reconcileReadService_all (by simp [Req.Within, databaseServicesRegion])
      (by simp [Req.Within, databaseServicesRegion, buildDatabaseReadService, objectMeta]))

theorem Req.IsStatusRequest.within {n : String} {r : Req} (h : r.IsStatusRequest n) :
    r.Within (statusRegion n) := by
  cases r with
  | get k m => cases k <;> simp_all [Req.IsStatusRequest, Req.Within, statusRegion]
  | updateStatus ms => simp_all [Req.IsStatusRequest, Req.Within, statusRegion]
  | _ => trivial

theorem Req.IsStatusRequest.writesIn_parentRegion {r : Req} {n : String}
    (h : r.IsStatusRequest n) : r.WritesIn (parentRegion n) := by
  cases r with
  | updateStatus m => simp_all [Req.IsStatusRequest, Req.WritesIn, parentRegion]
  | create | update | delete | updateClaim | deleteClaim => exact h.elim
  | _ => trivial

variable [QuantityParser]

theorem appSteps_within (ms : MusicService) :
    ∀ st ∈ Controller.appSteps ms, All (Req.Within (appRegion ms.name)) st.2 := by
  intro st hst
  rcases Controller.mem_appSteps hst with h | h | h <;> rw [h]
  · exact AppReconciler.reconcileService_all (by simp [Req.Within, appRegion])
      (by simp [Req.Within, appRegion, buildAppService, objectMeta])
  · exact syncStatefulSet_within (by simp) (by simp) fun _ h => (buildAppStatefulSet_some h).1
  · exact AppReconciler.reconcileAutoscaler_all (by simp [Req.Within, appRegion])
      (fun _ hb => by simp [Req.Within, appRegion, buildAutoscaler_some hb])
      (fun _ _ hl _ => by simp [Req.Within, appRegion, hl]) (by simp [Req.Within, appRegion])

theorem reconcileMaster_within (ms : MusicService) :
    All (Req.Within (masterRegion ms.name)) (DatabaseReconciler.reconcileMaster ms) :=
  syncStatefulSet_within (List.mem_singleton_self _) (List.mem_singleton_self _)
    fun _ h => buildDatabaseMasterStatefulSet_some h

theorem reconcileReplicas_within (ms : MusicService) :
    All (Req.Within (replicaRegion ms.name)) (DatabaseReconciler.reconcileReplicas ms) :=
  DatabaseReconciler.reconcileReplicas_all
    (DatabaseReconciler.ensureReplicationSecret_all (by simp [Req.Within, replicaRegion]) trivial
      fun _ hx => by simp [Req.Within, replicaRegion, hx])
    (syncStatefulSet_within (by simp) (by simp) fun _ h => (buildDatabaseReplicaStatefulSet_some h).1)

/-- The replica autoscaler step addresses its autoscaler only when it is managed. -/
theorem reconcileReplicaAutoscaler_within (ms : MusicService) :
    All (Req.Within (replicaAutoscalerRegion ms)) (DatabaseReconciler.reconcileAutoscaler ms) := by
  cases hm : replicaAutoscalerManaged ms
  · unfold DatabaseReconciler.reconcileAutoscaler
    split
    · exact .panic
    · rename_i db hdb
      have : (db.autoscaling.isNone || db.replicas = 0) = true := by
        simp only [replicaAutoscalerManaged, hdb, Bool.and_eq_false_iff] at hm
        rcases hm with h | h <;> simp_all
      simp only [this, ite_true]
      exact .pure _
  · have hk : Req.Within (replicaAutoscalerRegion ms)
        (.get .autoscaler (ms.name ++ "-db-replica-autoscaler")) := by
      simp [Req.Within, replicaAutoscalerRegion, hm]
    exact DatabaseReconciler.reconcileAutoscaler_all hk
      (fun _ hb => by simpa [Req.Within, (buildDatabaseReplicaAutoscaler_some hb).1] using hk)
      fun _ _ hl _ => by simpa [Req.Within, hl] using hk

/-- The steps of a pass for `ms` stay in `ms`'s owned region, given the Galera steps do. -/
theorem steps_within [GaleraReconciler] (ms : MusicService)
    (hG : All (Req.Within (ownedRegion ms.name)) (GaleraReconciler.reconcileGalera ms) ∧
      All (Req.Within (ownedRegion ms.name)) (GaleraReconciler.reconcileGaleraServices ms)) :
    ∀ st ∈ Controller.appSteps ms ++ Controller.databaseSteps ms,
      All (Req.Within (ownedRegion ms.name)) st.2 := by
  intro st hst
  rcases List.mem_append.mp hst with h | h
  · exact (appSteps_within ms st h).mono fun _ hr => hr.mono appRegion_sub
  obtain ⟨-, ⟨-, e | e⟩ | ⟨-, e | e | e⟩ | e⟩ := Controller.mem_databaseSteps h <;> rw [e]
  · exact hG.1
  · exact hG.2
  · exact (reconcileMaster_within ms).mono fun _ hr => hr.mono masterRegion_sub
  · exact (reconcileReplicas_within ms).mono fun _ hr => hr.mono replicaRegion_sub
  · exact (reconcileServices_within ms).mono fun _ hr => hr.mono databaseServicesRegion_sub
  · exact (reconcileReplicaAutoscaler_within ms).mono fun _ hr =>
      hr.mono replicaAutoscalerRegion_sub

/-- A pass for `n` stays in `n`'s owned region, given the Galera steps stay in their parent's. -/
theorem pass_within_ownedRegion [GaleraReconciler]
    (hG : ∀ ms : MusicService,
      All (Req.Within (ownedRegion ms.name)) (GaleraReconciler.reconcileGalera ms) ∧
        All (Req.Within (ownedRegion ms.name)) (GaleraReconciler.reconcileGaleraServices ms))
    (n : String) : All (Req.Within (ownedRegion n)) (Controller.reconcile n) :=
  Controller.reconcile_all ownedRegion_self fun ms hn =>
    Controller.reconcileObject_all (fun ms' h => by rw [← hn, ← h]; exact ownedRegion_self)
      fun ms' h' _ => Controller.reconcileLive_all
        (fun ms'' h'' _ st hst => by
          rw [← hn, ← h', ← h'']; exact steps_within ms'' (hG ms'') st hst)
        fun r hr => by rw [← hn, ← h']; exact hr.within.mono statusRegion_sub

end Steps

/-! ## Relations a pass keeps -/

section Keeps

open Controller

variable [QuantityParser] [GaleraReconciler] {m : Bool} {R : Store → Store → Prop}
  (refl : ∀ s, R s s) (trans : ∀ {s₁ s₂ s₃}, R s₁ s₂ → R s₂ s₃ → R s₁ s₃) {n : String}
  (hparent : ∀ s s', Store.Agree (parentRegion n) s s' → R s s')
include refl trans

omit [QuantityParser] [GaleraReconciler] in
theorem runSteps_keeps :
    ∀ steps : List Step, (∀ st ∈ steps, Keeps m R st.2) → Keeps m R (runSteps steps)
  | [], _ => Keeps.pure refl _
  | (_, step) :: rest, h => Keeps.bind @trans (h _ (List.mem_cons_self _ _)) fun r => by
      rcases r with e | ⟨⟩
      · exact Keeps.pure refl _
      · exact runSteps_keeps rest fun st hst => h st (List.mem_cons_of_mem _ hst)

include hparent

theorem reconcileLive_keeps {ms : MusicService} (hn : ms.name = n)
    (hsteps : ∀ ms' : MusicService, ms'.name = n →
      ∀ st ∈ appSteps ms' ++ databaseSteps ms', Keeps m R st.2) :
    Keeps m R (reconcileLive ms) := by
  have status : ∀ {α} {p : Prog α}, All (Req.IsStatusRequest n) p → Keeps m R p :=
    fun h => (h.mono fun _ h => h.writesIn_parentRegion).keeps hparent
  refine Keeps.bind @trans (runSteps_keeps refl trans _ fun st hst =>
    hsteps _ (by simp [hn]) st (List.mem_append_left _ hst)) fun r => ?_
  rcases r with _ | ⟨reason, e⟩
  · refine Keeps.bind @trans (runSteps_keeps refl trans _ fun st hst =>
      hsteps _ (by simp [hn]) st (List.mem_append_right _ hst)) fun r => ?_
    rcases r with _ | ⟨reason, e⟩
    · exact status (syncStatus_all (by simp [hn]))
    · exact status (failPass_all (by simp [hn]) ..)
  · exact status (failPass_all (by simp [hn]) ..)

theorem reconcileObject_keeps {ms : MusicService} (hn : ms.name = n)
    (hsteps : ∀ ms' : MusicService, ms'.name = n →
      ∀ st ∈ appSteps ms' ++ databaseSteps ms', Keeps m R st.2) :
    Keeps m R (reconcileObject ms) := by
  have upd : ∀ ms' : MusicService, ms'.name = n → ∀ s o,
      R s (s.answer o (.update .musicService ms')).2 := fun ms' h s o =>
    hparent _ _ (s.answer_agree o (by simp [Req.WritesIn, parentRegion, Kind.nameOf, h]))
  unfold reconcileObject
  split_ifs
  · exact Keeps.send_bind @trans (upd _ hn) fun y _ => by
      rcases y with e | ⟨⟩ <;> exact Keeps.pure refl _
  · exact Keeps.pure refl _
  · exact reconcileLive_keeps refl trans hparent hn hsteps
  · exact Keeps.send_bind @trans (upd _ hn) fun y _ => by
      rcases y with e | ⟨⟩
      exacts [Keeps.pure refl _, reconcileLive_keeps refl trans hparent hn hsteps]

/-- **A relation every step keeps, a pass keeps.** Let `R` be reflexive and transitive, hold
    between stores that agree outside the parent `n`, and be kept by every step of every pass
    for an object named `n`. Then every run of a pass for `n` keeps it. -/
theorem reconcile_keeps
    (hsteps : ∀ ms : MusicService, ms.name = n →
      ∀ st ∈ appSteps ms ++ databaseSteps ms, Keeps m R st.2) :
    Keeps m R (reconcile n) :=
  Keeps.send_bind @trans (fun s o => hparent _ _ (s.answer_agree o trivial)) fun x hx => by
    rcases x with e | ms
    · exact Keeps.pure refl _
    · exact reconcileObject_keeps refl trans hparent hx hsteps

end Keeps

/-- **Isolation of separated parents.** Let the Galera steps stay in their parent's owned
    region, and let neither of the names `n₁`, `n₂` be the other or extend it past a dash. Then
    no key that a run of a pass for `n₁` addresses is addressed by a run of a pass for `n₂`, from
    any stores and whatever fails; and a pass for `n₁` leaves every object and every claim that
    `n₂` owns unchanged. -/
theorem separated_parents_isolated [QuantityParser] [GaleraReconciler]
    (hG : ∀ ms : MusicService,
      All (Req.Within (ownedRegion ms.name)) (GaleraReconciler.reconcileGalera ms) ∧
        All (Req.Within (ownedRegion ms.name)) (GaleraReconciler.reconcileGaleraServices ms))
    {n₁ n₂ : String} (h : Separated n₁ n₂) :
    (∀ (o₁ o₂ : Oracle) (s₁ s₂ : Store), ∀ r₁ ∈ ((Controller.reconcile n₁).run o₁ s₁).trace,
      ∀ r₂ ∈ ((Controller.reconcile n₂).run o₂ s₂).trace, ∀ key : Key,
        r₁.key? = some key → r₂.key? ≠ some key) ∧
    (∀ (o : Oracle) (s : Store) (k : Kind) (m : String), (ownedRegion n₂).keys ⟨k, m⟩ →
      ((Controller.reconcile n₁).run o s).store.lookup k m = s.lookup k m) ∧
    (∀ (o : Oracle) (s : Store),
      ((Controller.reconcile n₁).run o s).store.claims.filter ((ownedRegion n₂).claims ·.name) =
        s.claims.filter ((ownedRegion n₂).claims ·.name)) := by
  have disj := ownedRegion_disjoint h
  have agree := ((pass_within_ownedRegion hG n₁).mono fun _ hr => hr.writesIn).agree
  refine ⟨fun o₁ o₂ s₁ s₂ r₁ h₁ r₂ h₂ key k₁ k₂ => ?_, fun o s k m hm => ?_, fun o s => ?_⟩
  · exact disj.1 key (((pass_within_ownedRegion hG n₁).trace o₁ s₁ r₁ h₁).key k₁)
      (((pass_within_ownedRegion hG n₂).trace o₂ s₂ r₂ h₂).key k₂)
  · exact (agree o s).1 k m fun h₁ => disj.1 _ h₁ hm
  · exact (agree o s).claims_filter (ownedRegion_disjoint ⟨h.1.symm, h.2.2, h.2.1⟩).2

/-- The parents `foo` and `bar` are separated, and a pass for `foo` (with the Galera steps that
    send nothing) leaves every object `bar` owns unchanged. -/
theorem foo_pass_keeps_bar_objects :
    Separated "foo" "bar" ∧
      ∀ (o : Oracle) (s : Store) (k : Kind) (m : String), (ownedRegion "bar").keys ⟨k, m⟩ →
        ((Controller.reconcile "foo").run o s).store.lookup k m = s.lookup k m :=
  ⟨by decide, (separated_parents_isolated (fun _ => ⟨.pure _, .pure _⟩) (by decide)).2.1⟩

/-- `n` passes in order, each with the store that never fails. -/
def passesInOrder (names : List String) (s : Store) : Store :=
  names.foldl (fun s n => ((Controller.reconcile n).run exactOracle s).store) s

/-- The parents `foo` (with a database) and `foo-db-master` (without). -/
def sharedNameStore : Store :=
  { Store.empty with
    musicServices := fun n =>
      if n = "foo" then
        some { sampleParent { sampleSpec with
          database := some { enabled := true, image := "mariadb", storage := some { size := "1Gi" } } }
          with name := "foo" }
      else if n = "foo-db-master" then some { sampleParent sampleSpec with name := "foo-db-master" }
      else none }

/-- `foo-db-master` is the master StatefulSet of `foo` and the application StatefulSet of the
    parent `foo-db-master`: each pass rewrites it with its own spec, so the container image it
    ends with depends on the order of the passes. -/
theorem parents_share_statefulSet :
    ((passesInOrder ["foo", "foo-db-master"] sharedNameStore).statefulSets "foo-db-master").map
        (·.spec.template.spec.containers.map (·.image)) = some ["img"] ∧
      ((passesInOrder ["foo-db-master", "foo"] sharedNameStore).statefulSets "foo-db-master").map
        (·.spec.template.spec.containers.map (·.image)) = some ["mariadb"] := by
  decide

end MusicOperator
