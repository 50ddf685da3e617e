import MusicOperator.Properties.Footprint

/-!
  The replication Secret (`ensureReplicationSecret`, `internal/reconciler/database.go`).

  The Secret `name-db-replication` is created with both keys when absent, and otherwise only
  backfilled: a missing `username` or `password` is appended, a present one never touched. So:

  1. No request of a pass changes a value a Secret holds (`SecretsKept`). A `Create` never
     does: it fails on an existing object (`Store.create_secretsKept`). The backfill `Update`
     writes back the object its own `Get` returned, with keys appended
     (`ensureReplicationSecret_spec`). Every other step writes no Secret.
  2. A pass writes a Secret only when the object it reconciles has replication enabled and
     replicas other than `0`, which the CRD schema makes `> 0` (`pass_writes_secret_only_if`).
  3. When `ensureReplicationSecret` returns `nil` for such an object, the Secret holds both keys,
     whatever failed before (`ensureReplicationSecret_spec`).

  The Galera steps are not in the repository; they are assumed to write no Secret.
-/

namespace MusicOperator

open Prog Builder Reconciler Controller
open Reconciler.DatabaseReconciler (ensureReplicationSecret backfillReplicationSecret
  writeBackIfUpdated)

/-! ## Secret data -/

/-- The replication Secret present with both keys. -/
def SecretReady (x : Option Secret) : Prop :=
  ∃ sec, x = some sec ∧ dataHas sec.data "username" = true ∧ dataHas sec.data "password" = true

theorem dataHas_cons (k k' v : String) (data : List (String × String)) :
    dataHas ((k', v) :: data) k = (k == k' || dataHas data k) := by
  by_cases hk : k = k'
  · subst hk
    simp [dataHas, List.lookup_cons]
  · simp [dataHas, List.lookup_cons, beq_eq_false_iff_ne.mpr hk]

/-- Appending never changes the value `lookup` finds (`secret.Data[k]` on a Go map). -/
theorem lookup_append_of_some {data : List (String × String)} {k v : String}
    (h : data.lookup k = some v) (extra : List (String × String)) :
    (data ++ extra).lookup k = some v := by
  induction data with
  | nil => simp at h
  | cons p data ih =>
    obtain ⟨k', v'⟩ := p
    by_cases hk : k = k'
    · simpa [List.lookup_cons, hk] using h
    · have hk' : (k == k') = false := beq_eq_false_iff_ne.mpr hk
      simp only [List.lookup_cons, hk', List.cons_append] at h ⊢
      exact ih h

theorem dataHas_append_of_dataHas {data : List (String × String)} {k : String}
    (h : dataHas data k = true) (extra : List (String × String)) :
    dataHas (data ++ extra) k = true := by
  obtain ⟨v, hv⟩ := Option.isSome_iff_exists.mp h
  simp [dataHas, lookup_append_of_some hv]

theorem dataHas_append_self (data : List (String × String)) (k v : String) :
    dataHas (data ++ [(k, v)]) k = true := by
  induction data with
  | nil => simp [dataHas_cons]
  | cons p data ih =>
    obtain ⟨k', v'⟩ := p
    simp [dataHas_cons, ih]

/-! ## Kept values -/

/-- The value under key `k` of the Secret `n` (`secret.Data[k]`). -/
def secretValue (s : Store) (n k : String) : Option String := (s.secrets n).bind (·.data.lookup k)

/-- Every value a Secret of `s` holds is still held in `s'`. -/
def SecretsKept (s s' : Store) : Prop :=
  ∀ n k v, secretValue s n k = some v → secretValue s' n k = some v

/-- A request that creates, updates or deletes a Secret. -/
def Req.WritesSecret : Req → Prop
  | .create .secret _ | .update .secret _ | .delete .secret _ => True
  | _ => False

namespace SecretsKept

variable {s s₁ s₂ : Store}

theorem refl (s : Store) : SecretsKept s s := fun _ _ _ => id

theorem trans (h : SecretsKept s s₁) (h' : SecretsKept s₁ s₂) : SecretsKept s s₂ :=
  fun n k v hv => h' n k v (h n k v hv)

/-- Stores that agree outside a region holding no Secret keep every Secret. -/
theorem of_agree {R : Region} (hR : ∀ n, ¬R.keys ⟨.secret, n⟩) (h : Store.Agree R s s₁) :
    SecretsKept s s₁ := fun n k v hv => by
  rwa [secretValue, show s₁.secrets n = s.secrets n from h.1 .secret n (hR n)]

end SecretsKept

/-- Everything but the Secrets. -/
def nonSecretRegion : Region := ⟨fun key => key.kind ≠ .secret, fun _ => true⟩

theorem Req.writesIn_nonSecretRegion {r : Req} (h : ¬r.WritesSecret) :
    r.WritesIn nonSecretRegion := by
  cases r with
  | create k x | update k x | delete k x =>
    cases k <;> simp_all [Req.WritesSecret, Req.WritesIn, nonSecretRegion]
  | _ => simp [Req.WritesIn, nonSecretRegion]

theorem Req.Within.not_writesSecret {R : Region} {r : Req} (h : r.Within R)
    (hR : ∀ n, ¬R.keys ⟨.secret, n⟩) : ¬r.WritesSecret := by
  cases r with
  | create k x | update k x | delete k x => cases k <;> first | exact fun _ => hR _ h | exact nofun
  | _ => exact nofun

/-- A program that writes no Secret keeps every Secret. -/
theorem Prog.All.secretsKept {m : Bool} {p : Prog α} (h : All (fun r => ¬r.WritesSecret) p) :
    Keeps m SecretsKept p :=
  (h.mono fun _ h => Req.writesIn_nonSecretRegion h).keeps fun _ _ =>
    SecretsKept.of_agree fun _ h => h rfl

/-- A `Create` fails on an existing object, so it changes no value. -/
theorem Store.create_secretsKept (s : Store) (k : Kind) (x : k.Obj) :
    SecretsKept s (s.create k x).2 := fun n key v hv => by
  unfold Store.create
  split
  · exact hv
  · rename_i hl
    cases k
    case secret =>
      have hl' : s.secrets x.metadata.name = none := hl
      by_cases hn : n = x.metadata.name
      · subst hn
        simp [secretValue, hl'] at hv
      · simpa [secretValue, Store.put, Function.update_noteq hn] using hv
    all_goals exact hv

/-! ## `ensureReplicationSecret` -/

section Ensure

variable {m : Bool} {s : Store}

/-- The write-back of the backfill: an `Update` of the stored Secret with data that extends its
    own keeps every value, and leaves `data` stored when it succeeds. -/
theorem writeBackIfUpdated_spec {name : String} {sec : Secret} {data : List (String × String)}
    {updated : Bool} (hl : s.secrets name = some sec)
    (hext : ∀ k v, sec.data.lookup k = some v → data.lookup k = some v)
    (hkeep : updated = false → data = sec.data) :
    Wp m (writeBackIfUpdated (Kind.withName .secret name sec) data updated)
      (fun r s' _ => SecretsKept s s' ∧ ∀ x, r = some (.ok x) →
        (s'.secrets name).map (·.data) = some data) s := by
  unfold writeBackIfUpdated
  cases updated
  · exact ⟨.refl s, fun _ _ => by simp [hl, hkeep rfl]⟩
  simp only [ite_true, updateObj, send, bind_eq, call_bind, Prog.pure_bind, Wp.update,
    Store.update, Kind.nameOf_secret, Store.lookup]
  refine ⟨fun _ _ => ⟨.refl s, nofun⟩, ?_⟩
  simp only [show (Kind.withName .secret name sec).metadata.name = name from rfl, hl]
  refine ⟨fun n k v hv => ?_, fun _ _ => by simp [Store.put, Store.Kind.keepServerFields]⟩
  by_cases hn : n = name
  · subst hn
    simp only [secretValue, hl, Option.some_bind] at hv
    simpa [secretValue, Store.put, Store.Kind.keepServerFields] using hext k v hv
  · simpa [secretValue, Store.put, Function.update_noteq hn] using hv

/-- The backfill of the Secret its `Get` returned keeps every value, and leaves both keys when
    it returns without error. -/
theorem backfillReplicationSecret_spec {name : String} {sec : Secret}
    (hl : s.secrets name = some sec) :
    Wp m (backfillReplicationSecret (Kind.withName .secret name sec))
      (fun r s' _ => SecretsKept s s' ∧ ∀ x, r = some (.ok x) → SecretReady (s'.secrets name)) s := by
  have write : ∀ (data : List (String × String)) (updated : Bool),
      (∀ k v, sec.data.lookup k = some v → data.lookup k = some v) →
      (updated = false → data = sec.data) →
      dataHas data "username" = true → dataHas data "password" = true →
      Wp m (writeBackIfUpdated (Kind.withName .secret name sec) data updated)
        (fun r s' _ => SecretsKept s s' ∧ ∀ x, r = some (.ok x) → SecretReady (s'.secrets name)) s :=
    fun data updated hext hkeep hu hp => (writeBackIfUpdated_spec hl hext hkeep).mono
      fun _ s' _ ⟨hk, h⟩ => ⟨hk, fun x hx => by
        obtain ⟨y, hy, rfl⟩ := Option.map_eq_some'.mp (h x hx)
        exact ⟨y, hy, hu, hp⟩⟩
  have same : ∀ k v, sec.data.lookup k = some v → sec.data.lookup k = some v := fun _ _ => id
  have grown : ∀ extra k v, sec.data.lookup k = some v → (sec.data ++ extra).lookup k = some v :=
    fun extra _ _ h => lookup_append_of_some h extra
  unfold backfillReplicationSecret
  simp only [show (Kind.withName .secret name sec).data = sec.data from rfl]
  by_cases hu : dataHas sec.data "username" = true
  · simp only [hu, ↓reduceIte, Bool.not_true]
    by_cases hp : dataHas sec.data "password" = true
    · simp only [hp, ↓reduceIte]
      exact write _ _ same (fun _ => rfl) hu hp
    · simp only [hp, ↓reduceIte, generatePassword, send, bind_eq, call_bind, Prog.pure_bind,
        Wp.generatePassword, Bool.false_eq_true]
      exact ⟨fun _ _ => ⟨.refl s, nofun⟩, fun pw => write _ _ (grown _) nofun
        (dataHas_append_of_dataHas hu _) (dataHas_append_self _ _ _)⟩
  · simp only [Bool.not_eq_true] at hu
    simp only [hu, Bool.false_eq_true, ↓reduceIte, Bool.not_false]
    by_cases hp : dataHas (sec.data ++ [("username", "repl")]) "password" = true
    · simp only [hp, ↓reduceIte]
      exact write _ _ (grown _) nofun (dataHas_append_self _ _ _) hp
    · simp only [hp, ↓reduceIte, generatePassword, send, bind_eq, call_bind, Prog.pure_bind,
        Wp.generatePassword, Bool.false_eq_true]
      exact ⟨fun _ _ => ⟨.refl s, nofun⟩, fun pw => write _ _
        (fun k v h => by simpa using grown ([("username", "repl"), ("password", pw)]) k v h) nofun
        (dataHas_append_of_dataHas (dataHas_append_self _ _ _) _) (dataHas_append_self _ _ _)⟩

/-- **The Secret's step.** Whatever fails, `ensureReplicationSecret` keeps every Secret value;
    when it returns `nil` for an object with replication enabled and replicas other than `0`,
    the Secret holds both keys. -/
theorem ensureReplicationSecret_spec (ms : MusicService) (s : Store) :
    Wp m (ensureReplicationSecret ms) (fun r s' _ => SecretsKept s s' ∧
      ∀ x, r = some (.ok x) → replicationEnabled ms = true →
        ms.spec.database.map (·.replicas) ≠ some 0 →
          SecretReady (s'.secrets (ms.name ++ "-db-replication"))) s := by
  unfold ensureReplicationSecret
  split_ifs with h
  · exact ⟨.refl s, fun _ _ he h0 => by simp_all⟩
  simp only [getObj, send, bind_eq, call_bind, Prog.pure_bind]
  refine Wp.get_of (fun e => ?_) fun sec hl => (backfillReplicationSecret_spec hl).mono
    fun _ _ _ ⟨hk, h⟩ => ⟨hk, fun x hx _ _ => h x hx⟩
  dsimp only
  split
  · exact ⟨.refl s, nofun⟩
  simp only [generatePassword, createObj, send, bind_eq, call_bind, Prog.pure_bind,
    Wp.generatePassword, Wp.create]
  refine ⟨fun _ _ => ⟨.refl s, nofun⟩, fun pw => ⟨fun _ _ => ⟨.refl s, nofun⟩, ?_⟩⟩
  split
  · exact ⟨s.create_secretsKept _ _, nofun⟩
  · rename_i hc
    refine ⟨s.create_secretsKept _ _, fun _ _ _ _ => ?_⟩
    unfold Store.create at hc ⊢
    split at hc
    · cases hc
    · simp [Store.put, SecretReady, dataHas_cons]

end Ensure

/-! ## Passes -/

theorem replicationEnabled_congr {ms ms' : MusicService} (h : ms'.spec = ms.spec) :
    replicationEnabled ms' = replicationEnabled ms := by
  simp only [replicationEnabled, h]

/-- A program within a region holding no Secret writes no Secret. -/
theorem Prog.All.not_writesSecret {R : Region} {p : Prog α} (h : All (Req.Within R) p)
    (hR : ∀ n, ¬R.keys ⟨.secret, n⟩) : All (fun r => ¬r.WritesSecret) p :=
  h.mono fun _ hr => hr.not_writesSecret hR

/-- The store after the passes `ps` in order, each for a name and answered by its oracle. -/
def runReconciles [QuantityParser] [GaleraReconciler] (ps : List (String × Oracle)) (s : Store) :
    Store :=
  ps.foldl (fun s p => ((reconcile p.1).run p.2 s).store) s

/-- The Secret step writes a Secret only for an object with replication enabled and replicas
    other than `0`. -/
theorem ensureReplicationSecret_writes_only_if (ms : MusicService) :
    All (fun r => r.WritesSecret → replicationEnabled ms = true ∧
      ms.spec.database.map (·.replicas) ≠ some 0) (ensureReplicationSecret ms) := by
  by_cases hc : replicationEnabled ms = true ∧ ms.spec.database.map (·.replicas) ≠ some 0
  · exact (DatabaseReconciler.ensureReplicationSecret_all (P := fun _ => True) trivial trivial
      fun _ _ => ⟨trivial, trivial⟩).mono fun _ _ _ => hc
  · unfold ensureReplicationSecret
    split_ifs with h
    · exact .pure _
    · simp only [Bool.or_eq_true, Bool.not_eq_true', decide_eq_true_eq, not_or,
        Bool.not_eq_false] at h
      exact absurd h hc

/-- The replica step writes Secrets only through `ensureReplicationSecret`. -/
theorem reconcileReplicas_secretsKept [QuantityParser] {m : Bool} (ms : MusicService) :
    Keeps m SecretsKept (DatabaseReconciler.reconcileReplicas ms) := fun s => by
  unfold DatabaseReconciler.reconcileReplicas
  split
  · exact .refl s
  split
  · exact .refl s
  refine Wp.bind_of (ensureReplicationSecret_spec ms s) (fun r s₁ _ h => ?_) fun _ _ h => h.1
  rcases r with e | _
  · exact h.1
  · exact ((syncStatefulSet_within (List.mem_singleton_self _) (List.mem_singleton_self _)
      fun _ h => (buildDatabaseReplicaStatefulSet_some h).1).not_writesSecret
        (by simp [Region.ofKeys]) |>.secretsKept s₁).mono fun _ _ _ h' => h.1.trans h'

section Passes

variable [QuantityParser] [GaleraReconciler] {m : Bool}
  (hG : ∀ ms : MusicService,
    All (fun r => ¬r.WritesSecret) (GaleraReconciler.reconcileGalera ms) ∧
      All (fun r => ¬r.WritesSecret) (GaleraReconciler.reconcileGaleraServices ms))

include hG

/-- Every step of a pass keeps every Secret value. -/
theorem steps_secretsKept (ms : MusicService) :
    ∀ st ∈ appSteps ms ++ databaseSteps ms, Keeps m SecretsKept st.2 := by
  intro st hst
  rcases List.mem_append.mp hst with h | h
  · exact ((appSteps_within ms st h).not_writesSecret (by simp [appRegion])).secretsKept
  obtain ⟨-, ⟨-, e | e⟩ | ⟨-, e | e | e⟩ | e⟩ := Controller.mem_databaseSteps h <;> rw [e]
  · exact (hG ms).1.secretsKept
  · exact (hG ms).2.secretsKept
  · exact ((reconcileMaster_within ms).not_writesSecret (by simp [masterRegion])).secretsKept
  · exact reconcileReplicas_secretsKept ms
  · exact ((reconcileServices_within ms).not_writesSecret
      (by simp [databaseServicesRegion])).secretsKept
  · exact ((reconcileReplicaAutoscaler_within ms).not_writesSecret
      (by intro n; simp only [replicaAutoscalerRegion]; split <;> simp)).secretsKept

theorem runReconciles_secretsKept :
    ∀ (ps : List (String × Oracle)) (s : Store), SecretsKept s (runReconciles ps s)
  | [], s => .refl s
  | (name, o) :: ps, s =>
    have pass : Keeps true SecretsKept (reconcile name) :=
      reconcile_keeps (n := name) SecretsKept.refl SecretsKept.trans
        (fun _ _ h => SecretsKept.of_agree (by simp [parentRegion]) h) fun ms _ => steps_secretsKept hG ms
    (Wp.run (pass s) o (.inl rfl)).trans (runReconciles_secretsKept ps _)

/-- A pass for the fetched object `ms` writes a Secret only when `ms` has replication enabled
    and replicas other than `0`. -/
theorem reconcileObject_writes_secret_only_if (ms : MusicService) :
    All (fun r => r.WritesSecret → replicationEnabled ms = true ∧
      ms.spec.database.map (·.replicas) ≠ some 0) (reconcileObject ms) := by
  have none : ∀ {α} {p : Prog α}, All (fun r => ¬r.WritesSecret) p →
      All (fun r => r.WritesSecret → replicationEnabled ms = true ∧
        ms.spec.database.map (·.replicas) ≠ some 0) p :=
    fun h => h.mono fun _ h hw => absurd hw h
  refine reconcileObject_all (fun _ _ => nofun) fun ms' _ hsp' => reconcileLive_all
    (fun ms'' _ hsp'' st hst => ?_) fun r hr hw =>
      absurd hw (hr.within.not_writesSecret (by simp [statusRegion]))
  have hsp : ms''.spec = ms.spec := hsp''.trans hsp'
  rcases List.mem_append.mp hst with h | h
  · exact none ((appSteps_within ms'' st h).not_writesSecret (by simp [appRegion]))
  obtain ⟨-, ⟨-, e | e⟩ | ⟨-, e | e | e⟩ | e⟩ := Controller.mem_databaseSteps h <;> rw [e]
  · exact none (hG ms'').1
  · exact none (hG ms'').2
  · exact none ((reconcileMaster_within ms'').not_writesSecret (by simp [masterRegion]))
  · refine DatabaseReconciler.reconcileReplicas_all
      ((ensureReplicationSecret_writes_only_if ms'').mono fun _ h hw => ?_) (none ?_)
    · rw [← replicationEnabled_congr hsp, ← hsp]
      exact h hw
    · exact (syncStatefulSet_within (List.mem_singleton_self _) (List.mem_singleton_self _)
        fun _ h => (buildDatabaseReplicaStatefulSet_some h).1).not_writesSecret
          (by simp [Region.ofKeys])
  · exact none ((reconcileServices_within ms'').not_writesSecret (by simp [databaseServicesRegion]))
  · exact none ((reconcileReplicaAutoscaler_within ms'').not_writesSecret
      (by intro n; simp only [replicaAutoscalerRegion]; split <;> simp))

/-- A pass writes a Secret only for a stored object with replication enabled and replicas other
    than `0`. -/
theorem reconcile_writes_secret_only_if (name : String) (s : Store) :
    Wp m (reconcile name) (fun _ _ tr => ∀ r ∈ tr, r.WritesSecret → ∃ ms,
      s.musicServices name = some ms ∧ replicationEnabled ms = true ∧
        ms.spec.database.map (·.replicas) ≠ some 0) s :=
  reconcile_wp s nofun fun ms hms => (reconcileObject_writes_secret_only_if hG _).mono
    fun _ h hw => ⟨ms, hms, h hw⟩

end Passes

/-- **The replication credentials.** With Galera steps that write no Secret: every value a
    Secret holds survives every run of passes, whatever fails; a pass writes a Secret only for a
    stored object with replication enabled and replicas `> 0`; and when
    `ensureReplicationSecret` returns `nil` for such an object, the Secret holds both keys. -/
theorem replication_credentials_stable [QuantityParser] [GaleraReconciler]
    (hG : ∀ ms : MusicService,
      All (fun r => ¬r.WritesSecret) (GaleraReconciler.reconcileGalera ms) ∧
        All (fun r => ¬r.WritesSecret) (GaleraReconciler.reconcileGaleraServices ms)) :
    (∀ (ps : List (String × Oracle)) (s : Store) (n k v : String),
      secretValue s n k = some v → secretValue (runReconciles ps s) n k = some v) ∧
    (∀ (name : String) (o : Oracle) (s : Store),
      (∀ ms, s.musicServices name = some ms → ms.spec.Admitted) →
        ∀ r ∈ ((reconcile name).run o s).trace, r.WritesSecret →
          ∃ ms, s.musicServices name = some ms ∧ replicationEnabled ms = true ∧
            ∃ db, ms.spec.database = some db ∧ 0 < db.replicas) ∧
    ∀ (ms : MusicService) (o : Oracle) (s : Store) (x : Option Secret),
      ((ensureReplicationSecret ms).run o s).result = some (.ok x) →
      replicationEnabled ms = true → ms.spec.database.map (·.replicas) ≠ some 0 →
        SecretReady (((ensureReplicationSecret ms).run o s).store.secrets
          (ms.name ++ "-db-replication")) := by
  refine ⟨runReconciles_secretsKept hG, fun name o s hadm r hr hw => ?_,
    fun ms o s x hx => (Wp.run (ensureReplicationSecret_spec (m := true) ms s) o (.inl rfl)).2 x hx⟩
  obtain ⟨ms, hms, he, h0⟩ := Wp.run (reconcile_writes_secret_only_if hG (m := true) name s) o
    (.inl rfl) r hr hw
  obtain ⟨db, hdb⟩ : ∃ db, ms.spec.database = some db := by
    cases h : ms.spec.database <;> simp_all [replicationEnabled]
  have hnn : 0 ≤ db.replicas := (hadm ms hms).database_replicas_nonneg hdb
  have hne : db.replicas ≠ 0 := fun h => h0 (by simp [hdb, h])
  exact ⟨ms, hms, he, db, hdb, lt_of_le_of_ne hnn (Ne.symm hne)⟩

/-- The parent `m` with a one-replica database, and the replication Secret holding both
    credentials. -/
def credentialStore : Store :=
  { sampleStore { sampleSpec with database := some { enabled := true, replicas := 1 } } none [] with
    secrets := fun n => if n = "m-db-replication" then
      some { metadata := { name := n }, type := "Opaque",
             data := [("username", "repl"), ("password", "secret")] } else none }

/-- With Galera steps that send nothing, two passes for `m`, the second failing at its fifth
    request, keep the replication user of `m`. -/
theorem sample_replication_credentials :
    secretValue (runReconciles [("m", exactOracle), ("m", failingAt 4)] credentialStore)
      "m-db-replication" "username" = some "repl" :=
  (replication_credentials_stable fun _ => ⟨.pure _, .pure _⟩).1 _ _ _ _ _ rfl

end MusicOperator
