import MusicOperator.Properties.StatusSync

/-!
  The conditions and the replica history that the status operations keep.

  Every condition the status manager writes goes through `setCondition`, by way of
  `setStatusCondition`: one condition of a type, set at some clock reading (`ConditionSet`).
  The operations (`StatusOp`: `UpdateReconciled`, `UpdateError`, `UpdateFromAppStatefulSet`,
  `UpdateDatabase`, `updateStorageWarnings`) each set a fixed list of distinct types
  (`StatusOp.types`), every one at most once.

  1. `CondStep ts C cs cs'` says what an operation setting types among `ts`, reading the clock
     at times in `C`, may do to a condition list: keep the types distinct, keep their order and
     append new types, leave every other type's entry alone, move an entry's
     `lastTransitionTime` only together with its status, and give an entry it adds or whose
     status it changes a time in `C`. `setCondition_condStep` is the one-call case;
     `CondStep.trans` composes calls of disjoint types.
  2. The replica history (`replicaEverCreated`, `replicaDeletionDetected`, the status of the
     `DatabaseReplicaHistory` condition) moves as the abstract machine `ReplicaHistory.Step`
     allows: not at all, to "observed", or to "deleted" once observed. `Step.valid`: every
     step keeps the law `ReplicaHistory.Valid` and never forgets `everCreated`.
  3. `StatusEffect` joins the two for the operations that cannot set `DatabaseReplicaHistory`;
     each operation is proved to have its effect (`StatusOp.run_effect`) and `UpdateDatabase`
     to refine one history step (`updateDatabase_effect`).
  4. Over a run of operations with edits between them (`StatusRun`), the types stay distinct and
     every operation is a `CondStep` at the clock readings it takes (`conditions_invariant`), and
     the replica-history law holds throughout (`replica_history_invariant`). A status change need
     not move the transition time: it becomes the clock reading, which may be the old time
     (`status_change_keeps_time`).
-/

namespace MusicOperator

open Prog Status Manager
open Reconciler (sampleParent sampleStore sampleSpec exactOracle)

/-! ## One `setCondition` -/

section SetCondition

variable (now : Time) {c : Condition} {t : String}

/-- `setConditionLoop` keeps the types, appending `c`'s when it is new. -/
theorem setConditionLoop_types (c : Condition) : ∀ cs : List Condition,
    (setConditionLoop now c cs).map (·.type) =
      if c.type ∈ cs.map (·.type) then cs.map (·.type) else cs.map (·.type) ++ [c.type]
  | [] => by simp [setConditionLoop]
  | d :: cs => by
    by_cases hd : d.type = c.type
    · simp [setConditionLoop, hd]
    · simp only [setConditionLoop, hd, ↓reduceIte, List.map_cons, setConditionLoop_types c cs,
        List.mem_cons, Ne.symm hd, false_or]
      split <;> rfl

/-- The entry `setConditionLoop` leaves for `c`'s type: `c` itself when the type is new, else `c`
    with the old entry's time unless the status changed. -/
theorem conditionOf_setConditionLoop (c : Condition) : ∀ cs : List Condition,
    conditionOf c.type (setConditionLoop now c cs) = some ((conditionOf c.type cs).elim c fun old =>
      { c with lastTransitionTime :=
          if old.status ≠ c.status then now else old.lastTransitionTime })
  | [] => by simp [setConditionLoop]
  | d :: cs => by
    by_cases hd : d.type = c.type
    · simp [setConditionLoop, hd]
    · simp [setConditionLoop, hd, conditionOf_setConditionLoop c cs]

theorem setCondition_types (cs : List Condition) (c : Condition) :
    (setCondition now cs c).map (·.type) =
      if c.type ∈ cs.map (·.type) then cs.map (·.type) else cs.map (·.type) ++ [c.type] := by
  unfold setCondition
  split <;> exact setConditionLoop_types now _ cs

/-- An entry `setCondition` replaces keeps its transition time unless its status changes. -/
theorem setCondition_time {x y : Condition} {cs : List Condition}
    (hx : conditionOf c.type cs = some x) (hy : conditionOf c.type (setCondition now cs c) = some y) :
    y.status = c.status ∧ (y.lastTransitionTime ≠ x.lastTransitionTime → x.status ≠ c.status) := by
  have loop : ∀ c' : Condition, conditionOf c.type (setConditionLoop now c' cs) = some y →
      c'.type = c.type → c'.status = c.status →
        y.status = c.status ∧ (y.lastTransitionTime ≠ x.lastTransitionTime → x.status ≠ c.status) := by
    intro c' hy ht hs
    have hc := conditionOf_setConditionLoop now c' cs
    rw [ht] at hc
    rw [hc, hx] at hy
    cases hy
    exact ⟨hs, fun hne h => hne (by simp [h, hs])⟩
  unfold setCondition at hy
  split at hy <;> exact loop _ hy rfl rfl

/-- An entry `setCondition` adds, or whose status it changes, carries the clock reading `now`,
    when the condition given carries no time (as `setStatusCondition`'s never does). -/
theorem setCondition_stamp (hc : c.lastTransitionTime = 0) {cs : List Condition} {y : Condition}
    (hy : conditionOf c.type (setCondition now cs c) = some y)
    (hch : ∀ x, conditionOf c.type cs = some x → y.status ≠ x.status) :
    y.lastTransitionTime = now := by
  have hl := conditionOf_setConditionLoop now { c with lastTransitionTime := now } cs
  simp only [setCondition, hc, ↓reduceIte] at hy hl
  rw [hl] at hy
  cases hx : conditionOf c.type cs with
  | none => rw [hx] at hy; cases hy; rfl
  | some x =>
    rw [hx] at hy
    cases hy
    have hne : x.status ≠ c.status := fun h => hch x hx h.symm
    simp [hne]

end SetCondition

/-! ## What an operation may do to the conditions -/

/-- What an operation that sets condition types among `ts`, reading the clock at times in `C`,
    may do to a condition list. -/
structure CondStep (ts : List String) (C : Time → Prop) (cs cs' : List Condition) : Prop where
  /-- The types stay pairwise distinct. -/
  nodup : (cs.map (·.type)).Nodup → (cs'.map (·.type)).Nodup
  /-- The types keep their order; new ones come last. -/
  appends : ∃ new, cs'.map (·.type) = cs.map (·.type) ++ new
  /-- The entry of every type outside `ts` is unchanged. -/
  others : ∀ t ∉ ts, conditionOf t cs' = conditionOf t cs
  /-- An entry's transition time moves only when its status does. -/
  time : ∀ t x y, conditionOf t cs = some x → conditionOf t cs' = some y →
    y.lastTransitionTime ≠ x.lastTransitionTime → y.status ≠ x.status
  /-- An entry that is new, or whose status changed, carries a clock reading. -/
  stamped : ∀ t y, conditionOf t cs' = some y →
    (∀ x, conditionOf t cs = some x → y.status ≠ x.status) → C y.lastTransitionTime

namespace CondStep

variable {ts ts₁ ts₂ : List String} {C : Time → Prop} {cs cs₁ cs₂ : List Condition}

theorem of_eq (h : cs₁ = cs) : CondStep ts C cs cs₁ := by
  subst h
  exact ⟨id, ⟨[], by simp⟩, fun _ _ => rfl,
    fun _ _ _ hx hy hne _ => hne (by rw [hx] at hy; cases hy; rfl),
    fun _ y hy hch => absurd rfl (hch y hy)⟩

/-- Two operations of disjoint types make one. -/
theorem trans (h₁ : CondStep ts₁ C cs cs₁) (h₂ : CondStep ts₂ C cs₁ cs₂)
    (hd : ∀ t ∈ ts₁, t ∉ ts₂) : CondStep (ts₁ ++ ts₂) C cs cs₂ where
  nodup h := h₂.nodup (h₁.nodup h)
  appends := by
    obtain ⟨n₁, h₁⟩ := h₁.appends
    obtain ⟨n₂, h₂⟩ := h₂.appends
    exact ⟨n₁ ++ n₂, by rw [h₂, h₁, List.append_assoc]⟩
  others t ht := by
    rw [List.mem_append, not_or] at ht
    rw [h₂.others t ht.2, h₁.others t ht.1]
  time t x y hx hy := by
    by_cases ht : t ∈ ts₁
    · exact h₁.time t x y hx (by rwa [← h₂.others t (hd t ht)])
    · exact h₂.time t x y (by rwa [h₁.others t ht]) hy
  stamped t y hy hch := by
    by_cases ht : t ∈ ts₁
    · exact h₁.stamped t y (by rwa [← h₂.others t (hd t ht)]) hch
    · exact h₂.stamped t y hy fun x hx => hch x (by rwa [← h₁.others t ht])

end CondStep

/-- One `setCondition`, at a clock reading in `C`, of a condition that carries no time, is an
    operation of `c`'s type. -/
theorem setCondition_condStep {C : Time → Prop} {now : Time} (hnow : C now) (cs : List Condition)
    {c : Condition} {t : String} (ht : c.type = t) (hc : c.lastTransitionTime = 0) :
    CondStep [t] C cs (setCondition now cs c) where
  nodup h := by
    rw [setCondition_types]
    split
    · exact h
    · exact List.nodup_append.mpr ⟨h, List.nodup_singleton _, List.disjoint_singleton.mpr ‹_›⟩
  appends := by
    rw [setCondition_types]
    split
    · exact ⟨[], (List.append_nil _).symm⟩
    · exact ⟨_, rfl⟩
  others t' ht' := setCondition_conditionOf_ne now (fun h => ht' (by simp [← h, ht])) cs
  time t' x y hx hy hne := by
    by_cases ht' : c.type = t'
    · subst ht'
      obtain ⟨hs, htime⟩ := setCondition_time now hx hy
      exact hs ▸ (htime hne).symm
    · rw [setCondition_conditionOf_ne now ht', hx] at hy
      cases hy
      exact absurd rfl hne
  stamped t' y hy hch := by
    by_cases ht' : c.type = t'
    · subst ht'
      exact setCondition_stamp now hc hy hch ▸ hnow
    · rw [setCondition_conditionOf_ne now ht'] at hy
      exact absurd rfl (hch y hy)

/-! ## The replica history -/

/-- The replica history a status carries: `replicaEverCreated`, `replicaDeletionDetected`, and
    the status of the `DatabaseReplicaHistory` condition when there is one. -/
structure ReplicaHistory where
  everCreated : Bool
  deletionDetected : Bool
  condition : Option String
deriving DecidableEq, Repr

/-- The history of `ms`, an unset database status read as the empty one. -/
def replicaHistory (ms : MusicService) : ReplicaHistory where
  everCreated := (ms.status.database.getD {}).replicaEverCreated
  deletionDetected := (ms.status.database.getD {}).replicaDeletionDetected
  condition := (conditionOf "DatabaseReplicaHistory" ms.status.conditions).map (·.status)

namespace ReplicaHistory

/-- How the history may move: not at all, the replica tier observed, or its deletion noticed once
    it had been observed. -/
inductive Step : ReplicaHistory → ReplicaHistory → Prop
  | stay (h : ReplicaHistory) : Step h h
  | observed (h : ReplicaHistory) : Step h ⟨true, false, some "True"⟩
  | deleted {h : ReplicaHistory} : h.everCreated = true →
      Step h { h with deletionDetected := true, condition := some "False" }

/-- The law of the history: a deletion is detected only of a tier once created, exactly when the
    condition is `False`, and the condition exists only once the tier was created. -/
structure Valid (h : ReplicaHistory) : Prop where
  created_of_deleted : h.deletionDetected = true → h.everCreated = true
  deleted_iff : h.deletionDetected = true ↔ h.condition = some "False"
  created_of_condition : h.condition.isSome → h.everCreated = true

theorem valid_empty : Valid ⟨false, false, none⟩ := ⟨nofun, by simp, nofun⟩

/-- Every step keeps the law and never forgets that the tier was created. -/
theorem Step.valid {h h' : ReplicaHistory} (hv : h.Valid) :
    Step h h' → h'.Valid ∧ (h.everCreated = true → h'.everCreated = true)
  | .stay _ => ⟨hv, id⟩
  | .observed _ => ⟨⟨nofun, by simp, fun _ => rfl⟩, fun _ => rfl⟩
  | .deleted he => ⟨⟨fun _ => he, by simp, fun _ => he⟩, fun _ => he⟩

end ReplicaHistory

section History

variable {ms : MusicService} {now : Time} {c : Condition}

theorem replicaHistory_setCondition_ne (h : c.type ≠ "DatabaseReplicaHistory") :
    replicaHistory { ms with status.conditions := setCondition now ms.status.conditions c } =
      replicaHistory ms := by
  simp [replicaHistory, setCondition_conditionOf_ne now h]

theorem replicaHistory_setCondition (h : c.type = "DatabaseReplicaHistory") :
    replicaHistory { ms with status.conditions := setCondition now ms.status.conditions c } =
      { replicaHistory ms with condition := some c.status } := by
  simp [replicaHistory, h]

end History

/-! ## The effect of one operation -/

/-- What an operation setting types among `ts`, at clock readings in `C`, does: it changes the
    conditions as `CondStep ts C` allows, and the replica history not at all unless it may set
    `DatabaseReplicaHistory`. -/
def StatusEffect (ts : List String) (C : Time → Prop) (ms ms' : MusicService) : Prop :=
  CondStep ts C ms.status.conditions ms'.status.conditions ∧
    ("DatabaseReplicaHistory" ∉ ts → replicaHistory ms' = replicaHistory ms)

/-- `ms'` is `ms` with one condition of type `t` and status `status` set at a clock reading in
    `C`, as `setStatusCondition` sets it. -/
def ConditionSet (t status : String) (C : Time → Prop) (ms ms' : MusicService) : Prop :=
  ∃ now, C now ∧ ∃ reason message, ms' = { ms with
    status.conditions := setCondition now ms.status.conditions
      { type := t, status := status, observedGeneration := ms.generation, reason := reason,
        message := message } }

namespace StatusEffect

variable {ts ts₁ ts₂ : List String} {C : Time → Prop} {ms ms₁ ms₂ : MusicService}

/-- An edit that keeps the conditions and the replica history. -/
theorem of_eq (hc : ms₁.status.conditions = ms.status.conditions)
    (hh : replicaHistory ms₁ = replicaHistory ms) : StatusEffect ts C ms ms₁ :=
  ⟨.of_eq hc, fun _ => hh⟩

/-- An edit before the operation that keeps the conditions and the history. -/
theorem before (h : StatusEffect ts C ms₁ ms₂) (hc : ms₁.status.conditions = ms.status.conditions)
    (hh : replicaHistory ms₁ = replicaHistory ms) : StatusEffect ts C ms ms₂ :=
  ⟨hc ▸ h.1, fun ht => (h.2 ht).trans hh⟩

/-- An edit after the operation that keeps the conditions and the history. -/
theorem after (h : StatusEffect ts C ms ms₁) (hc : ms₂.status.conditions = ms₁.status.conditions)
    (hh : replicaHistory ms₂ = replicaHistory ms₁) : StatusEffect ts C ms ms₂ :=
  ⟨hc ▸ h.1, fun ht => hh.trans (h.2 ht)⟩

theorem trans (h₁ : StatusEffect ts₁ C ms ms₁) (h₂ : StatusEffect ts₂ C ms₁ ms₂)
    (hd : ∀ t ∈ ts₁, t ∉ ts₂) : StatusEffect (ts₁ ++ ts₂) C ms ms₂ :=
  ⟨h₁.1.trans h₂.1 hd, fun h => by
    rw [List.mem_append, not_or] at h
    rw [h₂.2 h.2, h₁.2 h.1]⟩

theorem of_set {t status : String} (h : ConditionSet t status C ms ms₁) :
    StatusEffect [t] C ms ms₁ := by
  obtain ⟨now, hnow, _, _, rfl⟩ := h
  exact ⟨setCondition_condStep hnow _ rfl rfl, fun ht =>
    replicaHistory_setCondition_ne fun h => ht (h ▸ List.mem_singleton_self _)⟩

end StatusEffect

section Effects

variable {C : Time → Prop} {ms : MusicService} {t : String}

theorem setStatusCondition_set (status reason message : String) :
    AllRetAt C (ConditionSet t status C ms) (setStatusCondition ms t status reason message) :=
  AllRetAt.now_bind fun now hnow => .pure ⟨now, hnow, _, _, rfl⟩

theorem setStatusCondition_effect (status reason message : String) :
    AllRetAt C (StatusEffect [t] C ms) (setStatusCondition ms t status reason message) :=
  (setStatusCondition_set ..).imp fun _ => StatusEffect.of_set

theorem setAvailability_effect (ready replicas : Int) :
    AllRetAt C (StatusEffect ["Available"] C ms) (setAvailability ms ready replicas) := by
  unfold setAvailability
  split_ifs <;> exact (setStatusCondition_effect ..).imp fun _ h => h.before rfl rfl

theorem updateReconciled_effect :
    AllRetAt C (fun p : MusicService × _ => StatusEffect ["Reconciled"] C ms p.1)
      (updateReconciled ms) :=
  (setStatusCondition_set ..).bind fun _ h =>
    .call fun _ _ => .call fun _ _ => .pure ((StatusEffect.of_set h).after rfl rfl)

theorem updateError_effect (reason message : String) :
    AllRetAt C (fun p : MusicService × _ => StatusEffect ["Reconciled"] C ms p.1)
      (updateError ms reason message) :=
  .call fun _ _ => (setStatusCondition_set ..).bind fun _ h =>
    .call fun _ _ => .pure ((StatusEffect.of_set h).before rfl rfl)

/-- The replica half of `UpdateDatabase` sets at most the history condition and moves the
    history by one step. -/
theorem updateReplicaStatus_effect :
    AllRetAt C (fun ms' => StatusEffect ["DatabaseReplicaHistory"] C ms ms' ∧
      (replicaHistory ms).Step (replicaHistory ms')) (updateReplicaStatus ms) := by
  unfold updateReplicaStatus
  split
  · exact .panic
  split
  · refine AllRetAt.send_bind fun x _ => ?_
    rcases x with e | sts
    · dsimp only
      split
      · rename_i h
        have hev : (replicaHistory ms).everCreated = true := (Bool.and_eq_true _ _ ▸ h).2
        refine (setStatusCondition_set ..).imp fun _ hs =>
          ⟨⟨(StatusEffect.of_set hs).1, fun h => absurd (List.mem_singleton_self _) h⟩, ?_⟩
        obtain ⟨now, -, _, _, rfl⟩ := hs
        rw [replicaHistory_setCondition rfl]
        exact .deleted hev
      · exact .pure ⟨.of_eq rfl rfl, .stay _⟩
    · exact AllRetAt.send_bind fun _ _ => (setStatusCondition_set ..).imp
        fun _ hs => ⟨⟨(StatusEffect.of_set hs).1, fun h => absurd (List.mem_singleton_self _) h⟩, by
          obtain ⟨now, -, _, _, rfl⟩ := hs
          rw [replicaHistory_setCondition rfl]
          exact .observed _⟩
  · exact .pure ⟨.of_eq rfl rfl, .stay _⟩

variable [QuantityParser]

/-- `updateStorageWarnings` sets `conditionType` once, whichever branch it takes. -/
theorem updateStorageWarnings_effect (sts : StatefulSet) (c a size : String) :
    AllRetAt C (StatusEffect [t] C ms) (updateStorageWarnings ms sts c a size t) := by
  unfold updateStorageWarnings
  split
  · exact setStatusCondition_effect ..
  · refine (AllRetAt.of_allRet (listPVCsByPrefix_all (n := ms.name) c a)).bind fun r _ => ?_
    rcases r with e | l
    · exact setStatusCondition_effect ..
    · dsimp only
      split <;> exact setStatusCondition_effect ..

theorem updateFromAppStatefulSet_effect (sts : StatefulSet) :
    AllRetAt C (fun p : MusicService × _ => StatusEffect ["Available", "StorageWarningApp"] C ms p.1)
      (updateFromAppStatefulSet ms sts) := by
  unfold updateFromAppStatefulSet
  split
  · exact .panic
  · exact (setAvailability_effect ..).bind fun _ h₁ => (updateStorageWarnings_effect ..).bind
      fun _ h₂ => .call fun _ _ => .pure ((h₁.before rfl rfl).trans h₂ (by decide))

theorem updateMasterStatus_effect :
    AllRetAt C (StatusEffect ["StorageWarningDatabase"] C ms) (updateMasterStatus ms) := by
  refine AllRetAt.send_bind fun x _ => ?_
  rcases x with e | sts
  · exact .pure (.of_eq rfl rfl)
  · dsimp only
    split
    · exact .panic
    · split
      · exact (updateStorageWarnings_effect ..).imp fun _ h => h.before rfl rfl
      · exact .pure (.of_eq rfl rfl)

/-- `UpdateDatabase` sets the storage and history conditions and moves the history by one
    step. -/
theorem updateDatabase_effect :
    AllRetAt C (fun p : MusicService × _ =>
      StatusEffect ["StorageWarningDatabase", "DatabaseReplicaHistory"] C ms p.1 ∧
        (replicaHistory ms).Step (replicaHistory p.1)) (updateDatabase ms) := by
  unfold updateDatabase
  have hc : (if ms.status.database.isNone then { ms with status.database := some {} } else ms).status.conditions =
      ms.status.conditions := by split <;> rfl
  have hh : replicaHistory (if ms.status.database.isNone then { ms with status.database := some {} } else ms) =
      replicaHistory ms := by split <;> simp_all [replicaHistory]
  refine updateMasterStatus_effect.bind fun ms₁ h₁ => updateReplicaStatus_effect.bind
    fun ms₂ ⟨h₂, hst⟩ => .call fun _ _ => .pure ⟨(h₁.before hc hh).trans h₂ (by decide), ?_⟩
  rwa [← (h₁.before hc hh).2 (by decide)]

end Effects

/-! ## Runs of status operations -/

/-- The status operations, each with the arguments it is given. -/
inductive StatusOp where
  | reconciled
  | error (reason message : String)
  | fromAppStatefulSet (sts : StatefulSet)
  | database
  | storageWarnings (sts : StatefulSet) (claimName appName desiredSize conditionType : String)

namespace StatusOp

variable [QuantityParser]

/-- The object an operation leaves in memory; the status write's error is dropped, the object
    being mutated either way. -/
def run : StatusOp → MusicService → Prog MusicService
  | .reconciled, ms => (updateReconciled ms).bind fun p => .pure p.1
  | .error reason message, ms => (updateError ms reason message).bind fun p => .pure p.1
  | .fromAppStatefulSet sts, ms => (updateFromAppStatefulSet ms sts).bind fun p => .pure p.1
  | .database, ms => (updateDatabase ms).bind fun p => .pure p.1
  | .storageWarnings sts c a size t, ms => updateStorageWarnings ms sts c a size t

/-- The condition types an operation sets. -/
def types : StatusOp → List String
  | .reconciled | .error .. => ["Reconciled"]
  | .fromAppStatefulSet _ => ["Available", "StorageWarningApp"]
  | .database => ["StorageWarningDatabase", "DatabaseReplicaHistory"]
  | .storageWarnings _ _ _ _ t => [t]

theorem run_effect {C : Time → Prop} (op : StatusOp) (ms : MusicService) :
    AllRetAt C (StatusEffect op.types C ms) (op.run ms) := by
  cases op with
  | reconciled => exact updateReconciled_effect.bind fun _ h => .pure h
  | error => exact (updateError_effect ..).bind fun _ h => .pure h
  | fromAppStatefulSet => exact (updateFromAppStatefulSet_effect _).bind fun _ h => .pure h
  | database => exact updateDatabase_effect.bind fun _ h => .pure h.1
  | storageWarnings => exact updateStorageWarnings_effect ..

/-- Every operation refines one step of the replica history, unless it is a storage update
    aimed at the history condition. -/
theorem run_history {op : StatusOp} (hop : op ≠ .database → "DatabaseReplicaHistory" ∉ op.types)
    (ms : MusicService) :
    AllRetAt (fun _ => True) (fun ms' => (replicaHistory ms).Step (replicaHistory ms'))
      (op.run ms) := by
  by_cases hdb : op = .database
  · subst hdb
    exact updateDatabase_effect.bind fun _ h => .pure h.2
  · exact (run_effect op ms).imp fun _ h => h.2 (hop hdb) ▸ .stay _

end StatusOp

/-- A run of status operations from `ms` to `ms'`. Each operation returns an object for some
    replies and clock readings, and the next one starts from it after an edit `E` (of the spec,
    say). -/
inductive StatusRun [QuantityParser] (E : MusicService → MusicService → Prop) :
    List StatusOp → MusicService → MusicService → Prop
  | nil (ms : MusicService) : StatusRun E [] ms ms
  | cons {op : StatusOp} {ops : List StatusOp} {ms ms₁ ms₂ ms' : MusicService} (o : Oracle)
      (s : Store) : ((op.run ms).run o s).result = some ms₁ → E ms₁ ms₂ → StatusRun E ops ms₂ ms' →
      StatusRun E (op :: ops) ms ms'

theorem Prog.AllRet.of_run {Q : α → Prop} {p : Prog α} (h : AllRet (fun _ => True) Q p) (o : Oracle)
    (s : Store) {a : α} (ha : (p.run o s).result = some a) : Q a :=
  (h.wp (m := true) (s := s)).run o (.inl rfl) a ha

section Runs

variable [QuantityParser] {E : MusicService → MusicService → Prop}

/-- An invariant that every operation of the run and every edit keep holds at its end. -/
theorem StatusRun.inv {I : MusicService → Prop} {ops : List StatusOp} {ms ms' : MusicService}
    (hop : ∀ op ∈ ops, ∀ ms, I ms → AllRetAt (fun _ => True) I (op.run ms))
    (hE : ∀ ms ms', E ms ms' → I ms → I ms') (hrun : StatusRun E ops ms ms') (h : I ms) : I ms' := by
  induction hrun with
  | nil => exact h
  | cons o s hr he _ ih =>
    exact ih (fun op hop' => hop op (List.mem_cons_of_mem _ hop'))
      (hE _ _ he ((hop _ (List.mem_cons_self _ _) _ h).of_run o s (fun _ _ => trivial) hr))

/-- **Condition-set invariant.** Over any run from an empty condition list, with edits that
    keep the conditions, the condition types stay distinct, and each further operation keeps
    their order, appends new ones, changes only the entries of its own types, moves an entry's
    transition time only together with its status, and stamps an entry it adds or whose status it
    changes with a reading of the clock taken during the operation. -/
theorem conditions_invariant
    (hE : ∀ ms ms', E ms ms' → ms'.status.conditions = ms.status.conditions)
    (ops : List StatusOp) (ms₀ ms : MusicService) (h₀ : ms₀.status.conditions = [])
    (hrun : StatusRun E ops ms₀ ms) :
    (ms.status.conditions.map (·.type)).Nodup ∧
      ∀ (op : StatusOp) (o : Oracle) (s : Store) (ms' : MusicService),
        ((op.run ms).run o s).result = some ms' →
          CondStep op.types (fun τ => ∃ i < ((op.run ms).run o s).trace.length, o.clock i = τ)
            ms.status.conditions ms'.status.conditions := by
  refine ⟨hrun.inv (I := fun ms => (ms.status.conditions.map (·.type)).Nodup)
    (fun op _ ms h => (op.run_effect ms).imp fun _ he => he.1.nodup h)
    (fun a b he h => by dsimp only; rwa [hE a b he]) (by simp [h₀]), fun op o s ms' h => ?_⟩
  exact ((op.run_effect ms).of_run o s (fun i hi => ⟨i, hi, rfl⟩) h).1

/-- **Replica-history invariant.** Along any run of operations, with edits that keep the history
    and no storage update aimed at the history condition, the history law holds throughout and
    `replicaEverCreated` is never reset. -/
theorem replica_history_invariant
    (hE : ∀ ms ms', E ms ms' → replicaHistory ms' = replicaHistory ms)
    (ops : List StatusOp) (hops : ∀ op ∈ ops, op ≠ .database → "DatabaseReplicaHistory" ∉ op.types)
    (ms₀ ms : MusicService) (h₀ : (replicaHistory ms₀).Valid) (hrun : StatusRun E ops ms₀ ms) :
    (replicaHistory ms).Valid ∧
      ((replicaHistory ms₀).everCreated = true → (replicaHistory ms).everCreated = true) := by
  refine hrun.inv (I := fun ms => (replicaHistory ms).Valid ∧
      ((replicaHistory ms₀).everCreated = true → (replicaHistory ms).everCreated = true))
    (fun op hop ms ⟨hv, hc⟩ => (StatusOp.run_history (hops op hop) ms).imp
      fun _ hst => (hst.valid hv).imp_right fun h' h₀ => h' (hc h₀))
    (fun a b he h => by dsimp only; rwa [hE a b he]) ⟨h₀, id⟩

end Runs

/-! ## Runs on fixed inputs -/

/-- The store that never fails, its clock standing at `5`. -/
def steadyClock : Oracle := Oracle.exact (fun _ => 5) fun _ => ""

theorem sample_conditions_invariant :
    ∃ ms : MusicService, StatusRun Eq [.reconciled] (sampleParent sampleSpec) ms ∧
      (ms.status.conditions.map (·.type)).Nodup ∧
      ∀ (op : StatusOp) (o : Oracle) (s : Store) (ms' : MusicService),
        ((op.run ms).run o s).result = some ms' →
          CondStep op.types (fun τ => ∃ i < ((op.run ms).run o s).trace.length, o.clock i = τ)
            ms.status.conditions ms'.status.conditions := by
  obtain ⟨ms, hrun⟩ : ∃ ms, StatusRun Eq [StatusOp.reconciled] (sampleParent sampleSpec) ms :=
    ⟨_, .cons steadyClock Store.empty rfl rfl (.nil _)⟩
  exact ⟨ms, hrun, conditions_invariant (E := Eq) (fun _ _ h => h ▸ rfl) _ _ ms rfl hrun⟩

/-- A status change need not move the transition time: with the clock at `5` for both,
    `UpdateReconciled` sets `Reconciled` `True` at `5`, and `UpdateError` then turns it `False` with
    its time still `5`. -/
theorem status_change_keeps_time :
    ∃ ms₁ ms₂ : MusicService, StatusRun Eq [.reconciled] (sampleParent sampleSpec) ms₁ ∧
      (((StatusOp.error "StatefulSetFailed" "timeout").run ms₁).run steadyClock Store.empty).result =
        some ms₂ ∧
      (conditionOf "Reconciled" ms₁.status.conditions).map (fun c => (c.status, c.lastTransitionTime)) =
        some ("True", 5) ∧
      (conditionOf "Reconciled" ms₂.status.conditions).map (fun c => (c.status, c.lastTransitionTime)) =
        some ("False", 5) :=
  ⟨_, _, .cons steadyClock Store.empty rfl rfl (.nil _), rfl, by decide, by decide⟩

theorem sample_replica_history_invariant :
    ∃ ms : MusicService, StatusRun Eq [.database] (sampleParent databaseSpec) ms ∧
      (replicaHistory ms).Valid ∧
      ((replicaHistory (sampleParent databaseSpec)).everCreated = true →
        (replicaHistory ms).everCreated = true) := by
  obtain ⟨ms, hrun⟩ : ∃ ms, StatusRun Eq [StatusOp.database] (sampleParent databaseSpec) ms :=
    ⟨_, .cons exactOracle (sampleStore databaseSpec none []) rfl rfl (.nil _)⟩
  exact ⟨ms, hrun, replica_history_invariant (E := Eq) (fun _ _ h => h ▸ rfl) _
    (fun _ h hne => absurd (List.mem_singleton.mp h) hne) _ ms ReplicaHistory.valid_empty hrun⟩

end MusicOperator
