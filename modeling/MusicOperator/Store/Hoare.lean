import MusicOperator.Store.Guarantee

/-!
  Weakest preconditions of request programs.

  `Prog.Wp m p Q s` says: every run of `p` from store `s` ends in `Q` — its result (`none` for a
  panic), its store and its requests — whatever the clock and the random source return and,
  when `m` ("may fail"), whatever request the API server fails. It is `Prog.run` quantified
  over oracles (`Wp.run`), but stated by recursion on the program, so that it splits at a
  `bind` (`Wp.bind`) and steps through one request at a time (`Wp.get`, `Wp.create`, ...):
  each reconcile function gets one specification lemma, and callers cite it.
-/

namespace MusicOperator

namespace Prog

/-- Every run of `p` from `s` ends in `Q`, each request answered as an oracle answers it that
    fails only when `m` allows it. -/
def Wp (m : Bool) : Prog α → (Option α → Store → List Req → Prop) → Store → Prop
  | .pure a, Q, s => Q (some a) s []
  | .panic, Q, s => Q none s []
  | .call r k, Q, s => ∀ o : Oracle, (m = true ∨ o.fault 0 = none) →
      Wp m (k (s.answer o r).1) (fun a s' tr => Q a s' (r :: tr)) (s.answer o r).2

variable {m : Bool} {Q Q' : Option α → Store → List Req → Prop} {s : Store}

@[simp] theorem Wp.pure_iff (a : α) : Wp m (.pure a) Q s ↔ Q (some a) s [] := Iff.rfl

@[simp] theorem Wp.panic_iff : Wp m (.panic : Prog α) Q s ↔ Q none s [] := Iff.rfl

theorem Wp.mono {p : Prog α} (h : Wp m p Q s) (hQ : ∀ a s tr, Q a s tr → Q' a s tr) :
    Wp m p Q' s := by
  induction p generalizing Q Q' s with
  | pure a => exact hQ _ _ _ h
  | panic => exact hQ _ _ _ h
  | call r k ih => exact fun o ho => ih _ (h o ho) fun a s tr => hQ a s (r :: tr)

/-- **Soundness.** A precondition holds of every run of the faithful semantics. -/
theorem Wp.run {p : Prog α} (h : Wp m p Q s) (o : Oracle)
    (ho : m = true ∨ ∀ i, o.fault i = none) :
    Q (p.run o s).result (p.run o s).store (p.run o s).trace := by
  induction p generalizing Q s o with
  | pure a => exact h
  | panic => exact h
  | call r k ih =>
    refine ih _ (h o (ho.imp_right fun h => h 0)) (o.shift 1) (ho.imp_right fun h i => ?_)
    exact h (1 + i)

/-- **Sequencing.** `p.bind f` ends in `Q` iff `p` ends where `f` ends in `Q` (or panics in
    `Q`). -/
theorem Wp.bind {p : Prog α} {f : α → Prog β} {Q : Option β → Store → List Req → Prop} :
    Wp m (p.bind f) Q s ↔
      Wp m p (fun a s' tr => a.elim (Q none s' tr)
        fun a => Wp m (f a) (fun b s'' tr' => Q b s'' (tr ++ tr')) s') s := by
  induction p generalizing Q s with
  | pure a => simp only [pure_bind, pure_iff, Option.elim_some, List.nil_append]
  | panic => simp only [panic_bind, panic_iff, Option.elim_none]
  | call r k ih => simp only [call_bind, Wp, ih, List.cons_append]

/-- The sequencing rule in the direction it is used: a specification of `p`, and one of `f` from
    every state `p` can end in. -/
theorem Wp.bind_of {p : Prog α} {f : α → Prog β} {Q : Option β → Store → List Req → Prop}
    {P : Option α → Store → List Req → Prop} (hp : Wp m p P s)
    (hf : ∀ a s' tr, P (some a) s' tr → Wp m (f a) (fun b s'' tr' => Q b s'' (tr ++ tr')) s')
    (hn : ∀ s' tr, P none s' tr → Q none s' tr) : Wp m (p.bind f) Q s :=
  Wp.bind.mpr (hp.mono fun a s' tr h => by cases a <;> simp_all)

/-- Every run ends somewhere: the trivial specification. -/
theorem Wp.trivial (p : Prog α) : Wp m p (fun _ _ _ => True) s := by
  induction p generalizing s with
  | pure a => exact True.intro
  | panic => exact True.intro
  | call r k ih => exact fun _ _ => ih _

theorem Wp.and {p : Prog α} (h : Wp m p Q s) (h' : Wp m p Q' s) :
    Wp m p (fun a s tr => Q a s tr ∧ Q' a s tr) s := by
  induction p generalizing Q Q' s with
  | pure a => exact ⟨h, h'⟩
  | panic => exact ⟨h, h'⟩
  | call r k ih => exact fun o ho => ih _ (h o ho) (h' o ho)

/-! ## One request -/

/-- Over oracles, a guarded reply is a failure with any error (when `m`) or the honest reply. -/
theorem Oracle.forall_guard {P : Except ApiError β × Store → Prop} (h : Except ApiError β × Store) :
    (∀ o : Oracle, (m = true ∨ o.fault 0 = none) → P (o.guard s h)) ↔
      (m = true → ∀ e, P (.error e, s)) ∧ P h := by
  refine ⟨fun H => ⟨fun hm e => ?_, ?_⟩, fun ⟨hf, hh⟩ o ho => ?_⟩
  · simpa [Oracle.guard] using H ⟨fun _ => some e, fun _ => 0, fun _ => ""⟩ (.inl hm)
  · simpa [Oracle.guard] using H (Oracle.exact (fun _ => 0) fun _ => "") (.inr rfl)
  · unfold Oracle.guard
    rcases hf' : o.fault 0 with _ | e
    · exact hh
    · exact hf (ho.resolve_right (by simp [hf'])) e

@[simp] theorem Wp.get {k : Kind} {n : String} {f : Except ApiError k.Obj → Prog α} :
    Wp m (.call (.get k n) f) Q s ↔
      (m = true → ∀ e, Wp m (f (.error e)) (fun a s' tr => Q a s' (.get k n :: tr)) s) ∧
        Wp m (f (s.get k n)) (fun a s' tr => Q a s' (.get k n :: tr)) s :=
  Oracle.forall_guard
    (P := fun y => Wp m (f y.1) (fun a s' tr => Q a s' (.get k n :: tr)) y.2) _

/-- A `Get` changes nothing: its continuation holding on every error and on the stored object
    is enough, whether or not the request may fail. -/
theorem Wp.get_of {k : Kind} {n : String} {f : Except ApiError k.Obj → Prog α}
    (he : ∀ e, Wp m (f (.error e)) (fun a s' tr => Q a s' (.get k n :: tr)) s)
    (hx : ∀ x, s.lookup k n = some x →
      Wp m (f (.ok (k.withName n x))) (fun a s' tr => Q a s' (.get k n :: tr)) s) :
    Wp m (.call (.get k n) f) Q s := by
  refine Wp.get.mpr ⟨fun _ => he, ?_⟩
  unfold Store.get
  split
  next x h => exact hx x h
  next => exact he _

@[simp] theorem Wp.create {k : Kind} {x : k.Obj} {f : Except ApiError Unit → Prog α} :
    Wp m (.call (.create k x) f) Q s ↔
      (m = true → ∀ e, Wp m (f (.error e)) (fun a s' tr => Q a s' (.create k x :: tr)) s) ∧
        Wp m (f (s.create k x).1) (fun a s' tr => Q a s' (.create k x :: tr)) (s.create k x).2 :=
  Oracle.forall_guard
    (P := fun y => Wp m (f y.1) (fun a s' tr => Q a s' (.create k x :: tr)) y.2) _

@[simp] theorem Wp.update {k : Kind} {x : k.Obj} {f : Except ApiError Unit → Prog α} :
    Wp m (.call (.update k x) f) Q s ↔
      (m = true → ∀ e, Wp m (f (.error e)) (fun a s' tr => Q a s' (.update k x :: tr)) s) ∧
        Wp m (f (s.update k x).1) (fun a s' tr => Q a s' (.update k x :: tr)) (s.update k x).2 :=
  Oracle.forall_guard
    (P := fun y => Wp m (f y.1) (fun a s' tr => Q a s' (.update k x :: tr)) y.2) _

@[simp] theorem Wp.delete {k : Kind} {n : String} {f : Except ApiError Unit → Prog α} :
    Wp m (.call (.delete k n) f) Q s ↔
      (m = true → ∀ e, Wp m (f (.error e)) (fun a s' tr => Q a s' (.delete k n :: tr)) s) ∧
        Wp m (f (s.delete k n).1) (fun a s' tr => Q a s' (.delete k n :: tr)) (s.delete k n).2 :=
  Oracle.forall_guard
    (P := fun y => Wp m (f y.1) (fun a s' tr => Q a s' (.delete k n :: tr)) y.2) _

@[simp] theorem Wp.updateStatus {ms : MusicService} {f : Except ApiError Unit → Prog α} :
    Wp m (.call (.updateStatus ms) f) Q s ↔
      (m = true → ∀ e, Wp m (f (.error e)) (fun a s' tr => Q a s' (.updateStatus ms :: tr)) s) ∧
        Wp m (f (s.updateStatus ms).1) (fun a s' tr => Q a s' (.updateStatus ms :: tr))
          (s.updateStatus ms).2 :=
  Oracle.forall_guard
    (P := fun y => Wp m (f y.1) (fun a s' tr => Q a s' (.updateStatus ms :: tr)) y.2) _

@[simp] theorem Wp.listClaims {f : Except ApiError (List PersistentVolumeClaim) → Prog α} :
    Wp m (.call .listClaims f) Q s ↔
      (m = true → ∀ e, Wp m (f (.error e)) (fun a s' tr => Q a s' (.listClaims :: tr)) s) ∧
        Wp m (f (.ok s.claims)) (fun a s' tr => Q a s' (.listClaims :: tr)) s :=
  Oracle.forall_guard
    (P := fun y => Wp m (f y.1) (fun a s' tr => Q a s' (.listClaims :: tr)) y.2) _

@[simp] theorem Wp.updateClaim {c : PersistentVolumeClaim} {f : Except ApiError Unit → Prog α} :
    Wp m (.call (.updateClaim c) f) Q s ↔
      (m = true → ∀ e, Wp m (f (.error e)) (fun a s' tr => Q a s' (.updateClaim c :: tr)) s) ∧
        Wp m (f (s.updateClaim c).1) (fun a s' tr => Q a s' (.updateClaim c :: tr))
          (s.updateClaim c).2 :=
  Oracle.forall_guard
    (P := fun y => Wp m (f y.1) (fun a s' tr => Q a s' (.updateClaim c :: tr)) y.2) _

@[simp] theorem Wp.deleteClaim {n : String} {f : Except ApiError Unit → Prog α} :
    Wp m (.call (.deleteClaim n) f) Q s ↔
      (m = true → ∀ e, Wp m (f (.error e)) (fun a s' tr => Q a s' (.deleteClaim n :: tr)) s) ∧
        Wp m (f (s.deleteClaim n).1) (fun a s' tr => Q a s' (.deleteClaim n :: tr))
          (s.deleteClaim n).2 :=
  Oracle.forall_guard
    (P := fun y => Wp m (f y.1) (fun a s' tr => Q a s' (.deleteClaim n :: tr)) y.2) _

@[simp] theorem Wp.now {f : Time → Prog α} :
    Wp m (.call .now f) Q s ↔ ∀ t, Wp m (f t) (fun a s' tr => Q a s' (.now :: tr)) s :=
  ⟨fun h t => h ⟨fun _ => none, fun _ => t, fun _ => ""⟩ (.inr rfl), fun h _ _ => h _⟩

@[simp] theorem Wp.generatePassword {l : Nat} {f : Except ApiError String → Prog α} :
    Wp m (.call (.generatePassword l) f) Q s ↔
      (m = true → ∀ e, Wp m (f (.error e)) (fun a s' tr => Q a s' (.generatePassword l :: tr)) s) ∧
        ∀ pw, Wp m (f (.ok pw)) (fun a s' tr => Q a s' (.generatePassword l :: tr)) s := by
  refine ⟨fun h => ⟨fun hm e => ?_, fun pw => ?_⟩, fun ⟨hf, hh⟩ o ho => ?_⟩
  · simpa [Store.answer, Oracle.guard] using h ⟨fun _ => some e, fun _ => 0, fun _ => ""⟩ (.inl hm)
  · simpa [Store.answer, Oracle.guard] using h (Oracle.exact (fun _ => 0) fun _ => pw) (.inr rfl)
  · simp only [Store.answer, Oracle.guard]
    rcases hf' : o.fault 0 with _ | e
    · exact hh _
    · exact hf (ho.resolve_right (by simp [hf'])) e

/-! ## Footprints as preconditions -/

/-- A program whose requests all satisfy `P` sends only such requests, in every run. -/
theorem All.wp {P : Req → Prop} {p : Prog α} (h : All P p) :
    Wp m p (fun _ _ tr => ∀ r ∈ tr, P r) s := by
  induction h generalizing s with
  | pure a => simp
  | panic => simp
  | @call r k hr _ ih =>
    intro o _
    refine (ih _ (s.answer_possible o r)).mono fun _ _ tr h r' hr' => ?_
    rcases List.mem_cons.mp hr' with rfl | hr'
    · exact hr
    · exact h r' hr'

/-- A program that returns only values satisfying `Q` does so in every run. -/
theorem AllRet.wp {P : Req → Prop} {Q : α → Prop} {p : Prog α} (h : AllRet P Q p) :
    Wp m p (fun r _ _ => ∀ a, r = some a → Q a) s := by
  induction h generalizing s with
  | pure h => simpa using h
  | panic => simp
  | @call r k _ _ ih => exact fun o _ => ih _ (s.answer_possible o r)

/-- A store invariant that every request of `p` keeps holds where every run of `p` ends. -/
theorem All.wp_inv {P : Req → Prop} {I : Store → Prop} {p : Prog α} (h : All P p)
    (hI : ∀ r s o, P r → I s → I (s.answer o r).2) (hs : I s) : Wp m p (fun _ s' _ => I s') s := by
  induction h generalizing s with
  | pure a => exact hs
  | panic => exact hs
  | @call r k hr _ ih => exact fun o _ => ih _ (s.answer_possible o r) (hI r s o hr hs)

/-- A program that writes only inside `R` ends, in every run, in a store that agrees with the
    start outside `R`. -/
theorem All.wp_agree {R : Region} {p : Prog α} (h : All (Req.WritesIn R) p) :
    Wp m p (fun _ s' _ => Store.Agree R s s') s := by
  induction h generalizing s with
  | pure a => exact Store.Agree.refl R s
  | panic => exact Store.Agree.refl R s
  | @call r k hr _ ih =>
    intro o _
    exact (ih _ (s.answer_possible o r)).mono fun _ _ _ h => (s.answer_agree o hr).trans h

/-! ## Relations a program keeps between its first and last store -/

/-- Every run of `p` ends in a store that `R` relates to the one it started from. -/
def Keeps (m : Bool) (R : Store → Store → Prop) (p : Prog α) : Prop :=
  ∀ s, Wp m p (fun _ s' _ => R s s') s

/-- A program that writes only inside a region keeps every relation that holds between stores
    agreeing outside it. -/
theorem All.keeps {Rg : Region} {R : Store → Store → Prop} {p : Prog α}
    (h : All (Req.WritesIn Rg) p) (hR : ∀ s s', Store.Agree Rg s s' → R s s') : Keeps m R p :=
  fun _ => (All.wp_agree h).mono fun _ _ _ h => hR _ _ h

section Keeps

variable {R : Store → Store → Prop} (refl : ∀ s, R s s)
  (trans : ∀ {s₁ s₂ s₃}, R s₁ s₂ → R s₂ s₃ → R s₁ s₃)
include refl

theorem Keeps.pure (a : α) : Keeps m R (.pure a) := fun s => refl s

theorem Keeps.panic : Keeps m R (.panic : Prog α) := fun s => refl s

include trans

/-- A program whose requests each keep `R` keeps it. -/
theorem All.keeps_of {P : Req → Prop} {p : Prog α} (h : All P p)
    (hP : ∀ r s o, P r → R s (s.answer o r).2) : Keeps m R p :=
  fun s => h.wp_inv (I := R s) (fun r _ o hr h => trans h (hP r _ o hr)) (refl s)

omit refl in
theorem Keeps.bind {p : Prog α} {f : α → Prog β} (hp : Keeps m R p) (hf : ∀ a, Keeps m R (f a)) :
    Keeps m R (p.bind f) :=
  fun s => Wp.bind_of (hp s) (fun a _ _ h => (hf a _).mono fun _ _ _ h' => trans h h')
    fun _ _ h => h

omit refl in
/-- One request that keeps `R`, then a program that keeps it whatever the request answered. -/
theorem Keeps.send_bind {r : Req} {f : r.Resp → Prog α} (hr : ∀ s o, R s (s.answer o r).2)
    (hf : ∀ x, r.Possible x → Keeps m R (f x)) : Keeps m R ((send r).bind f) :=
  fun s o _ => (hf _ (s.answer_possible o r) _).mono fun _ _ _ h => trans (hr s o) h

end Keeps

end Prog

end MusicOperator
