import MusicOperator.Store.Program

/-!
  What a program can do, over every reply the API server can give.

  * `Req.Possible r x` — `x` is a reply the API server can give to `r`: a fetched object carries
    the name it was asked for (`Store.answer_possible`).
  * `Prog.All P p` — every request `p` can send, along every branch of possible replies,
    satisfies `P`. It is closed under `bind` (`All.bind`), and every request of every run
    satisfies `P` (`All.trace`). This is the program-level footprint: a fact about the code,
    independent of the store and of the failure pattern.
  * `Region` and `Store.Agree R s s'` — a write region (keys, and a predicate on claim names)
    and "`s'` equals `s` outside `R`". `All.agree` is the frame theorem: a run of a program
    that writes only inside `R` leaves the store unchanged outside `R`.
-/

namespace MusicOperator

/-! ## Possible replies -/

/-- The replies the API server can give to a request. -/
def Req.Possible : (r : Req) → r.Resp → Prop
  | .get k n, x =>
    match (x : Except ApiError k.Obj) with
    | .ok y => k.nameOf y = n
    | .error _ => True
  | _, _ => True

theorem Store.answer_possible (s : Store) (o : Oracle) (r : Req) :
    r.Possible (s.answer o r).1 := by
  cases r with
  | get k n =>
    simp only [Store.answer, Oracle.guard, Store.get]
    rcases o.fault 0 with _ | e <;> rcases h : s.lookup k n with _ | x <;> simp [Req.Possible]
  | _ => trivial

/-! ## Properties of every request -/

namespace Prog

/-- Every request `p` can send, along every branch of possible replies, satisfies `P`. -/
inductive All (P : Req → Prop) : Prog α → Prop where
  | pure (a : α) : All P (.pure a)
  | panic : All P .panic
  | call {r : Req} {k : r.Resp → Prog α} : P r → (∀ x, r.Possible x → All P (k x)) →
      All P (.call r k)

variable {P Q : Req → Prop}

theorem All.bind {p : Prog α} {f : α → Prog β} (hp : All P p) (hf : ∀ a, All P (f a)) :
    All P (p.bind f) := by
  induction hp with
  | pure a => exact hf a
  | panic => exact .panic
  | call hr _ ih => exact .call hr ih

theorem All.mono {p : Prog α} (h : All P p) (hPQ : ∀ r, P r → Q r) : All Q p := by
  induction h with
  | pure a => exact .pure a
  | panic => exact .panic
  | call hr _ ih => exact .call (hPQ _ hr) ih

theorem All.send_bind {r : Req} {f : r.Resp → Prog β} (hr : P r)
    (hf : ∀ x, r.Possible x → All P (f x)) : All P ((send r).bind f) :=
  .call hr hf

/-- Every request of every run satisfies `P`. -/
theorem All.trace {p : Prog α} (h : All P p) (o : Oracle) (s : Store) :
    ∀ r ∈ (p.run o s).trace, P r := by
  induction h generalizing o s with
  | pure a => simp
  | panic => simp
  | @call r k hr _ ih =>
    intro r' hr'
    simp only [run_call, List.mem_cons] at hr'
    rcases hr' with rfl | hr'
    · exact hr
    · exact ih _ (s.answer_possible o r) _ _ _ hr'

/-- Every request `p` can send satisfies `P` and every value it can return satisfies `Q`, along
    every branch of possible replies: a footprint that also says what comes back. -/
inductive AllRet (P : Req → Prop) (Q : α → Prop) : Prog α → Prop where
  | pure {a : α} : Q a → AllRet P Q (.pure a)
  | panic : AllRet P Q .panic
  | call {r : Req} {k : r.Resp → Prog α} : P r → (∀ x, r.Possible x → AllRet P Q (k x)) →
      AllRet P Q (.call r k)

theorem AllRet.bind {Q : α → Prop} {R : β → Prop} {p : Prog α} {f : α → Prog β}
    (hp : AllRet P Q p) (hf : ∀ a, Q a → AllRet P R (f a)) : AllRet P R (p.bind f) := by
  induction hp with
  | pure h => exact hf _ h
  | panic => exact .panic
  | call hr _ ih => exact .call hr ih

theorem AllRet.send_bind {Q : β → Prop} {r : Req} {f : r.Resp → Prog β} (hr : P r)
    (hf : ∀ x, r.Possible x → AllRet P Q (f x)) : AllRet P Q ((send r).bind f) :=
  .call hr hf

theorem AllRet.imp {P' : Req → Prop} {Q Q' : α → Prop} {p : Prog α} (h : AllRet P Q p)
    (hP : ∀ r, P r → P' r) (hQ : ∀ a, Q a → Q' a) : AllRet P' Q' p := by
  induction h with
  | pure h => exact .pure (hQ _ h)
  | panic => exact .panic
  | call hr _ ih => exact .call (hP _ hr) ih

theorem AllRet.all {Q : α → Prop} {p : Prog α} (h : AllRet P Q p) : All P p := by
  induction h with
  | pure _ => exact .pure _
  | panic => exact .panic
  | call hr _ ih => exact .call hr ih

/-- A footprint followed by a continuation that keeps it, from every value returned. -/
theorem AllRet.bind_all {Q : α → Prop} {p : Prog α} {f : α → Prog β} (hp : AllRet P Q p)
    (hf : ∀ a, Q a → All P (f a)) : All P (p.bind f) := by
  induction hp with
  | pure h => exact hf _ h
  | panic => exact .panic
  | call hr _ ih => exact .call hr ih

/-- Every value `p` can return when each `time.Now()` it makes reads a time in `C` satisfies
    `Q`, along every branch of possible replies: what a program returns, as a function of the
    clock readings it takes. -/
inductive AllRetAt (C : Time → Prop) (Q : α → Prop) : Prog α → Prop where
  | pure {a : α} : Q a → AllRetAt C Q (.pure a)
  | panic : AllRetAt C Q .panic
  | now {k : Req.Resp .now → Prog α} : (∀ t, C t → AllRetAt C Q (k t)) →
      AllRetAt C Q (.call .now k)
  | call {r : Req} {k : r.Resp → Prog α} : (∀ x, r.Possible x → AllRetAt C Q (k x)) →
      AllRetAt C Q (.call r k)

namespace AllRetAt

variable {C : Time → Prop} {Q : α → Prop}

theorem bind {R : β → Prop} {p : Prog α} {f : α → Prog β} (hp : AllRetAt C Q p)
    (hf : ∀ a, Q a → AllRetAt C R (f a)) : AllRetAt C R (p.bind f) := by
  induction hp with
  | pure h => exact hf _ h
  | panic => exact .panic
  | now _ ih => exact .now ih
  | call _ ih => exact .call ih

theorem now_bind {f : Time → Prog β} {R : β → Prop} (hf : ∀ t, C t → AllRetAt C R (f t)) :
    AllRetAt C R ((send .now).bind f) :=
  .now hf

theorem send_bind {R : β → Prop} {r : Req} {f : r.Resp → Prog β}
    (hf : ∀ x, r.Possible x → AllRetAt C R (f x)) : AllRetAt C R ((send r).bind f) :=
  .call hf

theorem imp {Q' : α → Prop} {p : Prog α} (h : AllRetAt C Q p) (hQ : ∀ a, Q a → Q' a) :
    AllRetAt C Q' p := by
  induction h with
  | pure h => exact .pure (hQ _ h)
  | panic => exact .panic
  | now _ ih => exact .now ih
  | call _ ih => exact .call ih

/-- A guarantee for every clock reading holds for the readings in `C`. -/
theorem of_allRet {P : Req → Prop} {p : Prog α} (h : AllRet P Q p) : AllRetAt C Q p := by
  induction h with
  | pure h => exact .pure h
  | panic => exact .panic
  | call _ _ ih => exact .call ih

/-- The clock readings of the requests after the first are those the shifted oracle shows. -/
theorem clock_shift {o : Oracle} {n : Nat} (h : ∀ i < n + 1, C (o.clock i)) :
    ∀ i < n, C ((o.shift 1).clock i) :=
  fun i hi => congrArg o.clock (Nat.add_comm 1 i) ▸ h (i + 1) (Nat.succ_lt_succ hi)

/-- A run returns a value satisfying `Q` when the clock shows a time in `C` at each of its
    requests. -/
theorem of_run {p : Prog α} (h : AllRetAt C Q p) (o : Oracle) (s : Store)
    (hc : ∀ i < (p.run o s).trace.length, C (o.clock i)) {a : α}
    (ha : (p.run o s).result = some a) : Q a := by
  induction h generalizing o s with
  | pure h => cases ha; exact h
  | panic => cases ha
  | now _ ih =>
    simp only [run_call, List.length_cons] at ha hc
    exact ih _ (hc 0 (Nat.zero_lt_succ _)) (o.shift 1) _ (clock_shift hc) ha
  | @call r _ _ ih =>
    simp only [run_call, List.length_cons] at ha hc
    exact ih _ (s.answer_possible o r) (o.shift 1) _ (clock_shift hc) ha

end AllRetAt

end Prog

/-! ## Write regions and the frame theorem -/

/-- A write region: a set of keys and a set of claim names. -/
structure Region where
  keys : Key → Prop
  claims : String → Bool

/-- `r` writes only inside `R` (reads and calls to the environment write nothing). -/
def Req.WritesIn (R : Region) : Req → Prop
  | .create k x | .update k x => R.keys ⟨k, k.nameOf x⟩
  | .delete k n => R.keys ⟨k, n⟩
  | .updateStatus ms => R.keys ⟨.musicService, ms.name⟩
  | .updateClaim c => R.claims c.name
  | .deleteClaim n => R.claims n
  | .get .. | .listClaims | .now | .generatePassword _ => True

/-- The claims outside `R`, in store order. -/
def Region.outside (R : Region) (l : List PersistentVolumeClaim) : List PersistentVolumeClaim :=
  l.filter fun c => !R.claims c.name

/-- `s'` equals `s` outside `R`: every key outside `R` holds the same object, and the claims
    outside `R` are the same list. -/
def Store.Agree (R : Region) (s s' : Store) : Prop :=
  (∀ k n, ¬R.keys ⟨k, n⟩ → s'.lookup k n = s.lookup k n) ∧ R.outside s'.claims = R.outside s.claims

namespace Store.Agree

variable {R : Region} {s s' s'' : Store}

theorem refl (R : Region) (s : Store) : Agree R s s := ⟨fun _ _ _ => rfl, rfl⟩

theorem trans (h₁ : Agree R s s') (h₂ : Agree R s' s'') : Agree R s s'' :=
  ⟨fun k n h => (h₂.1 k n h).trans (h₁.1 k n h), h₂.2.trans h₁.2⟩

theorem put {k : Kind} {n : String} (h : R.keys ⟨k, n⟩) (x : Option k.Obj) :
    Agree R s (s.put k n x) := by
  refine ⟨fun k' n' hk => ?_, by simp⟩
  by_cases hkk : k' = k
  · subst hkk
    have : n' ≠ n := fun e => hk (e ▸ h)
    simp [this]
  · exact Store.lookup_put_ne s hkk n n' x

theorem get (h : Agree R s s') {k : Kind} {n : String} (hk : ¬R.keys ⟨k, n⟩) :
    s'.get k n = s.get k n := by
  simp only [Store.get, h.1 k n hk]

end Store.Agree

theorem Region.outside_deleteName (R : Region) {n : String} (hn : R.claims n = true)
    (l : List PersistentVolumeClaim) : R.outside (l.filter (·.name ≠ n)) = R.outside l := by
  simp only [Region.outside, List.filter_filter]
  congr 1
  funext c
  by_cases h : c.name = n <;> simp_all

theorem Region.outside_replaceName (R : Region) {c : PersistentVolumeClaim}
    (hc : R.claims c.name = true) (l : List PersistentVolumeClaim) :
    R.outside (l.map fun x => if x.name = c.name then c else x) = R.outside l := by
  induction l with
  | nil => rfl
  | cons x xs ih =>
    by_cases h : x.name = c.name
    · simp_all [Region.outside, List.filter_cons]
    · simp_all [Region.outside, List.filter_cons]

/-- One request that writes only inside `R` changes nothing outside `R`. -/
theorem Store.answer_agree (s : Store) (o : Oracle) {r : Req} {R : Region} (h : r.WritesIn R) :
    Agree R s (s.answer o r).2 := by
  cases r <;> simp only [Store.answer, Oracle.guard] <;> (try split) <;>
    try exact Agree.refl R s
  all_goals simp only [Req.WritesIn] at h
  · simp only [Store.create]; split
    · exact Agree.refl R s
    · exact Agree.put h _
  · simp only [Store.update]; split
    · exact Agree.put h _
    · exact Agree.refl R s
  · simp only [Store.delete]; split
    · exact Agree.put h _
    · exact Agree.refl R s
  · simp only [Store.updateStatus]; split
    · exact Agree.put h _
    · exact Agree.refl R s
  · simp only [Store.updateClaim]; split
    · exact ⟨fun _ _ _ => rfl, R.outside_replaceName h _⟩
    · exact Agree.refl R s
  · simp only [Store.deleteClaim]; split
    · exact ⟨fun _ _ _ => rfl, R.outside_deleteName h _⟩
    · exact Agree.refl R s

/-- **Frame, over one run.** A run whose requests all write inside `R` leaves the store
    unchanged outside `R`. -/
theorem Prog.run_agree {R : Region} (p : Prog α) (o : Oracle) (s : Store)
    (h : ∀ r ∈ (p.run o s).trace, r.WritesIn R) : Store.Agree R s (p.run o s).store := by
  induction p generalizing o s with
  | pure a => exact Store.Agree.refl R s
  | panic => exact Store.Agree.refl R s
  | call r k ih =>
    simp only [run_call, List.mem_cons, forall_eq_or_imp] at h ⊢
    exact (s.answer_agree o h.1).trans (ih _ _ _ h.2)

/-- **Frame.** A run of a program that writes only inside `R` leaves the store unchanged
    outside `R`, whatever fails. -/
theorem Prog.All.agree {R : Region} {p : Prog α} (h : All (Req.WritesIn R) p) (o : Oracle)
    (s : Store) : Store.Agree R s (p.run o s).store :=
  p.run_agree o s (h.trace o s)

end MusicOperator
