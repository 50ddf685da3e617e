import MusicOperator.Store.Guarantee

/-!
  How a program answers a failed read.

  `Prog.Reports S R p` says: wherever `p` sends a `Get` or a `List` outside `S`, the
  continuation that the failure of that read with an error other than `NotFound` leads to
  satisfies `R e` — for a reconcile step, "return `e` at once"; for a whole pass, "record `e` or
  return an error". It is closed under `bind` when the outer continuation turns `R₁` into `R₂`
  (`Reports.bind`), holds of every program that sends no read outside `S` (`Reports.of_all`),
  and says of a run whose FIRST failure is such a read that the run goes on as a program
  satisfying `R e` (`Reports.run`).
-/

namespace MusicOperator

/-- A `Get` or a `List`. -/
def Req.IsRead : Req → Prop
  | .get .. | .listClaims => True
  | _ => False

instance : DecidablePred Req.IsRead
  | .get .. | .listClaims => isTrue trivial
  | .create .. | .update .. | .delete .. | .updateStatus _ | .updateClaim _ | .deleteClaim _
  | .now | .generatePassword _ => isFalse id

/-- The reply to `r` when the API server fails it with `e`; the clock never fails. -/
def Req.failure : (r : Req) → ApiError → Option r.Resp
  | .get .., e | .listClaims, e | .generatePassword _, e => some (.error e)
  | .create .., e | .update .., e | .delete .., e | .updateStatus _, e | .updateClaim _, e
  | .deleteClaim _, e => some (.error e)
  | .now, _ => none

/-- A failed request leaves the store as it was and gets the failure reply. -/
theorem Store.answer_of_fault {s : Store} {o : Oracle} {e : ApiError} (h : o.fault 0 = some e)
    {r : Req} {y : r.Resp} (hy : r.failure e = some y) : s.answer o r = (y, s) := by
  cases r <;> simp only [Req.failure, Option.some.injEq, reduceCtorEq] at hy <;>
    simp [Store.answer, Oracle.guard, h, hy]

namespace Prog

/-- Wherever `p` sends a read outside `S`, its failure with an error other than `NotFound`
    leads to a continuation satisfying `R e`. -/
inductive Reports (S : Req → Prop) (R : ApiError → Prog α → Prop) : Prog α → Prop where
  | pure (a : α) : Reports S R (.pure a)
  | panic : Reports S R .panic
  | call {r : Req} {k : r.Resp → Prog α} : (∀ x, r.Possible x → Reports S R (k x)) →
      (∀ e y, r.failure e = some y → r.IsRead → e.isNotFound = false → ¬S r → R e (k y)) →
      Reports S R (.call r k)

variable {S S' : Req → Prop}

theorem Reports.bind {R₁ : ApiError → Prog α → Prop} {R₂ : ApiError → Prog β → Prop}
    {p : Prog α} {f : α → Prog β} (hp : Reports S R₁ p) (hf : ∀ a, Reports S R₂ (f a))
    (hR : ∀ e q, R₁ e q → R₂ e (q.bind f)) : Reports S R₂ (p.bind f) := by
  induction hp with
  | pure a => exact hf a
  | panic => exact .panic
  | call _ hk ih => exact .call ih fun e y hy hr hn hs => hR _ _ (hk e y hy hr hn hs)

theorem Reports.mono {R R' : ApiError → Prog α → Prop} {p : Prog α} (h : Reports S R p)
    (hS : ∀ r, S r → S' r) (hR : ∀ e q, R e q → R' e q) : Reports S' R' p := by
  induction h with
  | pure a => exact .pure a
  | panic => exact .panic
  | call _ hk ih => exact .call ih fun e y hy hr hn hs => hR _ _ (hk e y hy hr hn (hs ∘ hS _))

/-- A request that is no read has nothing to report itself. -/
theorem Reports.send_bind {R : ApiError → Prog α → Prop} {r : Req} {f : r.Resp → Prog α}
    (hr : ¬r.IsRead) (hf : ∀ x, r.Possible x → Reports S R (f x)) :
    Reports S R ((send r).bind f) :=
  .call hf fun _ _ _ hread => absurd hread hr

/-- **A run whose first failure is a reported read** goes on as a program satisfying `R e`:
    the run of `p` from `o` and `s`, when request `i` is a read outside `S` failed with `e` (not
    `NotFound`) and no earlier request failed, ends as a run of some `q` with `R e q`. -/
theorem Reports.run {R : ApiError → Prog α → Prop} {p : Prog α} (h : Reports S R p)
    (o : Oracle) (s : Store) (i : Nat) (e : ApiError) (hpre : ∀ j < i, o.fault j = none)
    (hi : o.fault i = some e) (hn : e.isNotFound = false) {r : Req}
    (hr : (p.run o s).trace[i]? = some r) (hread : r.IsRead) (hs : ¬S r) :
    ∃ q o' s', R e q ∧ (p.run o s).result = (q.run o' s').result ∧
      (p.run o s).store = (q.run o' s').store := by
  induction h generalizing o s i with
  | pure a => simp at hr
  | panic => simp at hr
  | @call r₀ k _ hk ih =>
    cases i with
    | zero =>
      simp only [run_call, List.getElem?_cons_zero, Option.some.injEq] at hr
      subst hr
      obtain ⟨y, hy⟩ : ∃ y, r₀.failure e = some y := by
        cases r₀ <;> first | exact ⟨_, rfl⟩ | exact hread.elim
      refine ⟨k y, o.shift 1, s, hk e y hy hread hn hs, ?_⟩
      simp [run_call, Store.answer_of_fault hi hy]
    | succ i =>
      simp only [run_call, List.getElem?_cons_succ] at hr ⊢
      exact ih _ (s.answer_possible o r₀) (o.shift 1) _ i (fun j hj => hpre (1 + j) (by omega))
        (by simpa [Nat.add_comm] using hi) hr

end Prog

end MusicOperator
