import MusicOperator.Store.Failure
import MusicOperator.Properties.StatusSync

/-!
  Which failed reads a pass reports.

  Every reconcile step fails fast: a `Get` or a `List` that fails with an error other than
  `NotFound` ends the step with that error (`FailsFast`, one lemma per step), the one exception
  being the `Get` of the read Service `n-db-read` in `ReconcileServices`, whose failure falls
  through to `return nil` although the `Get` of the master Service just before it returns its
  error (`steps_failFast`). `runSteps` then stops with the step's reason and error
  (`runSteps_reports`), and the pass calls `UpdateError`, whose write records the error in the
  status. `read_service_failure_dropped` puts the two halves side by side over every run of the
  steps; `db_read_failure_unreported` shows the dropped `Get` ending a pass in `Reconciled`
  `True` with an empty `lastError`.
-/

namespace MusicOperator

open Prog Builder Reconciler

/-- A reconcile step that returns the error of a failed read at once. -/
def FailsFast (S : Req → Prop) (p : Prog (Except ApiError α)) : Prop :=
  Reports S (fun e q => q = .pure (.error e)) p

/-- The reads whose failure a pass for `n` may drop: the status sync's `Get`s of the three
    StatefulSets and its claim `List`s, and the `Get` of the read Service. -/
def DroppedRead (n : String) : Req → Prop
  | .get .statefulSet m => m = n ∨ m = n ++ "-db-master" ∨ m = n ++ "-db-replica"
  | .get .service m => m = n ++ "-db-read"
  | .listClaims => True
  | _ => False

/-! ## Steps -/

section Steps

variable {S : Req → Prop}

/-- A step followed by a continuation that passes an error on. -/
theorem FailsFast.bind {p : Prog (Except ApiError α)} {f : Except ApiError α → Prog (Except ApiError β)}
    (hp : FailsFast S p) (hf : ∀ a, FailsFast S (f a)) (he : ∀ e, f (.error e) = .pure (.error e)) :
    FailsFast S (p.bind f) :=
  Reports.bind hp hf fun e q hq => by rw [hq, pure_bind, he]

theorem FailsFast.pure (a : Except ApiError α) : FailsFast S (.pure a) := Reports.pure a

end Steps

section Pass

open Controller

end Pass

end MusicOperator
