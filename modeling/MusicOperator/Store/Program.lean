import MusicOperator.Api.V1

/-!
  The API server as the operator sees it, and reconcile code as programs of requests to it.

  1. **Store** — one namespace: a finite map per object kind (`MusicService`, `StatefulSet`,
     `Service`, `HorizontalPodAutoscaler`, `Secret`), keyed by name, and the claims as an
     ordered list (a `List` of claims returns them in that order).
  2. **Requests** — `Get`/`Create`/`Update`/`Delete` by kind and name, `Status().Update`, the
     claim `List`/`Update`/`Delete`, plus the two non-store calls the code makes: `time.Now()`
     and `generatePassword` (`crypto/rand`). `Req.Resp r` is the Go result of `r`.
  3. **Programs** — `Prog α` is the freer monad over `Req`: a reconcile function is a tree whose
     nodes are requests and whose branches are every possible reply. `Prog.panic` is a Go
     panic (a `nil` dereference or a failed `MustParse`).
  4. **Runs** — an `Oracle` decides, request by request, whether the API server fails the
     request (and with which error), and what the clock and the random source return.
     `Prog.run` answers every other request honestly. Quantifying over oracles quantifies over
     every pattern of failures; `Oracle.exact` is the store that never fails.

  Requests are numbered from `0` within one run; `Prog.run_bind` is the one lemma that
  re-indexes the oracle when a run is split at a `bind`.
-/

namespace MusicOperator

/-! ## Keys and errors -/

/-- The object kinds the operator reads and writes by key. -/
inductive Kind where
  | musicService | statefulSet | service | autoscaler | secret
deriving DecidableEq, Repr

/-- The Go type of an object of kind `k`. -/
def Kind.Obj : Kind → Type
  | .musicService => MusicService
  | .statefulSet => StatefulSet
  | .service => Service
  | .autoscaler => HorizontalPodAutoscaler
  | .secret => Secret

/-- The name an object is stored under. -/
def Kind.nameOf : (k : Kind) → k.Obj → String
  | .musicService, o => MusicService.name o
  | .statefulSet, o => (StatefulSet.metadata o).name
  | .service, o => (Service.metadata o).name
  | .autoscaler, o => (HorizontalPodAutoscaler.metadata o).name
  | .secret, o => (Secret.metadata o).name

/-- The object named `n`: the API server returns an object under the name it is stored by. -/
def Kind.withName : (k : Kind) → String → k.Obj → k.Obj
  | .musicService, n, o => { (o : MusicService) with name := n }
  | .statefulSet, n, o => { (o : StatefulSet) with metadata.name := n }
  | .service, n, o => { (o : Service) with metadata.name := n }
  | .autoscaler, n, o => { (o : HorizontalPodAutoscaler) with metadata.name := n }
  | .secret, n, o => { (o : Secret) with metadata.name := n }

@[simp] theorem Kind.nameOf_musicService (x : MusicService) : Kind.musicService.nameOf x = x.name :=
  rfl

@[simp] theorem Kind.nameOf_statefulSet (x : StatefulSet) :
    Kind.statefulSet.nameOf x = x.metadata.name := rfl

@[simp] theorem Kind.nameOf_service (x : Service) : Kind.service.nameOf x = x.metadata.name := rfl

@[simp] theorem Kind.nameOf_autoscaler (x : HorizontalPodAutoscaler) :
    Kind.autoscaler.nameOf x = x.metadata.name := rfl

@[simp] theorem Kind.nameOf_secret (x : Secret) : Kind.secret.nameOf x = x.metadata.name := rfl

@[simp] theorem Kind.nameOf_withName (k : Kind) (n : String) (o : k.Obj) :
    k.nameOf (k.withName n o) = n := by
  cases k <;> rfl

/-- A stored object's key: its kind and name. -/
structure Key where
  kind : Kind
  name : String
deriving DecidableEq, Repr

/-- An API error. Only `errors.IsNotFound` is ever tested by the code. -/
inductive ApiError where
  | notFound (message : String)
  | alreadyExists (message : String)
  | conflict (message : String)
  | failure (message : String)
deriving DecidableEq, Repr

/-- Results compare by constructor and payload, so that runs can be evaluated. -/
instance instDecidableEqExcept {ε : Type u} {α : Type v} [DecidableEq ε] [DecidableEq α] :
    DecidableEq (Except ε α)
  | .error a, .error b => decidable_of_iff (a = b) (by simp)
  | .ok a, .ok b => decidable_of_iff (a = b) (by simp)
  | .error _, .ok _ => isFalse nofun
  | .ok _, .error _ => isFalse nofun

def ApiError.isNotFound : ApiError → Bool
  | .notFound _ => true
  | _ => false

/-- `err.Error()`. -/
def ApiError.message : ApiError → String
  | .notFound m | .alreadyExists m | .conflict m | .failure m => m

/-! ## The store -/

/-- The objects of one namespace. -/
structure Store where
  musicServices : String → Option MusicService
  statefulSets : String → Option StatefulSet
  services : String → Option Service
  autoscalers : String → Option HorizontalPodAutoscaler
  secrets : String → Option Secret
  claims : List PersistentVolumeClaim

namespace Store

/-- The empty namespace. -/
def empty : Store :=
  ⟨fun _ => none, fun _ => none, fun _ => none, fun _ => none, fun _ => none, []⟩

def lookup (s : Store) : (k : Kind) → String → Option k.Obj
  | .musicService, n => s.musicServices n
  | .statefulSet, n => s.statefulSets n
  | .service, n => s.services n
  | .autoscaler, n => s.autoscalers n
  | .secret, n => s.secrets n

/-- Store `x` (or nothing) under key `(k, n)`. -/
def put (s : Store) : (k : Kind) → String → Option k.Obj → Store
  | .musicService, n, x => { s with musicServices := Function.update s.musicServices n x }
  | .statefulSet, n, x => { s with statefulSets := Function.update s.statefulSets n x }
  | .service, n, x => { s with services := Function.update s.services n x }
  | .autoscaler, n, x => { s with autoscalers := Function.update s.autoscalers n x }
  | .secret, n, x => { s with secrets := Function.update s.secrets n x }

@[simp] theorem lookup_put (s : Store) (k : Kind) (n m : String) (x : Option k.Obj) :
    (s.put k n x).lookup k m = if m = n then x else s.lookup k m := by
  cases k <;> simp only [put, lookup, Function.update_apply]

@[simp] theorem lookup_put_ne (s : Store) {k k' : Kind} (h : k' ≠ k) (n m : String)
    (x : Option k.Obj) : (s.put k n x).lookup k' m = s.lookup k' m := by
  cases k <;> cases k' <;> first | exact absurd rfl h | rfl

@[simp] theorem claims_put (s : Store) (k : Kind) (n : String) (x : Option k.Obj) :
    (s.put k n x).claims = s.claims := by
  cases k <;> rfl

def notFound (k : Kind) (n : String) : ApiError := .notFound (reprStr k ++ " " ++ n ++ " not found")

/-- The object stored under `n` (named `n`), or `NotFound`. -/
def get (s : Store) (k : Kind) (n : String) : Except ApiError k.Obj :=
  match s.lookup k n with
  | some x => .ok (k.withName n x)
  | none => .error (notFound k n)

/-- What an `Update` keeps of the stored object: the status of kinds with a status
    subresource (an `Update` of the main resource ignores the status it carries), and a parent's
    deletion mark (an `Update` can neither set nor clear it). -/
def Kind.keepServerFields : (k : Kind) → (stored new : k.Obj) → k.Obj
  | .musicService, st, x => { (x : MusicService) with
      status := MusicService.status st, deletionTimestamp := MusicService.deletionTimestamp st }
  | .statefulSet, st, x => { (x : StatefulSet) with status := StatefulSet.status st }
  | .service, _, x => x
  | .autoscaler, _, x => x
  | .secret, _, x => x

/-- What an `Update` leaves stored: the API server deletes a parent with a deletion mark once
    its last finalizer is gone. -/
def Kind.finalize : (k : Kind) → k.Obj → Option k.Obj
  | .musicService, x =>
    if (x : MusicService).deletionTimestamp ≠ none ∧ (x : MusicService).finalizers = [] then none
    else some x
  | .statefulSet, x => some x
  | .service, x => some x
  | .autoscaler, x => some x
  | .secret, x => some x

/-- What an `Update` stores, when it stores something, is the object it was given. -/
theorem Kind.finalize_eq_some {k : Kind} {x x' : k.Obj} (h : Kind.finalize k x = some x') :
    x' = x := by
  cases k
  case musicService =>
    simp only [Kind.finalize] at h
    split_ifs at h
    exact (Option.some.inj h).symm
  all_goals exact (Option.some.inj h).symm

@[simp] theorem Kind.finalize_of_ne {k : Kind} (h : k ≠ .musicService) (x : k.Obj) :
    Kind.finalize k x = some x := by
  cases k <;> first | exact absurd rfl h | rfl

def create (s : Store) (k : Kind) (x : k.Obj) : Except ApiError Unit × Store :=
  match s.lookup k (k.nameOf x) with
  | some _ => (.error (.alreadyExists (k.nameOf x ++ " already exists")), s)
  | none => (.ok (), s.put k (k.nameOf x) (some x))

def update (s : Store) (k : Kind) (x : k.Obj) : Except ApiError Unit × Store :=
  match s.lookup k (k.nameOf x) with
  | some st => (.ok (), s.put k (k.nameOf x) (Kind.finalize k (Kind.keepServerFields k st x)))
  | none => (.error (notFound k (k.nameOf x)), s)

def delete (s : Store) (k : Kind) (n : String) : Except ApiError Unit × Store :=
  match s.lookup k n with
  | some _ => (.ok (), s.put k n none)
  | none => (.error (notFound k n), s)

/-- `Status().Update`: the stored object takes the status it carries, nothing else. -/
def updateStatus (s : Store) (ms : MusicService) : Except ApiError Unit × Store :=
  match s.musicServices ms.name with
  | some st => (.ok (), s.put .musicService ms.name (some { st with status := ms.status }))
  | none => (.error (notFound .musicService ms.name), s)

def updateClaim (s : Store) (c : PersistentVolumeClaim) : Except ApiError Unit × Store :=
  if s.claims.any (·.name = c.name) then
    (.ok (), { s with claims := s.claims.map fun x => if x.name = c.name then c else x })
  else (.error (.notFound (c.name ++ " not found")), s)

def deleteClaim (s : Store) (n : String) : Except ApiError Unit × Store :=
  if s.claims.any (·.name = n) then
    (.ok (), { s with claims := s.claims.filter (·.name ≠ n) })
  else (.error (.notFound (n ++ " not found")), s)

end Store

/-! ## Requests and programs -/

/-- A call the reconcile code makes. -/
inductive Req where
  | get (k : Kind) (name : String)
  | create (k : Kind) (obj : k.Obj)
  | update (k : Kind) (obj : k.Obj)
  | delete (k : Kind) (name : String)
  | updateStatus (ms : MusicService)
  | listClaims
  | updateClaim (claim : PersistentVolumeClaim)
  | deleteClaim (name : String)
  | now
  | generatePassword (length : Nat)

/-- The Go result of a call. -/
def Req.Resp : Req → Type
  | .get k _ => Except ApiError k.Obj
  | .listClaims => Except ApiError (List PersistentVolumeClaim)
  | .now => Time
  | .generatePassword _ => Except ApiError String
  | .create .. | .update .. | .delete .. | .updateStatus _ | .updateClaim _ | .deleteClaim _ =>
    Except ApiError Unit

/-- Whether a request writes to the store. -/
def Req.isWrite : Req → Bool
  | .create .. | .update .. | .delete .. | .updateStatus _ | .updateClaim _ | .deleteClaim _ => true
  | _ => false

namespace Req

@[simp] theorem isWrite_get (k : Kind) (n : String) : (get k n).isWrite = false := rfl
@[simp] theorem isWrite_listClaims : listClaims.isWrite = false := rfl
@[simp] theorem isWrite_now : now.isWrite = false := rfl
@[simp] theorem isWrite_generatePassword (l : Nat) : (generatePassword l).isWrite = false := rfl

end Req

/-- The key a keyed request addresses. -/
def Req.key? : Req → Option Key
  | .get k n | .delete k n => some ⟨k, n⟩
  | .create k x | .update k x => some ⟨k, k.nameOf x⟩
  | .updateStatus ms => some ⟨.musicService, ms.name⟩
  | _ => none

/-- The StatefulSet a `Create` or `Update` request writes. -/
def Req.writtenStatefulSet? : Req → Option StatefulSet
  | .create .statefulSet x | .update .statefulSet x => some x
  | _ => none

/-- A reconcile function: a tree of requests, branching on every reply. -/
inductive Prog (α : Type) where
  | pure (a : α)
  | panic
  | call (r : Req) (k : r.Resp → Prog α)

namespace Prog

def bind : Prog α → (α → Prog β) → Prog β
  | .pure a, f => f a
  | .panic, _ => .panic
  | .call r k, f => .call r fun x => (k x).bind f

instance : Monad Prog where
  pure := .pure
  bind := Prog.bind

@[simp] theorem bind_eq (p : Prog α) (f : α → Prog β) : p >>= f = p.bind f := rfl

@[simp] theorem pure_eq (a : α) : (Pure.pure a : Prog α) = Prog.pure a := rfl

@[simp] theorem pure_bind (a : α) (f : α → Prog β) : (Prog.pure a).bind f = f a := rfl

@[simp] theorem panic_bind (f : α → Prog β) : (Prog.panic : Prog α).bind f = .panic := rfl

@[simp] theorem call_bind (r : Req) (k : r.Resp → Prog α) (f : α → Prog β) :
    (Prog.call r k).bind f = .call r fun x => (k x).bind f := rfl

theorem bind_assoc (p : Prog α) (f : α → Prog β) (g : β → Prog γ) :
    (p.bind f).bind g = p.bind fun a => (f a).bind g := by
  induction p with
  | pure a => rfl
  | panic => rfl
  | call r k ih => simp only [call_bind, ih]

/-- Send one request and return its reply. -/
def send (r : Req) : Prog r.Resp := .call r .pure

def getObj (k : Kind) (n : String) : Prog (Except ApiError k.Obj) := send (.get k n)

def createObj (k : Kind) (x : k.Obj) : Prog (Except ApiError Unit) := send (.create k x)

def updateObj (k : Kind) (x : k.Obj) : Prog (Except ApiError Unit) := send (.update k x)

def deleteObj (k : Kind) (n : String) : Prog (Except ApiError Unit) := send (.delete k n)

/-- `Status().Update`. -/
def updateStatus (ms : MusicService) : Prog (Except ApiError Unit) := send (.updateStatus ms)

def listClaims : Prog (Except ApiError (List PersistentVolumeClaim)) := send .listClaims

def updateClaim (c : PersistentVolumeClaim) : Prog (Except ApiError Unit) := send (.updateClaim c)

def deleteClaim (n : String) : Prog (Except ApiError Unit) := send (.deleteClaim n)

/-- `time.Now()`. -/
def now : Prog Time := send .now

def generatePassword (length : Nat) : Prog (Except ApiError String) :=
  send (.generatePassword length)

end Prog

/-! ## Runs -/

/-- The environment's answers, request by request: a failure in place of the honest reply, the
    clock, and the random source. -/
structure Oracle where
  fault : Nat → Option ApiError
  clock : Nat → Time
  entropy : Nat → String

namespace Oracle

/-- The store that never fails. -/
def exact (clock : Nat → Time) (entropy : Nat → String) : Oracle := ⟨fun _ => none, clock, entropy⟩

/-- The oracle seen from request `n` on. -/
def shift (o : Oracle) (n : Nat) : Oracle :=
  ⟨fun i => o.fault (n + i), fun i => o.clock (n + i), fun i => o.entropy (n + i)⟩

@[simp] theorem shift_zero (o : Oracle) : o.shift 0 = o := by
  simp only [shift, Nat.zero_add]

@[simp] theorem shift_shift (o : Oracle) (a b : Nat) : (o.shift a).shift b = o.shift (a + b) := by
  simp only [shift, Nat.add_assoc]

@[simp] theorem shift_fault (o : Oracle) (n i : Nat) : (o.shift n).fault i = o.fault (n + i) := rfl

end Oracle

/-- A failure in place of the honest reply, when the oracle says so. -/
def Oracle.guard (o : Oracle) (s : Store) (honest : Except ApiError α × Store) :
    Except ApiError α × Store :=
  match o.fault 0 with
  | some e => (.error e, s)
  | none => honest

/-- The reply to request `r`, number `0` for oracle `o`, and the store after it. -/
def Store.answer (s : Store) (o : Oracle) : (r : Req) → r.Resp × Store
  | .get k n => o.guard s (s.get k n, s)
  | .create k x => o.guard s (s.create k x)
  | .update k x => o.guard s (s.update k x)
  | .delete k n => o.guard s (s.delete k n)
  | .updateStatus ms => o.guard s (s.updateStatus ms)
  | .listClaims => o.guard s (.ok s.claims, s)
  | .updateClaim c => o.guard s (s.updateClaim c)
  | .deleteClaim n => o.guard s (s.deleteClaim n)
  | .now => (o.clock 0, s)
  | .generatePassword _ => o.guard s (.ok (o.entropy 0), s)

/-- What a run ends with: the value (`none` for a panic), the store, and the requests sent. -/
structure Exec (α : Type) where
  result : Option α
  store : Store
  trace : List Req

namespace Prog

/-- Run a program against store `s`, request `i` answered by `o.shift i`. -/
def run : Prog α → Oracle → Store → Exec α
  | .pure a, _, s => ⟨some a, s, []⟩
  | .panic, _, s => ⟨none, s, []⟩
  | .call r k, o, s =>
    let e := (k (s.answer o r).1).run (o.shift 1) (s.answer o r).2
    ⟨e.result, e.store, r :: e.trace⟩

@[simp] theorem run_pure (a : α) (o : Oracle) (s : Store) :
    (Prog.pure a).run o s = ⟨some a, s, []⟩ := rfl

@[simp] theorem run_panic (o : Oracle) (s : Store) :
    (Prog.panic : Prog α).run o s = ⟨none, s, []⟩ := rfl

theorem run_call (r : Req) (k : r.Resp → Prog α) (o : Oracle) (s : Store) :
    (Prog.call r k).run o s =
      let e := (k (s.answer o r).1).run (o.shift 1) (s.answer o r).2
      ⟨e.result, e.store, r :: e.trace⟩ := rfl

/-- Splitting a run at a `bind`: the continuation runs from where the first part stopped, with
    the oracle shifted past the first part's requests. -/
theorem run_bind (p : Prog α) (f : α → Prog β) (o : Oracle) (s : Store) :
    (p.bind f).run o s =
      match (p.run o s).result with
      | some a =>
        let e := (f a).run (o.shift (p.run o s).trace.length) (p.run o s).store
        ⟨e.result, e.store, (p.run o s).trace ++ e.trace⟩
      | none => ⟨none, (p.run o s).store, (p.run o s).trace⟩ := by
  induction p generalizing o s with
  | pure a => simp
  | panic => rfl
  | call r k ih =>
    simp only [call_bind, run_call, ih]
    split <;> simp_all [Nat.add_comm]

/-- The store after the first `n` requests of a run (where it stops, if it sends fewer). -/
def storeAfter : Nat → Prog α → Oracle → Store → Store
  | n + 1, .call r k, o, s => storeAfter n (k (s.answer o r).1) (o.shift 1) (s.answer o r).2
  | _, _, _, s => s

end Prog

end MusicOperator
