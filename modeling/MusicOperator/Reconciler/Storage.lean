import MusicOperator.Store.Program

/-!
  Storage-size handling of the reconcilers (`internal/reconciler/storage.go`).

  A tier's claims are the claims of the namespace whose name starts with
  `claimName-appName-` (`listPVCsByPrefix`, a `List` filtered by `strings.HasPrefix`). Both
  loops (`resizePVCs`, `deletePVCsByPrefix`) stop at the first failing request and return its
  error; the requests before it stay applied. Names are compared as character lists, which is
  Go's byte comparison on the ASCII names Kubernetes admits.
-/

namespace MusicOperator.Reconciler

open Prog (getObj createObj updateObj deleteObj listClaims updateClaim deleteClaim)

/-- `strings.HasPrefix`. -/
def hasPrefix (s pfx : String) : Bool := pfx.toList.isPrefixOf s.toList

/-- `fmt.Sprintf("%s-%s-", claimName, appName)`: the name prefix of a tier's claims. -/
def claimPrefix (claimName appName : String) : String := claimName ++ "-" ++ appName ++ "-"

def storageUpdatePolicy (storage : StorageSpec) : String :=
  if storage.updatePolicy = "" then "Resize" else storage.updatePolicy

/-- `requests[storage]` of the first volume claim template. -/
def storageRequestFromStatefulSet (sts : StatefulSet) : Option Quantity :=
  match sts.spec.volumeClaimTemplates with
  | [] => none
  | t :: _ => t.storage

/-- Whether both StatefulSets have a first claim template with a storage request, and the two
    requests differ. -/
def storageSizeChanged (current desired : StatefulSet) : Bool :=
  match storageRequestFromStatefulSet current, storageRequestFromStatefulSet desired with
  | some c, some d => c != d
  | _, _ => false

def listPVCsByPrefix (claimName appName : String) :
    Prog (Except ApiError (List PersistentVolumeClaim)) := do
  match ← listClaims with
  | .error e => pure (.error e)
  | .ok items =>
    pure (.ok (items.filter fun pvc => hasPrefix pvc.name (claimPrefix claimName appName)))

/-- The loop of `deletePVCsByPrefix`. -/
def deletePVCsLoop : List PersistentVolumeClaim → Prog (Except ApiError Unit)
  | [] => pure (.ok ())
  | pvc :: rest => do
    match ← deleteClaim pvc.name with
    | .error e => pure (.error e)
    | .ok () => deletePVCsLoop rest

def deletePVCsByPrefix (claimName appName : String) : Prog (Except ApiError Unit) := do
  match ← listPVCsByPrefix claimName appName with
  | .error e => pure (.error e)
  | .ok pvcs => deletePVCsLoop pvcs

/-- Delete the StatefulSet, then the tier's claims; the next pass re-creates both. -/
def recreateStatefulSetStorage (sts : StatefulSet) (claimName appName : String) :
    Prog (Except ApiError Unit) := do
  match ← deleteObj .statefulSet sts.metadata.name with
  | .error e => pure (.error e)
  | .ok () => deletePVCsByPrefix claimName appName

/-- The loop of `resizePVCs`: grow every claim whose request is below `desiredSize`. -/
def resizePVCsLoop (desiredSize : Quantity) : List PersistentVolumeClaim → Prog (Except ApiError Unit)
  | [] => pure (.ok ())
  | pvc :: rest =>
    match pvc.storage with
    | none => resizePVCsLoop desiredSize rest
    | some currentSize =>
      if currentSize ≥ desiredSize then resizePVCsLoop desiredSize rest
      else do
        match ← updateClaim { pvc with storage := some desiredSize } with
        | .error e => pure (.error e)
        | .ok () => resizePVCsLoop desiredSize rest

def resizePVCs (claimName appName : String) (desired : StatefulSet) :
    Prog (Except ApiError Unit) :=
  match storageRequestFromStatefulSet desired with
  | none => pure (.ok ())
  | some desiredSize => do
    match ← listPVCsByPrefix claimName appName with
    | .error e => pure (.error e)
    | .ok pvcs => resizePVCsLoop desiredSize pvcs

end MusicOperator.Reconciler
