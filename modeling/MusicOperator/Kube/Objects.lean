import Mathlib.Algebra.Group.Nat.Basic
import Mathlib.Logic.Function.Basic
import Mathlib.Data.List.Basic
import Mathlib.Data.List.Forall2
import Mathlib.Data.List.Nodup
import Mathlib.Data.Option.Basic
import Mathlib.Tactic.SplitIfs
import Mathlib.Tactic.Use
import Mathlib.Tactic.ByContra

/-!
  The Kubernetes objects the MusicService operator builds, reads and writes — only the fields
  that some function of the operator sets, reads or compares.

  Modelling choices, once for the whole development:

  * A `resource.Quantity` is modelled by its value (`Quantity := Nat`), and
    `resource.ParseQuantity` / `resource.MustParse` by the class `QuantityParser`: apimachinery's
    parser is not part of the repository, so every result below holds for EVERY parser.
  * Go maps built from literals (labels, selectors, resource lists, secret data) are association
    lists in the literal's order; `reflect.DeepEqual` on them is list equality.
  * `*int32` / `*bool` / `*T` fields are `Option`; a Go `nil` dereference is a panic of the
    request program (`Prog.panic`, see `Store/Program.lean`).
  * Every object lives in the parent's namespace, so the namespace is left out of keys.
-/

namespace MusicOperator

/-- `metav1.Time`; the zero time is `0`. -/
abbrev Time := Nat

/-- The value of a `resource.Quantity`. -/
abbrev Quantity := Nat

/-- `resource.ParseQuantity` of apimachinery (not in the repository): `none` is a parse error.
    `resource.MustParse` panics exactly where this returns `none`. -/
class QuantityParser where
  parse : String → Option Quantity

/-- The value of a non-empty string of decimal digits. -/
def decimalValue (cs : List Char) : Option Nat :=
  if cs ≠ [] ∧ cs.all Char.isDigit then some (cs.foldl (fun n c => 10 * n + (c.toNat - 48)) 0)
  else none

/-- The quantities written as a decimal integer with an optional binary suffix (`100`, `512Mi`,
    `10Gi`): the reference parser the model is evaluated with on concrete inputs. Results about
    the operator bind their own `QuantityParser` and hold for every parser. -/
instance binaryQuantityParser : QuantityParser where
  parse s :=
    match s.toList.reverse with
    | 'i' :: 'K' :: ds => (decimalValue ds.reverse).map (· * 2 ^ 10)
    | 'i' :: 'M' :: ds => (decimalValue ds.reverse).map (· * 2 ^ 20)
    | 'i' :: 'G' :: ds => (decimalValue ds.reverse).map (· * 2 ^ 30)
    | 'i' :: 'T' :: ds => (decimalValue ds.reverse).map (· * 2 ^ 40)
    | _ => decimalValue s.toList

/-! ## Pod templates (`corev1`) -/

/-- `corev1.ResourceRequirements` (limits and requests, as resource lists). -/
structure ResourceRequirements where
  limits : List (String × Quantity) := []
  requests : List (String × Quantity) := []
deriving DecidableEq, Repr

/-- `corev1.EnvVarSource`: the two sources the builder uses. -/
inductive EnvVarSource where
  | fieldRef (fieldPath : String)
  | secretKeyRef (name key : String)
deriving DecidableEq, Repr

structure EnvVar where
  name : String
  value : String := ""
  valueFrom : Option EnvVarSource := none
deriving DecidableEq, Repr

structure ContainerPort where
  name : String
  containerPort : Int
  protocol : String
deriving DecidableEq, Repr

structure VolumeMount where
  name : String
  mountPath : String
deriving DecidableEq, Repr

/-- `corev1.Probe` with an `exec` handler; the thresholds the API server defaults are kept so
    that a defaulted live probe can differ from the builder's. -/
structure Probe where
  exec : List String
  initialDelaySeconds : Int := 0
  periodSeconds : Int := 0
  timeoutSeconds : Int := 0
  successThreshold : Int := 0
  failureThreshold : Int := 0
deriving DecidableEq, Repr

/-- `corev1.Container`. `imagePullPolicy` and `terminationMessagePath` are never set by the
    builder; the API server fills them in. -/
structure Container where
  name : String
  image : String
  command : List String := []
  env : List EnvVar := []
  ports : List ContainerPort := []
  resources : ResourceRequirements := {}
  volumeMounts : List VolumeMount := []
  readinessProbe : Option Probe := none
  livenessProbe : Option Probe := none
  imagePullPolicy : String := ""
  terminationMessagePath : String := ""
deriving DecidableEq, Repr

/-- `corev1.Volume`; the only source the builder uses is an `EmptyDir`. -/
structure Volume where
  name : String
  emptyDir : Bool
deriving DecidableEq, Repr

structure PodSpec where
  initContainers : List Container := []
  containers : List Container := []
  volumes : List Volume := []
deriving DecidableEq, Repr

structure PodTemplateSpec where
  labels : List (String × String)
  spec : PodSpec
deriving DecidableEq, Repr

/-! ## Object kinds -/

/-- `metav1.ObjectMeta`: the name, the labels, and the name of the controlling owner. -/
structure ObjectMeta where
  name : String
  labels : List (String × String) := []
  owner : Option String := none
deriving DecidableEq, Repr

/-- An entry of `volumeClaimTemplates`: its name, access modes and `requests[storage]`. -/
structure ClaimTemplate where
  name : String
  accessModes : List String
  storage : Option Quantity
deriving DecidableEq, Repr

structure StatefulSetSpec where
  replicas : Option Int
  serviceName : String
  selector : List (String × String)
  template : PodTemplateSpec
  volumeClaimTemplates : List ClaimTemplate
deriving DecidableEq, Repr

structure StatefulSetStatus where
  readyReplicas : Int := 0
deriving DecidableEq, Repr

structure StatefulSet where
  metadata : ObjectMeta
  spec : StatefulSetSpec
  status : StatefulSetStatus := {}
deriving DecidableEq, Repr

structure ServicePort where
  name : String
  port : Int
  targetPort : Option Int := none
  protocol : String
deriving DecidableEq, Repr

structure ServiceSpec where
  selector : List (String × String)
  ports : List ServicePort
  type : String
  clusterIP : String := ""
deriving DecidableEq, Repr

structure Service where
  metadata : ObjectMeta
  spec : ServiceSpec
deriving DecidableEq, Repr

structure MetricTarget where
  type : String
  averageUtilization : Option Int
deriving DecidableEq, Repr

structure ResourceMetricSource where
  name : String
  target : MetricTarget
deriving DecidableEq, Repr

structure MetricSpec where
  type : String
  resource : Option ResourceMetricSource
deriving DecidableEq, Repr

structure CrossVersionObjectReference where
  apiVersion : String
  kind : String
  name : String
deriving DecidableEq, Repr

/-- `autoscalingv2.HorizontalPodAutoscalerSpec`. `behavior` is never set by the builder; the API
    server fills it in, and the operator sees it only through `reflect.DeepEqual`. -/
structure HorizontalPodAutoscalerSpec where
  scaleTargetRef : CrossVersionObjectReference
  minReplicas : Option Int
  maxReplicas : Int
  metrics : List MetricSpec
  behavior : Option String := none
deriving DecidableEq, Repr

structure HorizontalPodAutoscaler where
  metadata : ObjectMeta
  spec : HorizontalPodAutoscalerSpec
deriving DecidableEq, Repr

structure Secret where
  metadata : ObjectMeta
  type : String
  data : List (String × String)
deriving DecidableEq, Repr

/-- `corev1.PersistentVolumeClaim`: its name, `spec.resources.requests[storage]` and
    `status.phase`. -/
structure PersistentVolumeClaim where
  name : String
  storage : Option Quantity
  phase : String
deriving DecidableEq, Repr

/-- `metav1.Condition`; `status` is `"True"`, `"False"` or `"Unknown"`. -/
structure Condition where
  type : String
  status : String
  observedGeneration : Int
  reason : String
  message : String
  lastTransitionTime : Time := 0
deriving DecidableEq, Repr

end MusicOperator
