import CsiOperator.Kube.Types
/-!
Environment variables, tolerations and topology terms as typed values. These are the parts of
Kubernetes containers that the operator's own resources carry, merge and compare, so they
have types of their own; their JSON form follows the API schema of `Kube.Types`.
-/

namespace CsiOperator

/-- A reference to one key of a secret or config map. -/
structure KeyRef where
  key : String
  name : Option String := none
  optional : Option Bool := none
deriving DecidableEq, Repr, Inhabited

/-- A reference to a field of the pod. -/
structure FieldRef where
  apiVersion : Option String := none
  fieldPath : String
deriving DecidableEq, Repr, Inhabited

/-- A reference to a resource of a container. -/
structure ResourceRef where
  containerName : Option String := none
  divisor : Option String := none
  resource : String
deriving DecidableEq, Repr, Inhabited

/-- Where an environment variable's value comes from. -/
structure EnvSource where
  configMapKeyRef : Option KeyRef := none
  fieldRef : Option FieldRef := none
  resourceFieldRef : Option ResourceRef := none
  secretKeyRef : Option KeyRef := none
deriving DecidableEq, Repr, Inhabited

/-- An environment variable of a container. -/
structure EnvVar where
  name : String
  value : Option String := none
  valueFrom : Option EnvSource := none
deriving DecidableEq, Repr, Inhabited

/-- A toleration of node taints. -/
structure Toleration where
  effect : Option String := none
  key : Option String := none
  operator : Option String := none
  tolerationSeconds : Option Int := none
  value : Option String := none
deriving DecidableEq, Repr, Inhabited

/-- A requirement on one topology label. -/
structure TopologyRequirement where
  key : String
  values : List String
deriving DecidableEq, Repr, Inhabited

/-- A set of topology requirements that must all hold. -/
structure TopologyTerm where
  matchLabelExpressions : Option (List TopologyRequirement) := none
deriving DecidableEq, Repr, Inhabited

namespace KeyRef

/-- The key reference in a read document. -/
def ofDoc (j : Json) : KeyRef :=
  { key := j.strD "key", name := j.strOpt "name", optional := j.boolOpt "optional" }

/-- The document of a key reference. -/
def toJson (r : KeyRef) : Json :=
  .fields [("key", some (.str r.key)), ("name", Json.optStr r.name),
    ("optional", r.optional.map .bool)]

end KeyRef

namespace EnvSource

/-- The value source in a read document. -/
def ofDoc (j : Json) : EnvSource :=
  { configMapKeyRef := (j.get? "configMapKeyRef").map KeyRef.ofDoc
    fieldRef := (j.get? "fieldRef").map fun f =>
      { apiVersion := f.strOpt "apiVersion", fieldPath := f.strD "fieldPath" }
    resourceFieldRef := (j.get? "resourceFieldRef").map fun f =>
      { containerName := f.strOpt "containerName", divisor := f.strOpt "divisor"
        resource := f.strD "resource" }
    secretKeyRef := (j.get? "secretKeyRef").map KeyRef.ofDoc }

/-- The document of a value source. -/
def toJson (s : EnvSource) : Json :=
  .fields [
    ("configMapKeyRef", s.configMapKeyRef.map KeyRef.toJson),
    ("fieldRef", s.fieldRef.map fun f =>
      .fields [("apiVersion", Json.optStr f.apiVersion), ("fieldPath", some (.str f.fieldPath))]),
    ("resourceFieldRef", s.resourceFieldRef.map fun f =>
      .fields [("containerName", Json.optStr f.containerName), ("divisor", Json.optStr f.divisor),
        ("resource", some (.str f.resource))]),
    ("secretKeyRef", s.secretKeyRef.map KeyRef.toJson)]

end EnvSource

namespace EnvVar

/-- The variable in a read document. -/
def ofDoc (j : Json) : EnvVar :=
  { name := j.strD "name", value := j.strOpt "value"
    valueFrom := (j.get? "valueFrom").map EnvSource.ofDoc }

/-- The document of a variable. -/
def toJson (e : EnvVar) : Json :=
  .fields [("name", some (.str e.name)), ("value", Json.optStr e.value),
    ("valueFrom", e.valueFrom.map EnvSource.toJson)]

/-- Reads a variable through its API schema. -/
def read : Reader EnvVar := fun j => (Kube.envVar.read j).map ofDoc

/-- A variable with a plain value. -/
def plain (name value : String) : EnvVar := { name, value := some value }

end EnvVar

namespace Toleration

/-- The toleration in a read document. -/
def ofDoc (j : Json) : Toleration :=
  { effect := j.strOpt "effect", key := j.strOpt "key", operator := j.strOpt "operator"
    tolerationSeconds := j.intOpt "tolerationSeconds", value := j.strOpt "value" }

/-- The document of a toleration. -/
def toJson (t : Toleration) : Json :=
  .fields [("effect", Json.optStr t.effect), ("key", Json.optStr t.key),
    ("operator", Json.optStr t.operator), ("tolerationSeconds", t.tolerationSeconds.map .int),
    ("value", Json.optStr t.value)]

/-- Reads a toleration through its API schema. -/
def read : Reader Toleration := fun j => (Kube.toleration.read j).map ofDoc

end Toleration

namespace TopologyTerm

/-- The term in a read document. -/
def ofDoc (j : Json) : TopologyTerm :=
  { matchLabelExpressions := (j.get? "matchLabelExpressions").map fun xs =>
      (xs.items?.getD []).map fun r =>
        { key := r.strD "key", values := ((r.get? "values").map Json.strList).getD [] } }

/-- The document of a term. -/
def toJson (t : TopologyTerm) : Json :=
  .fields [("matchLabelExpressions", t.matchLabelExpressions.map fun rs =>
    .arr (rs.map fun r => .obj [("key", .str r.key), ("values", Json.strs r.values)]))]

/-- Reads a term through its API schema. -/
def read : Reader TopologyTerm := fun j => (Kube.topologySelectorTerm.read j).map ofDoc

end TopologyTerm

end CsiOperator
