import CsiOperator.Kube.Types
import CsiOperator.Kube.Kind
/-!
Whole Kubernetes objects of the built-in kinds the operator manages. An object is read
through its kind's schema; `apiVersion` and `kind`, when given, must name the kind, and are
always written first.

Volume snapshot classes are the exception: they are not a built-in type, and keep whatever
`apiVersion` and `kind` they are given, `driver` and `deletionPolicy` being required.
-/

namespace CsiOperator.Kube

/-- Object metadata, read as empty when absent. -/
def metadataField : String × Presence × Schema := dfl "metadata" objectMeta

/-- The members of a role binding or cluster role binding. -/
def bindingFields : List (String × Presence × Schema) :=
  [metadataField, dfl "roleRef" roleRef, opt "subjects" (.list subject)]

/-- The members of a volume snapshot class. -/
def snapshotClassFields : List (String × Presence × Schema) :=
  [dfl "apiVersion" .string, dfl "kind" .string, metadataField, req "driver" .string,
    req "deletionPolicy" .string, opt "parameters" strMap]

/-- The members, after `apiVersion` and `kind`, of an object of a built-in kind; none for the
operator's own kinds. -/
def objectFields : ResourceKind → Option (List (String × Presence × Schema))
  | .serviceAccount => some [opt "automountServiceAccountToken" .boolean,
      opt "imagePullSecrets" (.list .any), metadataField, opt "secrets" (.list .any)]
  | .secret => some [opt "data" strMap, opt "immutable" .boolean, metadataField,
      opt "stringData" strMap, opt "type" .string]
  | .configMap => some [opt "binaryData" strMap, opt "data" strMap, opt "immutable" .boolean,
      metadataField]
  | .service => some [metadataField, opt "spec" serviceSpec, opt "status" .any]
  | .role => some [metadataField, opt "rules" (.list policyRule)]
  | .roleBinding | .clusterRoleBinding => some bindingFields
  | .clusterRole => some [opt "aggregationRule" .any, metadataField, opt "rules" (.list policyRule)]
  | .csiDriver => some [metadataField, dfl "spec" csiDriverSpec]
  | .storageClass => some [opt "allowVolumeExpansion" .boolean,
      opt "allowedTopologies" (.list topologySelectorTerm), metadataField,
      opt "mountOptions" strList, opt "parameters" strMap, dfl "provisioner" .string,
      opt "reclaimPolicy" .string, opt "volumeBindingMode" .string]
  | .statefulSet => some [metadataField, opt "spec" statefulSetSpec, opt "status" statefulSetStatus]
  | .deployment => some [metadataField, opt "spec" deploymentSpec, opt "status" deploymentStatus]
  | .daemonSet => some [metadataField, opt "spec" daemonSetSpec, opt "status" daemonSetStatus]
  | .pod => some [metadataField, opt "spec" podSpec, opt "status" podStatus]
  | .lease => some [metadataField, opt "spec" leaseSpec]
  | .volumeSnapshotClass => some snapshotClassFields
  | .driver _ | .reverseProxy => none

/-- Checks that a given `apiVersion` or `kind` member has the expected text. -/
def expectMember (ms : List (String × Json)) (key expected : String) : Except DecodeError Unit :=
  match ms.find? (·.1 == key) with
  | some (_, .str s) =>
    if s == expected then .ok ()
    else Reader.inside (.key key) (fun _ => Reader.fail (.invalidValue (.str s) expected)) .null
  | some (_, v) => Reader.inside (.key key) (fun j => Reader.wrongType j "a string") v
  | none => .ok ()

/-- Reads an object of a built-in kind through its schema. -/
def readObject (k : ResourceKind) (fs : List (String × Presence × Schema)) : Reader Json := fun j =>
  let ms := j.members
  match k with
  | .volumeSnapshotClass => do
    let body ← (record "VolumeSnapshotClass" fs).read j
    let given (key : String) := (ms.find? (·.1 == key)).isSome
    let body := if given "apiVersion" then body else body.set "apiVersion" (.str k.apiVersion)
    pure (if given "kind" then body else body.set "kind" (.str k.name))
  | _ => do
    expectMember ms "apiVersion" k.apiVersion
    expectMember ms "kind" k.name
    let body ← (record k.name fs).read j
    pure (.obj ([("apiVersion", .str k.apiVersion), ("kind", .str k.name)] ++ body.members))

end CsiOperator.Kube
