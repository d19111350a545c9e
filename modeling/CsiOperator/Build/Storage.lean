import CsiOperator.Build.Rbac
/-!
The storage objects of a driver installation: the CSIDriver registration, the pod volumes
(with projected array certificates and a user's TLS secret), and the storage and snapshot
classes the spec declares.
-/

namespace CsiOperator.Build

/-- The fsGroupPolicy of drivers that do not name one. -/
def defaultFsGroupPolicy : String := "ReadWriteOnceWithFSType"

/-- The annotation that marks the default storage class. -/
def defaultClassKey : String := "storageclass.kubernetes.io/is-default-class"

/-- The CSIDriver registration, owned by the placeholder role. Ephemeral volumes are listed
when the configuration enables them. -/
def csiDriver (ctx : BuildContext) (dummy : Json) : Json :=
  let modes := ["Persistent"] ++ (if ctx.config.driver.enableEphemeralVolumes then ["Ephemeral"] else [])
  let fsGroupPolicy := if ctx.family.supportsFsGroupPolicy then
      some (.str (if ctx.driver.fsGroupPolicy.isEmpty then defaultFsGroupPolicy else ctx.driver.fsGroupPolicy))
    else none
  .obj (header .csiDriver [("name", .str ctx.family.defaultDriverName), ("ownerReferences", .arr [dummy])] ++
    [("spec", .fields [("attachRequired", some (.bool true)), ("fsGroupPolicy", fsGroupPolicy),
      ("podInfoOnMount", some (.bool true)), ("volumeLifecycleModes", some (Json.strs modes))])])

/-- The secret volume of a user's TLS certificate. -/
def tlsCertVolume (ctx : BuildContext) (secretName : String) : Json :=
  .obj [("name", .str (ctx.family.certVolumeName)),
    ("secret", .obj [("defaultMode", .int 420), ("optional", .bool true), ("secretName", .str secretName)])]

/-- The projected volume of the certificate secrets `<family>-certs-N`, N = 0, 1, ... up to the
first missing one; a secret without its `cert-N` key is skipped. -/
def projectedCertVolume (k : DriverKind) (secrets : List Json) : Json :=
  let rec go (fuel i : Nat) : List Json :=
    match fuel with
    | 0 => []
    | fuel + 1 =>
      let secretName := k.name ++ "-certs-" ++ toString i
      match secrets.find? (Meta.nameAny · == secretName) with
      | none => []
      | some secret =>
        let certKey := "cert-" ++ toString i
        let hasKey := ((secret.get? "data").bind (·.get? certKey)).isSome
        let rest := go fuel (i + 1)
        if hasKey then
          .obj [("secret", .obj [("items", .arr [.obj [("key", .str certKey), ("path", .str certKey)]]),
            ("name", .str secretName)])] :: rest
        else rest
  .obj [("name", .str k.certVolumeName), ("projected", .obj [("sources", .arr (go (secrets.length + 1) 0))])]

/-- The controller pod's volumes: the configuration's, the projected certificates, then the TLS
secret. -/
def controllerVolumes (ctx : BuildContext) (projected : Option Json) : List Json :=
  let vs := ctx.config.driver.volumes .controller
  let vs := match projected with
    | some certs => Layer.volumes vs [certs]
    | none => vs
  if ctx.driver.tlsCertSecret.isEmpty then vs else Layer.volumes vs [tlsCertVolume ctx ctx.driver.tlsCertSecret]

/-- The node pod's volumes: the configuration's and the projected certificates. -/
def nodeVolumes (ctx : BuildContext) (projected : Option Json) : List Json :=
  let vs := ctx.config.driver.volumes .node
  match projected with
  | some certs => Layer.volumes vs [certs]
  | none => vs

/-- The storage classes the spec declares, named `<resource>-<class>`. The reclaim policy is
`Retain`, `Recycle` or else `Delete`; an unknown binding mode is left out. -/
def storageClasses (ctx : BuildContext) (dummy : Json) : List Json :=
  let provisioner := ctx.driverName
  let owner := dummy.set "blockOwnerDeletion" (.bool false)
  ctx.driver.storageClass.map fun sc =>
    let reclaim := if sc.reclaimPolicy == "Retain" || sc.reclaimPolicy == "Recycle" then sc.reclaimPolicy else "Delete"
    let binding := if sc.volumeBindingMode == "Immediate" || sc.volumeBindingMode == "WaitForFirstConsumer" then
        some (.str sc.volumeBindingMode) else none
    let md : List (String × Json) :=
      (if sc.isDefault then [("annotations", Json.strMap [(defaultClassKey, "true")])] else []) ++
      [("name", .str (ctx.name ++ "-" ++ sc.name)), ("ownerReferences", .arr [owner])]
    .fields ((header .storageClass md).map (fun (k, v) => (k, some v)) ++
      [("allowVolumeExpansion", sc.allowVolumeExpansion.map .bool),
       ("allowedTopologies", sc.allowedTopologies.map fun ts => .arr (ts.map TopologyTerm.toJson)),
       ("parameters", if sc.parameters.isEmpty then none else some (Json.strMap sc.parameters)),
       ("provisioner", some (.str provisioner)), ("reclaimPolicy", some (.str reclaim)),
       ("volumeBindingMode", binding)])

/-- The snapshot classes the spec declares, named `<resource>-<class>`. -/
def snapshotClasses (ctx : BuildContext) (dummy : Json) : List Json :=
  let driverName := ctx.driverName
  ctx.driver.snapshotClass.map fun c =>
    .fields ((header .volumeSnapshotClass [("name", .str (ctx.name ++ "-" ++ c.name)),
        ("ownerReferences", .arr [dummy])]).map (fun (k, v) => (k, some v)) ++
      [("deletionPolicy", some (.str "Delete")), ("driver", some (.str driverName)),
       ("parameters", if c.parameters.isEmpty then none else some (Json.strMap c.parameters))])

end CsiOperator.Build
