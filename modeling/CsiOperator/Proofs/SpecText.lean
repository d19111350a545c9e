import Mathlib
import CsiOperator.Proofs.KubeText
import CsiOperator.Proofs.Annotations
/-!
Driver and proxy resources read back as they are written.

A resource is written member by member, leaving out the members its schema lets a reader take
as empty, and read with a reader for each member. Every value the resource's types can hold
reads back as itself: integers within the widths of their fields, maps with sorted keys,
metadata in the form the metadata schema writes it and statuses whose times the status text
writes exactly (`DriverResource.read_toJson`, `ProxyResource.read_toJson`).
-/

namespace CsiOperator

open Kube.Schema

namespace Reader

section Values

variable {ms : Members} {key : String} {s : Option (Nat × DecodeError)}

theorem list_go_map_of_mem {β : Type} {r : Reader β} {f : β → Json} :
    ∀ (i : Nat) (xs : List β), (∀ b ∈ xs, r (f b) = .ok b) → list.go r i (xs.map f) = .ok xs
  | _, [], _ => rfl
  | i, b :: bs, h => by
    simp [list.go, inside_ok (h b List.mem_cons_self),
      list_go_map_of_mem (i + 1) bs fun c hc => h c (List.mem_cons_of_mem _ hc)]
    rfl

theorem list_map_of_mem {β : Type} {r : Reader β} {f : β → Json} {xs : List β}
    (h : ∀ b ∈ xs, r (f b) = .ok b) : list r (.arr (xs.map f)) = .ok xs :=
  list_go_map_of_mem 0 xs h

theorem req_run_present {α : Type} [Inhabited α] {v : Json} {r : Reader α} {a : α}
    (h : ms.Holds key (some v)) (hr : r v = .ok a) : (req ms key r).run s = (a, s) := by
  have hloc := h.locate
  unfold req
  split
  · next i w hl =>
    simp only [hl, Option.map_some, Option.some.injEq] at hloc
    subst hloc
    exact present_run h.repeated hr
  · next hl => simp [hl] at hloc

theorem dflt_run_unlessNil_of {β : Type} {r : Reader β} {f : β → Json} {xs : List β}
    (h : ms.Holds key (Json.unlessNil xs f)) (hr : ∀ b ∈ xs, r (f b) = .ok b) :
    (dflt ms key [] (list r)).run s = (xs, s) := by
  unfold Json.unlessNil at h
  split at h
  · next empty => rw [dflt_run_absent h, List.isEmpty_iff.mp empty]
  · exact dflt_run_present h (list_map_of_mem hr)

theorem dflt_run_unlessFalse {b : Bool} (h : ms.Holds key (Json.unlessFalse b)) :
    (dflt ms key false bool).run s = (b, s) := by
  unfold Json.unlessFalse at h
  cases b with
  | false => exact dflt_run_absent h
  | true => exact dflt_run_present h rfl

theorem strMap_strMap {ps : List (String × String)} (hs : KeySorted ps) :
    strMap (Json.strMap ps) = .ok ps := by
  have pairs : ∀ qs : List (String × String),
      sortedMap.go string (qs.map (Prod.map id Json.str)) = .ok qs := by
    intro qs
    induction qs with
    | nil => rfl
    | cons q rest ih =>
      simp [sortedMap.go, inside, string, ih]
      rfl
  -- `Json.strMap` writes each pair as `Prod.map id Json.str` does
  have members : Json.strMap ps = .obj (ps.map (Prod.map id Json.str)) := rfl
  simp only [strMap, sortedMap, members, pairs]
  simpa using foldl_insertSorted (α := String) (l := ps) (by simpa using hs : KeySorted ([] ++ ps))

theorem dflt_run_strMap {ps : List (String × String)}
    (h : ms.Holds key (if ps.isEmpty then none else some (Json.strMap ps))) (hs : KeySorted ps) :
    (dflt ms key [] strMap).run s = (ps, s) := by
  split at h
  · next empty => rw [dflt_run_absent h, List.isEmpty_iff.mp empty]
  · exact dflt_run_present h (strMap_strMap hs)

end Values

end Reader

/-- A container template as the API's types hold it: tolerations whose waits fit 64 bits, and a
node selector with sorted keys. -/
def ContainerTemplate.Exact (c : ContainerTemplate) : Prop :=
  (∀ t ∈ c.tolerations, t.Exact) ∧ ∀ ps ∈ c.nodeSelector, Reader.KeySorted ps

open Reader Members in
theorem ContainerTemplate.read_toJson {c : ContainerTemplate} (hc : c.Exact) :
    ContainerTemplate.read c.toJson = .ok c := by
  have held := holds_fields (l := [("name", Json.unlessEmpty c.name),
    ("image", Json.unlessEmpty c.image), ("imagePullPolicy", Json.unlessEmpty c.imagePullPolicy),
    ("args", Json.unlessNil c.args .str), ("envs", Json.unlessNil c.envs EnvVar.toJson),
    ("tolerations", Json.unlessNil c.tolerations Toleration.toJson),
    ("nodeSelector", c.nodeSelector.map Json.strMap)]) (by simp)
  have name : Holds _ "name" (Json.unlessEmpty c.name) := held (by simp)
  have image : Holds _ "image" (Json.unlessEmpty c.image) := held (by simp)
  have policy : Holds _ "imagePullPolicy" (Json.unlessEmpty c.imagePullPolicy) := held (by simp)
  have args : Holds _ "args" (Json.unlessNil c.args .str) := held (by simp)
  have envs : Holds _ "envs" (Json.unlessNil c.envs EnvVar.toJson) := held (by simp)
  have tolerations : Holds _ "tolerations" (Json.unlessNil c.tolerations Toleration.toJson) :=
    held (by simp)
  have selector : Holds _ "nodeSelector" (c.nodeSelector.map Json.strMap) := held (by simp)
  unfold ContainerTemplate.read ContainerTemplate.toJson Json.fields
  apply record_obj
  simp only [StateT.run_bind, dflt_run_unlessEmpty name, dflt_run_unlessEmpty image,
    dflt_run_unlessEmpty policy, dflt_run_unlessNil args,
    dflt_run_unlessNil_of envs fun e _ => EnvVar.read_toJson e,
    dflt_run_unlessNil_of tolerations fun t ht => Toleration.read_toJson (hc.1 t ht),
    optNull_run_map selector (fun _ => by simp [Json.strMap]) fun ps hps => strMap_strMap (hc.2 ps hps)]
  rfl

theorem Reader.i32_int {n : Int} (h : FitsI32 n) : Reader.i32 (.int n) = .ok n := by
  simp [Reader.i32, Reader.intIn, h.1, h.2]

open Reader Members in
theorem Reader.dflt_run_unlessZero {ms : Members} {key : String} {s : Option (Nat × DecodeError)}
    {n : Int} (h : ms.Holds key (Json.unlessZero n)) (hn : FitsI32 n) :
    (dflt ms key 0 i32).run s = (n, s) := by
  unfold Json.unlessZero at h
  split at h
  · next zero => rw [dflt_run_absent h, (beq_iff_eq.mp zero)]
  · exact dflt_run_present h (Reader.i32_int hn)

open Reader Members in
theorem StorageClassSpec.read_toJson {sc : StorageClassSpec} (hs : KeySorted sc.parameters) :
    StorageClassSpec.read sc.toJson = .ok sc := by
  have held := holds_fields (l := [("name", some (.str sc.name)),
    ("default", Json.unlessFalse sc.isDefault), ("reclaimPolicy", Json.unlessEmpty sc.reclaimPolicy),
    ("parameters", if sc.parameters.isEmpty then none else some (Json.strMap sc.parameters)),
    ("allowVolumeExpansion", sc.allowVolumeExpansion.map .bool),
    ("volumeBindingMode", Json.unlessEmpty sc.volumeBindingMode),
    ("allowedTopologies", sc.allowedTopologies.map fun ts => .arr (ts.map TopologyTerm.toJson))])
    (by simp)
  have name : Holds _ "name" (some (.str sc.name)) := held (by simp)
  have isDefault : Holds _ "default" (Json.unlessFalse sc.isDefault) := held (by simp)
  have reclaim : Holds _ "reclaimPolicy" (Json.unlessEmpty sc.reclaimPolicy) := held (by simp)
  have parameters : Holds _ "parameters"
      (if sc.parameters.isEmpty then none else some (Json.strMap sc.parameters)) := held (by simp)
  have expansion : Holds _ "allowVolumeExpansion" (sc.allowVolumeExpansion.map .bool) :=
    held (by simp)
  have binding : Holds _ "volumeBindingMode" (Json.unlessEmpty sc.volumeBindingMode) := held (by simp)
  have topologies : Holds _ "allowedTopologies"
      (sc.allowedTopologies.map fun ts => .arr (ts.map TopologyTerm.toJson)) := held (by simp)
  unfold StorageClassSpec.read StorageClassSpec.toJson Json.fields
  apply record_obj
  simp only [StateT.run_bind, req_run_present (r := Reader.string) name rfl, dflt_run_unlessFalse isDefault,
    dflt_run_unlessEmpty reclaim, dflt_run_strMap parameters hs,
    optNull_run_map (r := Reader.bool) expansion (fun _ => by simp) fun _ _ => rfl,
    dflt_run_unlessEmpty binding,
    optNull_run_map topologies (fun _ => by simp) fun ts _ =>
      list_map_of_mem fun t _ => TopologyTerm.read_toJson t]
  rfl

open Reader Members in
theorem SnapshotClassSpec.read_toJson {sc : SnapshotClassSpec} (hs : KeySorted sc.parameters) :
    SnapshotClassSpec.read sc.toJson = .ok sc := by
  have held := holds_fields (l := [("name", some (.str sc.name)),
    ("parameters", if sc.parameters.isEmpty then none else some (Json.strMap sc.parameters))])
    (by simp)
  have name : Holds _ "name" (some (.str sc.name)) := held (by simp)
  have parameters : Holds _ "parameters"
      (if sc.parameters.isEmpty then none else some (Json.strMap sc.parameters)) := held (by simp)
  unfold SnapshotClassSpec.read SnapshotClassSpec.toJson Json.fields
  apply record_obj
  simp only [StateT.run_bind, req_run_present (r := Reader.string) name rfl, dflt_run_strMap parameters hs]
  rfl

/-- A driver spec as the resource's types hold it: a replica count of 32 bits, exact
containers, and storage and snapshot classes whose parameters have sorted keys. -/
structure DriverSpec.Exact (d : DriverSpec) : Prop where
  replicas : FitsI32 d.replicas
  common : d.common.Exact
  controller : d.controller.Exact
  node : d.node.Exact
  sideCars : ∀ c ∈ d.sideCars, c.Exact
  initContainers : ∀ c ∈ d.initContainers, c.Exact
  storageClass : ∀ sc ∈ d.storageClass, Reader.KeySorted sc.parameters
  snapshotClass : ∀ sc ∈ d.snapshotClass, Reader.KeySorted sc.parameters

open Reader Members in
theorem DriverSpec.read_toJson {d : DriverSpec} (hd : d.Exact) : DriverSpec.read d.toJson = .ok d := by
  have held := holds_fields (l := [("configVersion", some (.str d.configVersion)),
    ("replicas", some (.int d.replicas)), ("dnsPolicy", Json.unlessEmpty d.dnsPolicy),
    ("fsGroupPolicy", Json.unlessEmpty d.fsGroupPolicy), ("common", some d.common.toJson),
    ("controller", some d.controller.toJson), ("node", some d.node.toJson),
    ("sideCars", Json.unlessNil d.sideCars ContainerTemplate.toJson),
    ("initContainers", Json.unlessNil d.initContainers ContainerTemplate.toJson),
    ("storageClass", Json.unlessNil d.storageClass StorageClassSpec.toJson),
    ("snapshotClass", Json.unlessNil d.snapshotClass SnapshotClassSpec.toJson),
    ("forceUpdate", Json.unlessFalse d.forceUpdate), ("authSecret", Json.unlessEmpty d.authSecret),
    ("tlsCertSecret", Json.unlessEmpty d.tlsCertSecret)]) (by simp)
  have version : Holds _ "configVersion" (some (.str d.configVersion)) := held (by simp)
  have replicas : Holds _ "replicas" (some (.int d.replicas)) := held (by simp)
  have dns : Holds _ "dnsPolicy" (Json.unlessEmpty d.dnsPolicy) := held (by simp)
  have fsGroup : Holds _ "fsGroupPolicy" (Json.unlessEmpty d.fsGroupPolicy) := held (by simp)
  have common : Holds _ "common" (some d.common.toJson) := held (by simp)
  have controller : Holds _ "controller" (some d.controller.toJson) := held (by simp)
  have node : Holds _ "node" (some d.node.toJson) := held (by simp)
  have sideCars : Holds _ "sideCars" (Json.unlessNil d.sideCars ContainerTemplate.toJson) :=
    held (by simp)
  have initContainers : Holds _ "initContainers"
      (Json.unlessNil d.initContainers ContainerTemplate.toJson) := held (by simp)
  have storageClass : Holds _ "storageClass"
      (Json.unlessNil d.storageClass StorageClassSpec.toJson) := held (by simp)
  have snapshotClass : Holds _ "snapshotClass"
      (Json.unlessNil d.snapshotClass SnapshotClassSpec.toJson) := held (by simp)
  have force : Holds _ "forceUpdate" (Json.unlessFalse d.forceUpdate) := held (by simp)
  have auth : Holds _ "authSecret" (Json.unlessEmpty d.authSecret) := held (by simp)
  have tls : Holds _ "tlsCertSecret" (Json.unlessEmpty d.tlsCertSecret) := held (by simp)
  unfold DriverSpec.read DriverSpec.toJson Json.fields
  apply record_obj
  simp only [StateT.run_bind, req_run_present (r := Reader.string) version rfl,
    dflt_run_present replicas (Reader.i32_int hd.replicas), dflt_run_unlessEmpty dns,
    dflt_run_unlessEmpty fsGroup,
    dflt_run_present common (ContainerTemplate.read_toJson hd.common),
    dflt_run_present controller (ContainerTemplate.read_toJson hd.controller),
    dflt_run_present node (ContainerTemplate.read_toJson hd.node),
    dflt_run_unlessNil_of sideCars fun c hc => ContainerTemplate.read_toJson (hd.sideCars c hc),
    dflt_run_unlessNil_of initContainers fun c hc =>
      ContainerTemplate.read_toJson (hd.initContainers c hc),
    dflt_run_unlessNil_of storageClass fun sc hsc =>
      StorageClassSpec.read_toJson (hd.storageClass sc hsc),
    dflt_run_unlessNil_of snapshotClass fun sc hsc =>
      SnapshotClassSpec.read_toJson (hd.snapshotClass sc hsc),
    dflt_run_unlessFalse force, dflt_run_unlessEmpty auth, dflt_run_unlessEmpty tls]
  rfl

/-- A driver resource as its types hold it: metadata in the form the metadata schema writes it
(known members in schema order, maps by key, times in whole seconds), an exact spec, and a status
its document writes exactly. -/
structure DriverResource.Exact (r : DriverResource) : Prop where
  metadata : Kube.Schema.read Kube.objectMeta r.metadata = .ok r.metadata
  spec : r.spec.Exact
  status : ∀ st ∈ r.status, st.Exact

open Reader Members in
theorem DriverSpec.read_specJson {d : DriverSpec} (hd : d.Exact) (what : String) :
    Reader.record what (Reader.req · "driver" DriverSpec.read) d.specJson = .ok d := by
  apply record_obj
  exact req_run_present (holds_head (by simp)) (DriverSpec.read_toJson hd)

open Reader Members in
theorem DriverResource.read_toJson {r : DriverResource} (hr : r.Exact) :
    DriverResource.read r.family r.toJson = .ok r := by
  have held := holds_fields (l := [("apiVersion", some (.str (ResourceKind.driver r.family).apiVersion)),
    ("kind", some (.str r.family.resourceKind)), ("metadata", some r.metadata),
    ("spec", some r.spec.specJson), ("status", r.status.map DriverStatus.toJson)]) (by simp)
  have metadata : Holds _ "metadata" (some r.metadata) := held (by simp)
  have spec : Holds _ "spec" (some r.spec.specJson) := held (by simp)
  have status : Holds _ "status" (r.status.map DriverStatus.toJson) := held (by simp)
  unfold DriverResource.read DriverResource.toJson Json.fields
  apply record_obj
  simp only [StateT.run_bind, dflt_run_present metadata hr.metadata,
    req_run_present spec (DriverSpec.read_specJson hr.spec _),
    optNull_run_map status (fun _ => by simp [DriverStatus.toJson]) fun st hst =>
      DriverStatus.read_toJson (hr.status st hst)]
  rfl

/-- Request limits of 32 bits each. -/
def ProxyLimits.Exact (l : ProxyLimits) : Prop :=
  FitsI32 l.maxActiveRead ∧ FitsI32 l.maxActiveWrite ∧ FitsI32 l.maxOutStandingRead ∧
    FitsI32 l.maxOutStandingWrite

open Reader Members in
theorem ProxyLimits.read_toJson {l : ProxyLimits} (hl : l.Exact) :
    ProxyLimits.read l.toJson = .ok l := by
  have held := holds_fields (l := l.members) (by simp [ProxyLimits.members])
  have activeRead : Holds _ "maxActiveRead" (Json.unlessZero l.maxActiveRead) :=
    held (by simp [ProxyLimits.members])
  have activeWrite : Holds _ "maxActiveWrite" (Json.unlessZero l.maxActiveWrite) :=
    held (by simp [ProxyLimits.members])
  have outRead : Holds _ "maxOutStandingRead" (Json.unlessZero l.maxOutStandingRead) :=
    held (by simp [ProxyLimits.members])
  have outWrite : Holds _ "maxOutStandingWrite" (Json.unlessZero l.maxOutStandingWrite) :=
    held (by simp [ProxyLimits.members])
  unfold ProxyLimits.read ProxyLimits.toJson Json.fields
  apply record_obj
  simp only [StateT.run_bind, dflt_run_unlessZero activeRead hl.1,
    dflt_run_unlessZero activeWrite hl.2.1, dflt_run_unlessZero outRead hl.2.2.1,
    dflt_run_unlessZero outWrite hl.2.2.2]
  rfl

open Reader Members in
theorem ManagementServer.read_toJson {m : ManagementServer} (hm : m.limits.Exact) :
    ManagementServer.read m.toJson = .ok m := by
  have held := holds_fields (l := [("url", some (.str m.url)),
    ("arrayCredentialSecret", Json.unlessEmpty m.arrayCredentialSecret),
    ("skipCertificateValidation", Json.unlessFalse m.skipCertificateValidation),
    ("certSecret", Json.unlessEmpty m.certSecret), ("limits", some m.limits.toJson)]) (by simp)
  have url : Holds _ "url" (some (.str m.url)) := held (by simp)
  have credentials : Holds _ "arrayCredentialSecret" (Json.unlessEmpty m.arrayCredentialSecret) :=
    held (by simp)
  have skip : Holds _ "skipCertificateValidation" (Json.unlessFalse m.skipCertificateValidation) :=
    held (by simp)
  have cert : Holds _ "certSecret" (Json.unlessEmpty m.certSecret) := held (by simp)
  have limits : Holds _ "limits" (some m.limits.toJson) := held (by simp)
  unfold ManagementServer.read ManagementServer.toJson Json.fields
  apply record_obj
  simp only [StateT.run_bind, dflt_run_present (r := Reader.string) url rfl,
    dflt_run_unlessEmpty credentials, dflt_run_unlessFalse skip, dflt_run_unlessEmpty cert,
    dflt_run_present limits (ProxyLimits.read_toJson hm)]
  rfl

open Reader Members in
theorem LinkConfig.read_toJson {l : LinkConfig} (hp : l.primary.limits.Exact)
    (hb : l.backup.limits.Exact) : LinkConfig.read l.toJson = .ok l := by
  have held := holds_of_nodup (l := [("primary", l.primary.toJson), ("backup", l.backup.toJson)])
    (by simp)
  have primary : Holds _ "primary" (some l.primary.toJson) := held (by simp)
  have backup : Holds _ "backup" (some l.backup.toJson) := held (by simp)
  unfold LinkConfig.read LinkConfig.toJson
  apply record_obj
  simp only [StateT.run_bind, req_run_present primary (ManagementServer.read_toJson hp),
    dflt_run_present backup (ManagementServer.read_toJson hb)]
  rfl

open Reader Members in
theorem StorageArray.read_toJson (a : StorageArray) : StorageArray.read a.toJson = .ok a := by
  have held := holds_fields (l := [("storageArrayId", some (.str a.storageArrayId)),
    ("primaryURL", some (.str a.primaryUrl)), ("backupURL", Json.unlessEmpty a.backupUrl),
    ("proxyCredentialSecrets", some (Json.strs a.proxyCredentialSecrets))]) (by simp)
  have id : Holds _ "storageArrayId" (some (.str a.storageArrayId)) := held (by simp)
  have primary : Holds _ "primaryURL" (some (.str a.primaryUrl)) := held (by simp)
  have backup : Holds _ "backupURL" (Json.unlessEmpty a.backupUrl) := held (by simp)
  have secrets : Holds _ "proxyCredentialSecrets" (some (Json.strs a.proxyCredentialSecrets)) :=
    held (by simp)
  unfold StorageArray.read StorageArray.toJson Json.fields
  apply record_obj
  simp only [StateT.run_bind, req_run_present (r := Reader.string) id rfl,
    req_run_present (r := Reader.string) primary rfl, dflt_run_unlessEmpty backup,
    dflt_run_present secrets (strs_map_str _)]
  rfl

/-- A stand-alone configuration whose servers' limits are of 32 bits. -/
def StandAloneConfig.Exact (c : StandAloneConfig) : Prop :=
  ∀ m ∈ c.managementServers, m.limits.Exact

open Reader Members in
theorem StandAloneConfig.read_toJson {c : StandAloneConfig} (hc : c.Exact) :
    StandAloneConfig.read c.toJson = .ok c := by
  have held := holds_of_nodup (l := [("storageArrays", .arr (c.storageArrays.map StorageArray.toJson)),
    ("managementServers", .arr (c.managementServers.map ManagementServer.toJson))]) (by simp)
  have arrays : Holds _ "storageArrays" (some (.arr (c.storageArrays.map StorageArray.toJson))) :=
    held (by simp)
  have servers : Holds _ "managementServers"
      (some (.arr (c.managementServers.map ManagementServer.toJson))) := held (by simp)
  unfold StandAloneConfig.read StandAloneConfig.toJson
  apply record_obj
  simp only [StateT.run_bind,
    dflt_run_present arrays (list_map_of_mem fun a _ => StorageArray.read_toJson a),
    dflt_run_present servers (list_map_of_mem fun m hm => ManagementServer.read_toJson (hc m hm))]
  rfl

/-- A proxy configuration as its types hold it: a port and request limits of 32 bits. -/
structure ProxyConfig.Exact (c : ProxyConfig) : Prop where
  port : FitsI32 c.port
  linkConfig : ∀ l ∈ c.linkConfig, l.primary.limits.Exact ∧ l.backup.limits.Exact
  standAloneConfig : ∀ sa ∈ c.standAloneConfig, sa.Exact

open Reader Members in
theorem ProxyConfig.read_toJson {c : ProxyConfig} (hc : c.Exact) :
    ProxyConfig.read c.toJson = .ok c := by
  have held := holds_fields (l := [("mode", Json.unlessEmpty c.mode),
    ("port", Json.unlessZero c.port), ("linkConfig", c.linkConfig.map LinkConfig.toJson),
    ("standAloneConfig", c.standAloneConfig.map StandAloneConfig.toJson)]) (by simp)
  have mode : Holds _ "mode" (Json.unlessEmpty c.mode) := held (by simp)
  have port : Holds _ "port" (Json.unlessZero c.port) := held (by simp)
  have link : Holds _ "linkConfig" (c.linkConfig.map LinkConfig.toJson) := held (by simp)
  have standAlone : Holds _ "standAloneConfig" (c.standAloneConfig.map StandAloneConfig.toJson) :=
    held (by simp)
  unfold ProxyConfig.read ProxyConfig.toJson Json.fields
  apply record_obj
  simp only [StateT.run_bind, dflt_run_unlessEmpty mode, dflt_run_unlessZero port hc.port,
    optNull_run_map link (fun _ => by simp [LinkConfig.toJson]) fun l hl =>
      LinkConfig.read_toJson (hc.linkConfig l hl).1 (hc.linkConfig l hl).2,
    optNull_run_map standAlone (fun _ => by simp [StandAloneConfig.toJson]) fun sa hsa =>
      StandAloneConfig.read_toJson (hc.standAloneConfig sa hsa)]
  rfl

open Reader Members in
theorem ProxySpec.read_toJson {p : ProxySpec} (hp : p.config.Exact) :
    ProxySpec.read p.toJson = .ok p := by
  have held := holds_fields (l := [("image", some (.str p.image)),
    ("imagePullPolicy", Json.unlessEmpty p.imagePullPolicy), ("tlsSecret", some (.str p.tlsSecret)),
    ("config", some p.config.toJson)]) (by simp)
  have image : Holds _ "image" (some (.str p.image)) := held (by simp)
  have policy : Holds _ "imagePullPolicy" (Json.unlessEmpty p.imagePullPolicy) := held (by simp)
  have tls : Holds _ "tlsSecret" (some (.str p.tlsSecret)) := held (by simp)
  have config : Holds _ "config" (some p.config.toJson) := held (by simp)
  unfold ProxySpec.read ProxySpec.toJson Json.fields
  apply record_obj
  simp only [StateT.run_bind, req_run_present (r := Reader.string) image rfl,
    dflt_run_unlessEmpty policy, req_run_present (r := Reader.string) tls rfl,
    req_run_present config (ProxyConfig.read_toJson hp)]
  rfl

/-- A proxy resource as its types hold it: metadata in the form the metadata schema writes it,
an exact configuration, and a status its document writes exactly. -/
structure ProxyResource.Exact (r : ProxyResource) : Prop where
  metadata : Kube.Schema.read Kube.objectMeta r.metadata = .ok r.metadata
  config : r.spec.config.Exact
  status : ∀ st ∈ r.status, st.Exact

open Reader Members in
theorem ProxyResource.read_toJson {r : ProxyResource} (hr : r.Exact) :
    ProxyResource.read r.toJson = .ok r := by
  have held := holds_fields (l := [("apiVersion", some (.str ResourceKind.reverseProxy.apiVersion)),
    ("kind", some (.str ResourceKind.reverseProxy.name)), ("metadata", some r.metadata),
    ("spec", some r.spec.toJson), ("status", r.status.map ProxyStatus.toJson)]) (by simp)
  have metadata : Holds _ "metadata" (some r.metadata) := held (by simp)
  have spec : Holds _ "spec" (some r.spec.toJson) := held (by simp)
  have status : Holds _ "status" (r.status.map ProxyStatus.toJson) := held (by simp)
  unfold ProxyResource.read ProxyResource.toJson Json.fields
  apply record_obj
  simp only [StateT.run_bind, dflt_run_present metadata hr.metadata,
    req_run_present spec (ProxySpec.read_toJson hr.config),
    optNull_run_map status (fun _ => by simp [ProxyStatus.toJson]) fun st hst =>
      ProxyStatus.read_toJson (hr.status st hst)]
  rfl

end CsiOperator
