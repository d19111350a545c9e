import CsiOperator.Proofs.EnvStack
import CsiOperator.Proofs.Isolation
import CsiOperator.Spec.Hooks
/-!
Where the driver name is written. The storage and snapshot classes take the name the context
gives; from configuration version `v2` on, the controller's driver-name variable holds that same
name. The first-install hook reads the name from the common variables alone, and the node plugin
from its own layers, so the topologies it pins and the node's variable agree with the context only
when the variable is set once among the common variables and by neither plugin. The CSIDriver
object keeps the default name.
-/

namespace CsiOperator

theorem DriverKind.driverNameEnv_not_credential {k : DriverKind} {envName : String}
    (h : k.driverNameEnv? = some envName) : envName ∉ [k.userEnvName, k.passwordEnvName] := by
  cases k <;> simp [DriverKind.driverNameEnv?] at h
  subst h
  decide +kernel

/-- The driver-name variable is set once among the common variables, with a value, and neither
plugin sets it itself. -/
structure SetOnlyInCommon (d : DriverSpec) (envName value : String) : Prop where
  common : ∃ e, d.common.envs.filter (·.name == envName) = [e] ∧ e.value = some value
  controller : envName ∉ d.controller.envs.map EnvVar.name
  node : envName ∉ d.node.envs.map EnvVar.name

namespace BuildContext

variable (ctx : BuildContext)

section
variable {envName : String} (hname : ctx.family.driverNameEnv? = some envName)
  (hs : ctx.supportsCustomDriverName = true)
include hname hs

theorem adjustEnv_of_name {e : EnvVar} (he : e.name = envName) :
    ctx.adjustEnv e = EnvVar.plain envName (ctx.namespacedDriverName (e.value.getD "")) := by
  have hcred : ctx.pointCredentials e = e := by
    have := DriverKind.driverNameEnv_not_credential hname
    rw [← he] at this
    simp [pointCredentials, this]
  simp [adjustEnv, hcred, renameEnv, hname, hs, he]

theorem find?_containerEnvs_driverName (role : PluginRole) :
    (ctx.containerEnvs role).find? (·.name == envName) =
      (Layer.pick EnvVar.name (ctx.config.driver.envs role) ctx.driver.common.envs
        (ctx.ownEnvs role) envName).map
        fun e => EnvVar.plain envName (ctx.namespacedDriverName (e.value.getD "")) := by
  rw [find?_containerEnvs]
  cases hpick : Layer.pick EnvVar.name (ctx.config.driver.envs role) ctx.driver.common.envs
    (ctx.ownEnvs role) envName with
  | none => rfl
  | some e => simp [adjustEnv_of_name ctx hname hs (Layer.key_of_pick hpick)]

theorem driverName_of_envValue {x : String}
    (h : Validation.envValue ctx.controllerEnvs envName = some x) : ctx.driverName = x := by
  unfold driverName customDriverName
  by_cases hx : x = ctx.family.defaultDriverName
  · simp [hname, hs, h, hx]
  · simp [hname, hs, h, hx]

theorem controllerEnv_holds_driverName {e : EnvVar}
    (h : ctx.controllerEnvs.find? (·.name == envName) = some e) :
    e.value = some ctx.driverName := by
  have hc := find?_containerEnvs_driverName ctx hname hs .controller
  rw [← controllerEnvs, h] at hc
  obtain ⟨p, -, rfl⟩ := Option.map_eq_some_iff.1 hc.symm
  have hval : Validation.envValue ctx.controllerEnvs envName =
      some (ctx.namespacedDriverName (p.value.getD "")) := by
    simp [Validation.envValue, h, EnvVar.plain]
  simp [EnvVar.plain, driverName_of_envValue ctx hname hs hval]

theorem find?_containerEnvs_of_setOnlyInCommon {v : String}
    (hset : SetOnlyInCommon ctx.driver envName v) (role : PluginRole) :
    (ctx.containerEnvs role).find? (·.name == envName) =
      some (EnvVar.plain envName (ctx.namespacedDriverName v)) := by
  obtain ⟨e, hfilter, hv⟩ := hset.common
  -- neither plugin's own layer names the variable, so the common entry is the one picked
  have hown : Layer.lastWith EnvVar.name (ctx.ownEnvs role) envName = none := by
    rw [Layer.lastWith_eq_none]
    cases role
    · exact hset.controller
    · exact hset.node
  have hpick : Layer.pick EnvVar.name (ctx.config.driver.envs role) ctx.driver.common.envs
      (ctx.ownEnvs role) envName = some e := by
    rw [Layer.pick, hown, Option.none_or]
    simp [Layer.lastWith, hfilter]
  rw [find?_containerEnvs_driverName ctx hname hs, hpick, Option.map_some, hv, Option.getD_some]

theorem driverName_of_setOnlyInCommon {v : String} (hset : SetOnlyInCommon ctx.driver envName v) :
    ctx.driverName = ctx.namespacedDriverName v := by
  apply driverName_of_envValue ctx hname hs
  simp [Validation.envValue, controllerEnvs,
    find?_containerEnvs_of_setOnlyInCommon ctx hname hs hset .controller, EnvVar.plain]

end

theorem powermaxDriverName_eq {r : DriverResource} (config : ResolvedConfig) (openshift : Bool)
    {ns v : String} (hfam : r.family = .powerMax) (hns : r.namespace? = some ns)
    (h : Validation.envValue r.spec.common.envs "X_CSI_POWERMAX_DRIVER_NAME" = some v) :
    Hooks.powermaxDriverName r.spec ns =
      (BuildContext.ofResource r config openshift).namespacedDriverName v := by
  by_cases hv : v = DriverKind.powerMax.defaultDriverName
  · simp [Hooks.powermaxDriverName, namespacedDriverName, ofResource, DriverKind.driverNameEnv?,
      Option.filter_some, hfam, h, hv]
  · simp [Hooks.powermaxDriverName, namespacedDriverName, ofResource, DriverKind.driverNameEnv?,
      Option.filter_some, hfam, hns, h, hv]

/-- Where the PowerMax driver name is written. The storage and snapshot classes carry the name
the context gives, and the CSIDriver object the default name. From configuration version `v2`
on, the controller's driver-name variable, where there is one, holds the driver name; and when
the resource names its namespace and the variable is set once among the common variables with a
value and by neither plugin, the first-install hook pins topologies with the driver name and
the node plugin's variable holds it too. -/
theorem driverName_written (r : DriverResource) (config : ResolvedConfig) (openshift : Bool)
    (dummy : Json) (hfam : r.family = .powerMax) :
    let ctx := BuildContext.ofResource r config openshift
    let envName := "X_CSI_POWERMAX_DRIVER_NAME"
    (∀ d ∈ Build.storageClasses ctx dummy, d.strD "provisioner" = ctx.driverName) ∧
      (∀ d ∈ Build.snapshotClasses ctx dummy, d.strD "driver" = ctx.driverName) ∧
      Cluster.keyOf .csiDriver (Build.csiDriver ctx dummy) =
        Cluster.keyFor .csiDriver none DriverKind.powerMax.defaultDriverName ∧
      (config.configVersion ≠ "v1" →
        (∀ e, ctx.controllerEnvs.find? (·.name == envName) = some e →
          e.value = some ctx.driverName) ∧
        ∀ ns v, r.namespace? = some ns → SetOnlyInCommon r.spec envName v →
          (Hooks.defaultPowermaxTopologies r.spec ns).2.storageClass =
            r.spec.storageClass.map (fun sc => (Hooks.pinClass ctx.driverName sc).2) ∧
          ctx.nodeEnvs.find? (·.name == envName) = some (EnvVar.plain envName ctx.driverName)) := by
  intro ctx envName
  have hname : ctx.family.driverNameEnv? = some envName := by
    simp [ctx, ofResource, hfam, DriverKind.driverNameEnv?, envName]
  refine ⟨fun d hd => ?_, fun d hd => ?_, ?_, fun hv => ?_⟩
  · obtain ⟨-, -, -, h⟩ := Sync.storageClasses_named ctx dummy d hd
    exact h
  · obtain ⟨-, -, -, h⟩ := Sync.snapshotClasses_named ctx dummy d hd
    exact h
  · rw [Sync.keyOf_csiDriver]
    simp [Sync.csiDriverKey, ctx, ofResource, hfam]
  have hs : ctx.supportsCustomDriverName = true := by
    simp only [supportsCustomDriverName, hname, Option.isSome_some, Bool.true_and, bne_iff_ne, ne_eq]
    exact hv
  refine ⟨fun e he => controllerEnv_holds_driverName ctx hname hs he, fun ns v hns hset => ?_⟩
  have hdriver := driverName_of_setOnlyInCommon ctx hname hs hset
  -- the hook reads the first common entry, which is the only one
  have hvalue : Validation.envValue r.spec.common.envs envName = some v := by
    obtain ⟨e, hfilter, hev⟩ := hset.common
    simp [Validation.envValue, ← List.head?_filter, hfilter, hev]
  have hhook : Hooks.powermaxDriverName r.spec ns = ctx.driverName := by
    rw [hdriver]
    exact powermaxDriverName_eq config openshift hfam hns hvalue
  refine ⟨by simp [Hooks.defaultPowermaxTopologies, hhook], ?_⟩
  rw [find?_nodeEnvs ctx (by decide), find?_containerEnvs_of_setOnlyInCommon ctx hname hs hset,
    hdriver]

/-- A storage class of array `000` that binds on first consumer and has no topology. -/
def pinnableClass : StorageClassSpec :=
  { name := "bronze", parameters := [("SYMID", "000")], volumeBindingMode := "WaitForFirstConsumer" }

/-- A PowerMax resource in namespace `storage` whose driver-name variable is `a` among the
common variables, `b` for the controller and `c` for the node plugin, with that class. -/
def splitNameResource : DriverResource :=
  { family := .powerMax
    metadata := .obj [("name", .str "powermax"), ("namespace", .str "storage")]
    spec :=
      { configVersion := "v4"
        common := { envs := [EnvVar.plain "X_CSI_POWERMAX_DRIVER_NAME" "a"] }
        controller := { envs := [EnvVar.plain "X_CSI_POWERMAX_DRIVER_NAME" "b"] }
        node := { envs := [EnvVar.plain "X_CSI_POWERMAX_DRIVER_NAME" "c"] }
        storageClass := [pinnableClass] } }

theorem splitName_driverName_written :
    let r := splitNameResource
    let config : ResolvedConfig := { configVersion := "v4" }
    r.family = .powerMax ∧
      let ctx := BuildContext.ofResource r config false
      let envName := "X_CSI_POWERMAX_DRIVER_NAME"
      (∀ d ∈ Build.storageClasses ctx .null, d.strD "provisioner" = ctx.driverName) ∧
        (∀ d ∈ Build.snapshotClasses ctx .null, d.strD "driver" = ctx.driverName) ∧
        Cluster.keyOf .csiDriver (Build.csiDriver ctx .null) =
          Cluster.keyFor .csiDriver none DriverKind.powerMax.defaultDriverName ∧
        (config.configVersion ≠ "v1" →
          (∀ e, ctx.controllerEnvs.find? (·.name == envName) = some e →
            e.value = some ctx.driverName) ∧
          ∀ ns v, r.namespace? = some ns → SetOnlyInCommon r.spec envName v →
            (Hooks.defaultPowermaxTopologies r.spec ns).2.storageClass =
              r.spec.storageClass.map (fun sc => (Hooks.pinClass ctx.driverName sc).2) ∧
            ctx.nodeEnvs.find? (·.name == envName) = some (EnvVar.plain envName ctx.driverName)) :=
  ⟨rfl, driverName_written splitNameResource { configVersion := "v4" } false .null rfl⟩

/-- With the variable set differently in each layer, the names part: the driver registers as
the controller's `storage.b.dellemc.com`, the first-install hook pins topologies under the
common `storage.a.dellemc.com`, the node plugin is told `storage.c.dellemc.com`, and the
CSIDriver object keeps the default name. -/
theorem driverName_split_by_layers :
    let r := splitNameResource
    let ctx := BuildContext.ofResource r { configVersion := "v4" } false
    ctx.driverName = "storage.b.dellemc.com" ∧
      (Hooks.defaultPowermaxTopologies r.spec "storage").2.storageClass =
        r.spec.storageClass.map (fun sc => (Hooks.pinClass "storage.a.dellemc.com" sc).2) ∧
      (Hooks.defaultPowermaxTopologies r.spec "storage").1 = true ∧
      ctx.nodeEnvs.find? (·.name == "X_CSI_POWERMAX_DRIVER_NAME") =
        some (EnvVar.plain "X_CSI_POWERMAX_DRIVER_NAME" "storage.c.dellemc.com") ∧
      ctx.family.defaultDriverName ≠ ctx.driverName := by
  decide +kernel

end BuildContext

end CsiOperator
