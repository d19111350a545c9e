import CsiOperator.Spec.Defaults
import CsiOperator.Validation.Env
import CsiOperator.Kube.Layer
import CsiOperator.Net.SocketAddr
/-!
Family-specific initialization and checks of driver specs.

PowerMax storage classes bound on first consumer are pinned to the nodes that reach their
array, and older configuration versions refuse topologies. Unity array credentials and
storage class parameters are checked. VxFlexOS MDM addresses are normalized and shared with
the SDC monitor, whose `HOST_PID` must be 0 or 1.
-/

namespace CsiOperator.Hooks

/-- The storage class parameter naming a PowerMax array. -/
def symIdParam : String := "SYMID"

/-- The binding mode that delays binding to the first consumer. -/
def waitForFirstConsumer : String := "WaitForFirstConsumer"

/-- The variable that lists the MDM addresses. -/
def mdmEnv : String := "MDM"

/-- The variable that says whether the SDC monitor shares the host's process space. -/
def hostPidEnv : String := "HOST_PID"

/-- The storage class parameter giving a Unity tiering policy. -/
def tieringPolicyParam : String := "tieringPolicy"

/-! ## PowerMax -/

/-- The PowerMax driver name: the default, or one made of the namespace and the name the user
gives in the driver-name variable when that differs from the default. -/
def powermaxDriverName (d : DriverSpec) (ns : String) : String :=
  let default := DriverKind.powerMax.defaultDriverName
  let custom := (DriverKind.powerMax.driverNameEnv?.bind (Validation.envValue d.common.envs ·)).filter
    (· != default)
  match custom with
  | some v => ns ++ "." ++ v ++ "." ++ "dellemc.com"
  | none => default

/-- Pins a storage class of an array that binds on first consumer and has no topology to the
nodes that reach the array, for a driver name; says whether it changed. -/
def pinClass (name : String) (sc : StorageClassSpec) : Bool × StorageClassSpec :=
  match sc.parameters.lookup symIdParam with
  | none => (false, sc)
  | some symId =>
    if sc.allowedTopologies.isNone && sc.volumeBindingMode == waitForFirstConsumer then
      let term : TopologyTerm :=
        { matchLabelExpressions := some [{ key := name ++ "/" ++ symId, values := [name] }] }
      (true, { sc with allowedTopologies := some [term] })
    else (false, sc)

/-- Pins each storage class of an array that binds on first consumer and has no topology to
the nodes that reach the array; says whether any class changed. -/
def defaultPowermaxTopologies (d : DriverSpec) (ns : String) : Bool × DriverSpec :=
  let results := d.storageClass.map (pinClass (powermaxDriverName d ns))
  (results.any (·.1), { d with storageClass := results.map (·.2) })

/-- The number of a configuration version: its digits without `v` and dots (`v2.1` is 21). -/
def configVersionNumber (version : String) : Outcome Nat :=
  let digits := String.ofList (version.toList.filter fun c => c != 'v' && c != '.')
  match Yaml.parseRadix 10 false digits.toList with
  | some n => if n ≤ 4294967295 then .ok n.toNat
    else .error (.invalid ("invalid config version: " ++ version))
  | none => .error (.invalid ("invalid config version: " ++ version))

/-- Before configuration version 4, PowerMax storage classes bind immediately and carry no
topology. -/
def validatePowermax (d : DriverSpec) : Outcome Unit := do
  let version ← configVersionNumber d.configVersion
  if version ≥ 4 then return ()
  d.storageClass.forM fun sc => do
    if !sc.volumeBindingMode.isEmpty && sc.volumeBindingMode != "Immediate" then
      throw (.invalid (sc.volumeBindingMode ++
        " is not a supported value for volumeBindingMode in driver config version: " ++ toString version))
    if sc.allowedTopologies.isSome then
      throw (.invalid ("topology is not supported in driver config version: " ++ toString version))

/-! ## Unity -/

/-- One array in the Unity credentials. -/
structure UnityArray where
  arrayId : String := ""
  username : String := ""
  password : String := ""
  restGateway : String := ""
  endpoint : String := ""
  isDefaultArray : Bool := false
  isDefault : Bool := false
deriving Inhabited, Repr

open Yaml.YReader in
/-- Reads the array list of the Unity credentials; JSON text reads as well. -/
def readUnityArrays : Yaml.YReader (List UnityArray) :=
  let array : Yaml.YReader UnityArray :=
    record "struct UnityArray" ["arrayId", "username", "password", "restGateway", "endpoint",
        "isDefaultArray", "isDefault"] fun ms => do
      pure {
        arrayId := ← ms.dflt "arrayId" "" string
        username := ← ms.dflt "username" "" string
        password := ← ms.dflt "password" "" string
        restGateway := ← ms.dflt "restGateway" "" string
        endpoint := ← ms.dflt "endpoint" "" string
        isDefaultArray := ← ms.dflt "isDefaultArray" false bool
        isDefault := ← ms.dflt "isDefault" false bool }
  record "struct UnityArrayList" ["storageArrayList"] fun ms =>
    ms.dflt "storageArrayList" [] (list array)

/-- The message of credentials without arrays. -/
def noArrays : String := "Arrays details are not provided in unity-creds secret"

/-- Checks one array at an index, given the identifiers seen before it and the number of
default arrays so far (this one included). -/
def checkUnityArray (i : Nat) (a : UnityArray) (seen : List String) (defaults : Nat) : Outcome Unit := do
  let invalid (field : String) : OperatorError :=
    .invalid ("invalid value for " ++ field ++ " at index [" ++ toString i ++ "]")
  if a.arrayId.isEmpty then throw (invalid "ArrayID")
  if a.username.isEmpty then throw (invalid "Username")
  if a.password.isEmpty then throw (invalid "Password")
  if a.restGateway.isEmpty && a.endpoint.isEmpty then throw (invalid "RestGateway")
  if seen.contains a.arrayId then
    throw (.invalid ("Duplicate ArrayID [" ++ a.arrayId ++ "] found in storageArrayList parameter"))
  if defaults > 1 then
    throw (.invalid ("'isDefaultArray' parameter located in multiple places ArrayID: " ++ a.arrayId ++
      ". 'isDefaultArray' parameter should present only once in the storageArrayList"))

/-- Checks the array list held in the Unity credentials: at least one array, each with an
identifier, a user, a password and an address, no identifier twice, at most one default. -/
def checkUnityArrays (raw : String) : Outcome Unit := do
  if (Text.trimBlank raw).isEmpty then throw (.invalid noArrays)
  let arrays ← match Yaml.readDocument readUnityArrays raw with
    | .ok l => pure l
    | .error e => throw (.invalid ("Unable to parse the credentials [" ++ e.message ++ "]"))
  if arrays.isEmpty then throw (.invalid noArrays)
  let _ ← arrays.zipIdx.foldlM (fun (seen, defaults) (a, i) => do
    let defaults := if a.isDefaultArray || a.isDefault then defaults + 1 else defaults
    checkUnityArray i a seen defaults
    pure (a.arrayId :: seen, defaults)) (([] : List String), 0)

/-- Checks Unity storage classes: with configuration version `v2` each names a non-empty pool
and array; a tiering policy is 0, 1 or 2. -/
def validateUnityStorageClasses (d : DriverSpec) (instanceName : String) : Outcome Unit :=
  d.storageClass.forM fun sc => do
    if d.configVersion == "v2" then
      for param in ["storagePool", "arrayId"] do
        match sc.parameters.lookup param with
        | none => throw (.invalid (param ++ " paramter is mandatory in StorageClass [" ++ sc.name ++ "]"))
        | some v =>
          if v.isEmpty then
            throw (.invalid (param ++ " paramter should not be empty in StorageClass [" ++ sc.name ++ "]"))
    match sc.parameters.lookup tieringPolicyParam with
    | some policy =>
      match Yaml.parseRadix 10 true policy.toList with
      | some n =>
        if 0 ≤ n ∧ n ≤ 2 then pure ()
        else throw (.invalid ("tieringPolicy should be numeric and values should be 0,1,2 for instance " ++ instanceName))
      | none =>
        throw (.invalid ("tieringPolicy should be numeric and values should be 0,1,2 for instance " ++ instanceName))
    | none => pure ()

/-! ## VxFlexOS -/

/-- Whether a text is a dotted IPv4 address. -/
def isIpv4 (s : String) : Bool :=
  match Net.Scan.ipv4 s.toList with
  | some (_, []) => true
  | _ => false

/-- Trims the entries of a comma-separated MDM list; every entry must be an IPv4 address. -/
def normalizeMdmList (value : String) : Option String :=
  let entries := (value.toList.splitOn ',').map fun piece => Text.trimBlank (String.ofList piece)
  if entries.all isIpv4 then some (",".intercalate entries) else none

/-- Normalizes the MDM list of the SDC init container; gives whether it changed, the
normalized list, and the init containers. -/
def sdcMdm (inits : List ContainerTemplate) : Outcome (Bool × Option String × List ContainerTemplate) :=
  match inits.findIdx? (·.name == Image.sdc) with
  | none => pure (false, none, inits)
  | some ci =>
    let sdc := inits[ci]!
    match sdc.envs.findIdx? (·.name == mdmEnv) with
    | none => pure (false, none, inits)
    | some ei =>
      let env := sdc.envs[ei]!
      match normalizeMdmList (env.value.getD "") with
      | none => throw (.invalid "Invalid MDM value. Ip address should be nummeric and comma separated without space")
      | some normalized =>
        if env.value != some normalized then
          let sdc := { sdc with envs := sdc.envs.set ei { env with value := some normalized } }
          pure (true, some normalized, inits.set ci sdc)
        else pure (false, some normalized, inits)

/-- Gives the SDC's MDM list to the SDC monitor: replaces the monitor's list when it normalizes
to another, or adds a non-empty one; says whether the sidecars changed. -/
def shareMdm (sidecars : List ContainerTemplate) (mdm : Option String) :
    Outcome (Bool × List ContainerTemplate) :=
  match sidecars.findIdx? (·.name == Image.sdcMonitor) with
  | none => pure (false, sidecars)
  | some mi =>
    let monitor := sidecars[mi]!
    match monitor.envs.findIdx? (·.name == mdmEnv) with
    | some ei =>
      let env := monitor.envs[ei]!
      match normalizeMdmList (env.value.getD "") with
      | none => throw (.invalid "Invalid MDM value, ip address should be nummeric, comma separated without space")
      | some existing =>
        match mdm.filter (· != existing) with
        | some m =>
          let monitor := { monitor with envs := monitor.envs.set ei { env with value := some m } }
          pure (true, sidecars.set mi monitor)
        | none => pure (false, sidecars)
    | none =>
      match mdm.filter (!·.isEmpty) with
      | some m =>
        let monitor := { monitor with envs := Layer.setEnv monitor.envs mdmEnv m }
        pure (true, sidecars.set mi monitor)
      | none => pure (false, sidecars)

/-- Normalizes the MDM list of the SDC init container and gives it to the SDC monitor; says
whether the spec changed. -/
def normalizeMdm (d : DriverSpec) : Outcome (Bool × DriverSpec) := do
  let (sdcChanged, mdm, inits) ← sdcMdm d.initContainers
  let (monitorChanged, sidecars) ← shareMdm d.sideCars mdm
  pure (sdcChanged || monitorChanged, { d with initContainers := inits, sideCars := sidecars })

/-- The SDC monitor's `HOST_PID`, when given, is 0 or 1. -/
def validateHostPid (d : DriverSpec) : Outcome Unit :=
  let hostPid := ((d.sideCars.filter (·.name == Image.sdcMonitor)).findSome? fun s =>
    s.envs.find? (·.name == hostPidEnv)).map (·.value.getD "")
  match hostPid with
  | some v => if v != "0" && v != "1" then .error (.invalid "Invalid HOST_PID value, it should be 0 or 1") else .ok ()
  | none => .ok ()

/-! ## By family -/

/-- Family-specific defaults applied after the generic ones; says whether the spec changed.
PowerMax topologies are added only on a first installation. -/
def initializeDriverSpec (r : DriverResource) : Outcome (Bool × DriverResource) :=
  match r.family with
  | .powerMax =>
    let firstInstall := (r.status.map (·.driverHash == 0)).getD true
    if !firstInstall then .ok (false, r)
    else
      let (u, d) := defaultPowermaxTopologies r.spec (r.namespace?.getD "")
      .ok (u, { r with spec := d })
  | .vxFlexOs => do
    let (u, d) ← normalizeMdm r.spec
    pure (u, { r with spec := d })
  | _ => .ok (false, r)

end CsiOperator.Hooks
