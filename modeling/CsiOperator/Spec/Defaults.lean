import CsiOperator.Config.Resolved
import CsiOperator.Config.Catalog
import CsiOperator.Resource.Driver
/-!
Filling the gaps of a driver spec from its resolved configuration, before validation: sidecar
and init-container images, pull policies, storage class attributes, and the annotation that
records which configuration version the resource was last initialized with.

Sidecar images are also recorded in annotations, with whether each is the default. When the
resource is being upgraded (it was initialized with another configuration version), sidecars
are reset to the default images.
-/

namespace CsiOperator.Defaults

/-- The annotation that records the configuration version. -/
def configVersionKey : String := "storage.dell.com/CSIDriverConfigVersion"

/-- The annotation that records a sidecar's image. -/
def imageKey (sidecar : String) : String := "storage.dell.com/" ++ sidecar ++ ".Image"

/-- The annotation that records whether a sidecar's image is the default. -/
def imageDefaultKey (sidecar : String) : String :=
  "storage.dell.com/" ++ sidecar ++ ".Image.IsDefault"

/-- The pull policy of containers that do not name one. -/
def pullPolicy : String := "IfNotPresent"

/-- The binding mode of storage classes that do not name one. -/
def volumeBindingMode : String := "Immediate"

/-- Annotations, sorted by key. -/
abbrev Annotations := List (String × String)

/-- Sets an annotation. -/
def annotate (as : Annotations) (key value : String) : Annotations := Reader.insertSorted key value as

/-- Records the configuration version; says whether the annotation changed. An empty version
is refused. -/
def annotateConfigVersion (as : Annotations) (version : String) : Outcome (Bool × Annotations) :=
  if version.isEmpty then .error (.invalid "mandatory argument: ConfigVersion missing")
  else match as.lookup configVersionKey with
    | some current => if current == version then .ok (false, as)
      else .ok (true, annotate as configVersionKey version)
    | none => .ok (true, annotate as configVersionKey version)

/-- Whether the resource is being upgraded: it was initialized with another configuration
version. A resource without annotations counts as upgraded when its controller runs with
more than one replica. -/
def isUpgrade (as : Annotations) (c : ResolvedConfig) : Bool :=
  if as.isEmpty then c.controllerHA
  else match as.lookup configVersionKey with
    | some v => !v.isEmpty && v != c.configVersion
    | none => false

/-- Records a sidecar's image as the default. -/
def markDefault (as : Annotations) (s : ContainerTemplate) : Annotations :=
  annotate (annotate as (imageDefaultKey s.name) "true") (imageKey s.name) s.image

/-- Fills in one sidecar's image and pull policy. -/
def defaultSidecar (c : ResolvedConfig) (upgrade : Bool) (as : Annotations) (s : ContainerTemplate) :
    Outcome (ContainerTemplate × Annotations) := do
  if (c.driver.sidecar? s.name).isNone then return (s, as)
  let image ← c.imageTag s.name
  let (s, as) :=
    if s.image.isEmpty then
      let s := { s with image }
      (s, markDefault as s)
    else if s.image != image then
      if upgrade then
        let s := { s with image }
        (s, markDefault as s)
      else
        (s, annotate (annotate as (imageDefaultKey s.name) "false") (imageKey s.name) s.image)
    else (s, markDefault as s)
  let s := if s.imagePullPolicy.isEmpty then { s with imagePullPolicy := pullPolicy } else s
  pure (s, as)

/-- Adds a mandatory sidecar to the sidecars, with its default image recorded, unless one of
that name is there or the sidecar has no default image. -/
def addMandatory (c : ResolvedConfig) (acc : List ContainerTemplate × Annotations) (name : String) :
    List ContainerTemplate × Annotations :=
  if acc.1.any (·.name == name) then acc
  else match c.imageTag name with
    | .error _ => acc
    | .ok image =>
      let s : ContainerTemplate := { name, image, imagePullPolicy := pullPolicy }
      (acc.1 ++ [s], markDefault acc.2 s)

/-- Fills in the sidecars, then adds each mandatory sidecar that is missing and has a default
image. -/
def defaultSidecars (d : DriverSpec) (as : Annotations) (c : ResolvedConfig) (upgrade : Bool) :
    Outcome (DriverSpec × Annotations) := do
  let (sidecars, as) ← d.sideCars.foldlM (fun (acc, as) s => do
    let (s, as) ← defaultSidecar c upgrade as s
    pure (acc ++ [s], as)) ([], as)
  let (sidecars, as) := c.driver.mandatorySidecars.foldl (addMandatory c) (sidecars, as)
  pure ({ d with sideCars := sidecars }, as)

/-- Fills in the images and pull policies of init containers. -/
def defaultInitContainers (d : DriverSpec) (c : ResolvedConfig) : Outcome DriverSpec := do
  let inits ← d.initContainers.mapM fun i => do
    let i ← if i.image.isEmpty then do pure { i with image := ← c.imageTag i.name } else pure i
    pure (if i.imagePullPolicy.isEmpty then { i with imagePullPolicy := pullPolicy } else i)
  pure { d with initContainers := inits }

/-- Fills in the expansion and binding mode of storage classes. On an upgrade the configured
binding mode is not applied. -/
def defaultStorageClasses (d : DriverSpec) (c : ResolvedConfig) (upgrade : Bool) : DriverSpec :=
  let expansion := (c.driver.storageClassAttr? "allowVolumeExpansion").bind Json.bool?
  let bindingMode := (c.driver.storageClassAttr? "volumeBindingMode").bind Json.str?
  let fill (sc : StorageClassSpec) : StorageClassSpec :=
    let sc := if sc.allowVolumeExpansion.isNone then { sc with allowVolumeExpansion := expansion } else sc
    let sc := if sc.volumeBindingMode.isEmpty && !upgrade then
        match bindingMode with
        | some mode => { sc with volumeBindingMode := mode }
        | none => sc
      else sc
    if sc.volumeBindingMode.isEmpty then { sc with volumeBindingMode := volumeBindingMode } else sc
  { d with storageClass := d.storageClass.map fill }

/-- The annotations of a resource, if it has any. -/
def annotationsOf (r : DriverResource) : Option Annotations :=
  (r.metadata.get? "annotations").map fun j =>
    j.strMembers.foldl (fun acc (k, v) => annotate acc k v) []

/-- Applies the configuration's defaults to a resource; says whether its annotations changed.
The spec may change as well, and a recorded error message is cleared. -/
def initializeSpec (r : DriverResource) (c : ResolvedConfig) : Outcome (Bool × DriverResource) := do
  let given := annotationsOf r
  let as := given.getD []
  let upgrade := isUpgrade as c
  let (d, as') ← defaultSidecars r.spec as c upgrade
  let d ← defaultInitContainers d c
  let d := defaultStorageClasses d c upgrade
  let (_, as') ← annotateConfigVersion as' d.configVersion
  let updated := given.isNone || as' != as
  let status := r.status.map fun s => { s with lastUpdate := { s.lastUpdate with errorMessage := "" } }
  pure (updated, { r with spec := d, metadata := r.metadata.set "annotations" (Json.strMap as'), status })

end CsiOperator.Defaults
