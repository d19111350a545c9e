import CsiOperator.Kube.Env
import CsiOperator.Json.Decode
/-!
The environment variables a driver configuration declares: the type of value each one takes,
whether it is mandatory, which plugin (controller or node) gets it, and its default value. A
default of a reference type names a pod field or a secret key as `first/second` and becomes a
`valueFrom` source; any other default becomes a plain value.

`EnvValueType.accepts` says which texts a type takes: booleans in any letter case, signed
64-bit decimal integers, and decimal floating-point numbers (also `inf`, `infinity`, `nan`).
-/

namespace CsiOperator

/-- The plugin a container belongs to. -/
inductive PluginRole where
  | controller
  | node
deriving DecidableEq, Repr, Inhabited

/-- The role's name. -/
def PluginRole.name : PluginRole → String
  | .controller => "controller"
  | .node => "node"

/-- The type of value an environment variable takes. -/
inductive EnvValueType where
  | string
  | boolean
  | list
  | int
  | float
  | fieldReference
  | secretReference
  | unknown
deriving DecidableEq, Repr, Inhabited

namespace EnvValueType

/-- Every type. -/
def all : List EnvValueType :=
  [.string, .boolean, .list, .int, .float, .fieldReference, .secretReference, .unknown]

/-- The type's name in a driver configuration. -/
def name : EnvValueType → String
  | .string => "String"
  | .boolean => "Boolean"
  | .list => "List"
  | .int => "Int"
  | .float => "FloatType"
  | .fieldReference => "EnvVarReferenceType"
  | .secretReference => "EnvSecretReference"
  | .unknown => "Unknown"

/-- The type with a name; any other name is the unknown type. -/
def ofName (s : String) : EnvValueType := (all.find? (·.name == s)).getD .unknown

/-- Whether a text is a run of decimal digits. -/
def digits (cs : List Char) : Bool := !cs.isEmpty && cs.all Char.isDigit

/-- Drops one leading sign. -/
def dropSign : List Char → List Char
  | '+' :: r | '-' :: r => r
  | r => r

/-- Whether a text is a signed decimal integer within 64 bits. -/
def isInt64 (s : String) : Bool :=
  let cs := s.toList
  let neg := cs.head? == some '-'
  let body := dropSign cs
  digits body &&
    (let n := body.foldl (fun n c => n * 10 + (c.toNat - '0'.toNat)) 0
     if neg then n ≤ 9223372036854775808 else n ≤ 9223372036854775807)

/-- Whether a text is a decimal floating-point number: a mantissa with digits on at least one
side of an optional point, an optional exponent, or one of `inf`, `infinity`, `nan` in any
letter case; a sign may lead. -/
def isFloat (s : String) : Bool :=
  let body := dropSign s.toList
  let lower := String.ofList (body.map Char.toLower)
  if lower = "inf" || lower = "infinity" || lower = "nan" then true
  else
    let intPart := body.takeWhile Char.isDigit
    let rest := body.dropWhile Char.isDigit
    let (fracPart, rest) := match rest with
      | '.' :: r => (r.takeWhile Char.isDigit, r.dropWhile Char.isDigit)
      | r => ([], r)
    let mantissaOk := !intPart.isEmpty || !fracPart.isEmpty
    let expOk := match rest with
      | [] => true
      | c :: r => (c = 'e' || c = 'E') && digits (dropSign r)
    mantissaOk && expOk

/-- Whether a value of this type may be the text `value`. -/
def accepts : EnvValueType → String → Bool
  | .string, _ | .list, _ => true
  | .boolean, v => let l := String.ofList (v.toList.map Char.toLower); l = "true" || l = "false"
  | .int, v => isInt64 v
  | .float, v => isFloat v
  | .fieldReference, _ | .secretReference, _ | .unknown, _ => false

/-- Reads a type by name; unknown names read as the unknown type. -/
def read : Reader EnvValueType
  | .str s => .ok (ofName s)
  | j => Reader.wrongType j "string or map"

end EnvValueType

/-- An environment variable declared by a driver configuration. -/
structure DriverEnv where
  name : String
  mandatory : Bool := false
  type : EnvValueType := .unknown
  forController : Bool := false
  forNode : Bool := false
  controllerDefault : String := ""
  nodeDefault : String := ""
deriving DecidableEq, Repr, Inhabited

/-- Splits a reference `first/second` into its two parts; any other text has none. -/
def splitReference (s : String) : Option (String × String) :=
  match s.splitOn "/" with
  | [a, b] => some (a, b)
  | _ => none

namespace DriverEnv

/-- Whether the variable is set for a plugin. -/
def appliesTo (e : DriverEnv) : PluginRole → Bool
  | .controller => e.forController
  | .node => e.forNode

/-- The variable's default value for a plugin. -/
def defaultFor (e : DriverEnv) : PluginRole → String
  | .controller => e.controllerDefault
  | .node => e.nodeDefault

/-- The container variable for a plugin: a reference default becomes a field or secret-key
source, and a malformed reference gives no variable at all. -/
def toEnvVar (e : DriverEnv) (role : PluginRole) : Option EnvVar :=
  let d := e.defaultFor role
  match e.type with
  | .fieldReference => (splitReference d).map fun (apiVersion, fieldPath) =>
      { name := e.name, valueFrom := some { fieldRef := some { apiVersion := some apiVersion, fieldPath } } }
  | .secretReference => (splitReference d).map fun (key, secret) =>
      { name := e.name, valueFrom := some { secretKeyRef := some { key, name := some secret } } }
  | _ => some (EnvVar.plain e.name d)

/-- Reads a declared variable. -/
def read : Reader DriverEnv := Reader.record "struct DriverEnv" fun ms => do
  pure {
    name := ← Reader.req ms "Name" Reader.string
    mandatory := ← Reader.dflt ms "Mandatory" false Reader.bool
    type := ← Reader.dflt ms "CSIEnvType" .unknown EnvValueType.read
    forController := ← Reader.dflt ms "SetForController" false Reader.bool
    forNode := ← Reader.dflt ms "SetForNode" false Reader.bool
    controllerDefault := ← Reader.dflt ms "DefaultValueForController" "" Reader.string
    nodeDefault := ← Reader.dflt ms "DefaultValueForNode" "" Reader.string }

/-- The document of a declared variable. -/
def toJson (e : DriverEnv) : Json :=
  .obj [("Name", .str e.name), ("Mandatory", .bool e.mandatory), ("CSIEnvType", .str e.type.name),
    ("SetForController", .bool e.forController), ("SetForNode", .bool e.forNode),
    ("DefaultValueForController", .str e.controllerDefault),
    ("DefaultValueForNode", .str e.nodeDefault)]

end DriverEnv

end CsiOperator
