import CsiOperator.Kube.Env
/-!
Layering user values over driver defaults.

Every layering follows one rule: an entry of the new list replaces, in place, the first entry
of the list built so far that matches it, and a new entry that matches none is appended.
Variables, volumes and mounts match by name; arguments match by the part before the first
`=`; tolerations match only when equal.
-/

namespace CsiOperator.Layer

/-- Puts one entry into a list: over the first entry it matches, or at the end. -/
def put {α : Type} (same : α → α → Bool) (merged : List α) (item : α) : List α :=
  match merged.findIdx? (same · item) with
  | some i => merged.set i item
  | none => merged ++ [item]

/-- Layers `new` over `source`, entry by entry. -/
def mergeBy {α : Type} (same : α → α → Bool) (source new : List α) : List α :=
  new.foldl (put same) source

/-- The name of an argument: the part before its first `=`. -/
def argName (arg : String) : String := (arg.splitOn "=").headD arg

/-- Layers environment variables. -/
def envs (source new : List EnvVar) : List EnvVar := mergeBy (fun a b => a.name == b.name) source new

/-- Layers volumes, given as documents. -/
def volumes (source new : List Json) : List Json :=
  mergeBy (fun a b => a.strD "name" == b.strD "name") source new

/-- Layers volume mounts, given as documents. -/
def volumeMounts (source new : List Json) : List Json := volumes source new

/-- Layers tolerations. -/
def tolerations (source new : List Toleration) : List Toleration := mergeBy (· == ·) source new

/-- Layers arguments. -/
def args (source new : List String) : List String :=
  mergeBy (fun a b => argName a == argName b) source new

/-- Points the secret references of the named variables at a secret; variables that do not
take their value from a secret are left alone. -/
def patchSecretRefs (envs : List EnvVar) (names : List String) (secret : String) : List EnvVar :=
  envs.map fun e =>
    if names.contains e.name then
      match e.valueFrom with
      | some src =>
        match src.secretKeyRef with
        | some r => { e with valueFrom := some { src with secretKeyRef := some { r with name := some secret } } }
        | none => e
      | none => e
    else e

/-- Sets a variable to a plain value: the first variable of that name, which loses any other
source, or a new one at the end. -/
def setEnv (envs : List EnvVar) (name value : String) : List EnvVar :=
  match envs.findIdx? (·.name == name) with
  | some i => envs.modify i fun e => { e with value := some value, valueFrom := none }
  | none => envs ++ [EnvVar.plain name value]

end CsiOperator.Layer
