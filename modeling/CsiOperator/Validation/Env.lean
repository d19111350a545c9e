import CsiOperator.Config.Resolved
/-!
Checks of the environment variables a user sets for a plugin: every variable the
configuration marks mandatory must be set to a non-empty value, and every variable must suit
its declared type.
-/

namespace CsiOperator.Validation

/-- The value of the first variable with a name, if it has one. -/
def envValue (envs : List EnvVar) (name : String) : Option String :=
  (envs.find? (·.name == name)).bind (·.value)

/-- Checks that each mandatory variable is given a value. -/
def checkMandatory (envs : List EnvVar) : List String → Outcome Unit
  | [] => .ok ()
  | name :: rest =>
    match envs.find? (·.name == name) with
    | none => .error (.invalid ("mandatory Env - " ++ name ++ " not specified in user spec"))
    | some env =>
      if (env.value.getD "").isEmpty then
        .error (.invalid ("value for mandatory Env - " ++ name ++ " not specified in user spec"))
      else checkMandatory envs rest

/-- Checks the variables a user sets for a plugin against the configuration. -/
def validateUserEnvs (config : ResolvedConfig) (envs : List EnvVar) (role : PluginRole)
    (strict : Bool) : Outcome Unit := do
  checkMandatory envs (config.driver.mandatoryEnvNames role)
  envs.forM fun env => config.driver.validateEnvType env strict

end CsiOperator.Validation
