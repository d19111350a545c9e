import Mathlib
import CsiOperator.Proofs.FamilyHooks
/-!
Which configurations let a user's variables pass their checks.

The checks of a plugin's variables ask two things: every variable the configuration marks
mandatory for the plugin is set to a non-empty value, and every variable set suits the first
declaration of its name, whichever plugin that declaration is for. Field and secret references
and unknown types take no plain value at all. So some variables pass exactly when the first
declaration of every mandatory variable has a type that takes a non-empty value, and then the
variables that give each declared variable such a value pass (`validateUserEnvs_satisfiable`).
Which chosen values pass is said exactly by `validateUserEnvs_pickedEnvs_iff`.
A configuration that first declares a variable as a reference and then makes it mandatory for
the node refuses every node (`shadowedToken_refuses_node_envs`).
-/

namespace CsiOperator

namespace EnvValueType

/-- A non-empty plain value of a type, for the types that take one. -/
def sample : EnvValueType → Option String
  | .string | .list => some "value"
  | .boolean => some "true"
  | .int | .float => some "0"
  | .fieldReference | .secretReference | .unknown => none

theorem accepts_sample {t : EnvValueType} {v : String} (h : t.sample = some v) :
    t.accepts v = true ∧ v ≠ "" := by
  cases t <;> cases h <;> decide

theorem accepts_eq_false {t : EnvValueType} (h : t.sample = none) (v : String) :
    t.accepts v = false := by
  cases t <;> simp_all [sample, accepts]

end EnvValueType

namespace DriverConfig

/-- The declaration the checks of a variable go by: the first of its name, whichever plugins it
is for. -/
def declaration? (c : DriverConfig) (name : String) : Option DriverEnv :=
  c.driverEnvs.find? (·.name == name)

/-- Variables of a plugin can pass the checks: the first declaration of each variable mandatory
for the plugin has a type that takes a non-empty plain value. -/
def Satisfiable (c : DriverConfig) (role : PluginRole) : Prop :=
  ∀ name ∈ c.mandatoryEnvNames role, ∃ d, c.declaration? name = some d ∧ d.type.sample.isSome

/-- The variables that give each variable declared for a plugin, when the first declaration of
its name has a type that takes a plain value, a non-empty such value. -/
def sampleEnvs (c : DriverConfig) (role : PluginRole) : List EnvVar :=
  (c.driverEnvs.filter (·.appliesTo role)).filterMap fun e =>
    ((c.declaration? e.name).bind (·.type.sample)).map fun v => { name := e.name, value := some v }

variable {c : DriverConfig} {role : PluginRole}

theorem declaration?_isSome {name : String} (h : ∃ e ∈ c.driverEnvs, e.name = name) :
    ∃ d, c.declaration? name = some d := by
  obtain ⟨e, he, rfl⟩ := h
  exact Option.isSome_iff_exists.1 (List.find?_isSome.2 ⟨e, he, beq_self_eq_true _⟩)

theorem declared_of_mandatory {name : String} (h : name ∈ c.mandatoryEnvNames role) :
    ∃ e ∈ c.driverEnvs, e.name = name := by
  obtain ⟨e, he, rfl⟩ := List.mem_map.1 h
  exact ⟨e, (List.mem_filter.1 he).1, rfl⟩

theorem validateEnvType_ok_iff {env : EnvVar} {d : DriverEnv} {strict : Bool}
    (hd : c.declaration? env.name = some d) :
    c.validateEnvType env strict = .ok () ↔
      d.type.accepts (env.value.getD "") = true ∧ (d.mandatory = true → env.value.getD "" ≠ "") := by
  unfold validateEnvType
  rw [show c.driverEnvs.find? (·.name == env.name) = some d from hd]
  dsimp only
  generalize env.value.getD "" = value
  by_cases hempty : value = "" <;> cases d.type.accepts value <;> cases d.mandatory <;>
    simp [hempty, String.isEmpty_iff]

/-- The variables that give each variable declared for a plugin the value a choice makes for its
name, where the choice makes one. -/
def pickedEnvs (c : DriverConfig) (role : PluginRole) (pick : String → Option String) :
    List EnvVar :=
  (c.driverEnvs.filter (·.appliesTo role)).filterMap fun e =>
    (pick e.name).map fun v => { name := e.name, value := some v }

variable {pick : String → Option String}

theorem mem_pickedEnvs {env : EnvVar} :
    env ∈ c.pickedEnvs role pick ↔
      ∃ e ∈ c.driverEnvs, e.appliesTo role = true ∧ ∃ v, pick e.name = some v ∧
        env = { name := e.name, value := some v } := by
  simp only [pickedEnvs, List.mem_filterMap, List.mem_filter, Option.map_eq_some_iff]
  constructor
  · rintro ⟨e, ⟨he, hfor⟩, v, hv, rfl⟩
    exact ⟨e, he, hfor, v, hv, rfl⟩
  · rintro ⟨e, he, hfor, v, hv, rfl⟩
    exact ⟨e, ⟨he, hfor⟩, v, hv, rfl⟩

-- every variable of a name carries the value chosen for it, so the first one found does too
theorem value_of_find?_pickedEnvs {name : String} {env : EnvVar}
    (h : (c.pickedEnvs role pick).find? (·.name == name) = some env) : env.value = pick name := by
  have hname : env.name = name := by simpa using List.find?_some h
  obtain ⟨e, -, -, v, hv, rfl⟩ := mem_pickedEnvs.1 (List.mem_of_find?_eq_some h)
  rw [← hname, hv]

theorem find?_pickedEnvs {e : DriverEnv} (he : e ∈ c.driverEnvs) (hfor : e.appliesTo role = true)
    {v : String} (hv : pick e.name = some v) :
    ∃ env, (c.pickedEnvs role pick).find? (·.name == e.name) = some env ∧ env.value = some v := by
  have hmem : { name := e.name, value := some v } ∈ c.pickedEnvs role pick :=
    mem_pickedEnvs.2 ⟨e, he, hfor, v, hv, rfl⟩
  obtain ⟨env, hfind⟩ := Option.isSome_iff_exists.1
    ((List.find?_isSome (p := fun x : EnvVar => x.name == e.name)).2
      ⟨_, hmem, beq_self_eq_true e.name⟩)
  exact ⟨env, hfind, (value_of_find?_pickedEnvs hfind).trans hv⟩

theorem sampleEnvs_eq_pickedEnvs :
    c.sampleEnvs role = c.pickedEnvs role fun name => (c.declaration? name).bind (·.type.sample) :=
  rfl

end DriverConfig

namespace Validation

theorem checkMandatory_ok_iff {envs : List EnvVar} {names : List String} :
    checkMandatory envs names = .ok () ↔
      ∀ name ∈ names, ∃ env, envs.find? (·.name == name) = some env ∧ env.value.getD "" ≠ "" := by
  induction names with
  | nil => simp [checkMandatory]
  | cons name rest ih =>
    rw [List.forall_mem_cons, ← ih]
    simp only [checkMandatory]
    cases hfind : envs.find? (·.name == name) with
    | none => simp
    | some env =>
      by_cases hempty : env.value.getD "" = "" <;> simp [hempty, String.isEmpty_iff]

theorem validateUserEnvs_ok_iff {config : ResolvedConfig} {envs : List EnvVar} {role : PluginRole}
    {strict : Bool} :
    validateUserEnvs config envs role strict = .ok () ↔
      checkMandatory envs (config.driver.mandatoryEnvNames role) = .ok () ∧
        ∀ env ∈ envs, config.driver.validateEnvType env strict = .ok () := by
  unfold validateUserEnvs
  rw [bind_eq_ok, ← forM_ok_iff]
  constructor
  · rintro ⟨⟨⟩, hmandatory, hforM⟩
    exact ⟨hmandatory, hforM⟩
  · rintro ⟨hmandatory, hforM⟩
    exact ⟨(), hmandatory, hforM⟩

theorem satisfiable_of_validateUserEnvs {config : ResolvedConfig} {envs : List EnvVar}
    {role : PluginRole} {strict : Bool} (h : validateUserEnvs config envs role strict = .ok ()) :
    config.driver.Satisfiable role := by
  obtain ⟨hmandatory, htyped⟩ := validateUserEnvs_ok_iff.1 h
  intro name hname
  obtain ⟨env, hfind, hvalue⟩ := checkMandatory_ok_iff.1 hmandatory name hname
  have hname' : env.name = name := by simpa using List.find?_some hfind
  obtain ⟨d, hd⟩ := DriverConfig.declaration?_isSome (DriverConfig.declared_of_mandatory hname)
  have hacc := ((DriverConfig.validateEnvType_ok_iff (hname' ▸ hd)).1
    (htyped env (List.mem_of_find?_eq_some hfind))).1
  refine ⟨d, hd, ?_⟩
  -- a type without a plain value would have refused the value given
  cases hsample : d.type.sample with
  | none => rw [EnvValueType.accepts_eq_false hsample] at hacc; cases hacc
  | some _ => rfl

theorem checkMandatory_pickedEnvs_iff {config : ResolvedConfig} {role : PluginRole}
    {pick : String → Option String} :
    checkMandatory (config.driver.pickedEnvs role pick) (config.driver.mandatoryEnvNames role) =
        .ok () ↔
      ∀ name ∈ config.driver.mandatoryEnvNames role, ∃ v, pick name = some v ∧ v ≠ "" := by
  rw [checkMandatory_ok_iff]
  refine forall₂_congr fun name hname => ⟨?_, ?_⟩
  · rintro ⟨env, hfind, hvalue⟩
    rw [← DriverConfig.value_of_find?_pickedEnvs hfind]
    cases hv : env.value with
    | none => rw [hv] at hvalue; exact absurd rfl hvalue
    | some v => rw [hv] at hvalue; exact ⟨v, rfl, hvalue⟩
  · rintro ⟨v, hv, hne⟩
    obtain ⟨e, he, rfl⟩ := List.mem_map.1 hname
    have hflags := (List.mem_filter.1 he).2
    simp only [Bool.and_eq_true] at hflags
    obtain ⟨env, hfind, hvalue⟩ :=
      DriverConfig.find?_pickedEnvs (List.mem_filter.1 he).1 hflags.2 hv
    refine ⟨env, hfind, ?_⟩
    rw [hvalue]
    exact hne

theorem validateEnvType_pickedEnvs_iff {config : ResolvedConfig} {role : PluginRole}
    {pick : String → Option String} {strict : Bool} :
    (∀ env ∈ config.driver.pickedEnvs role pick, config.driver.validateEnvType env strict = .ok ()) ↔
      ∀ e ∈ config.driver.driverEnvs, e.appliesTo role = true → ∀ v, pick e.name = some v →
        ∃ d, config.driver.declaration? e.name = some d ∧ d.type.accepts v = true ∧
          (d.mandatory = true → v ≠ "") := by
  constructor
  · intro h e he hfor v hv
    obtain ⟨d, hd⟩ := DriverConfig.declaration?_isSome ⟨e, he, rfl⟩
    exact ⟨d, hd, (DriverConfig.validateEnvType_ok_iff hd).1
      (h _ (DriverConfig.mem_pickedEnvs.2 ⟨e, he, hfor, v, hv, rfl⟩))⟩
  · intro h env henv
    obtain ⟨e, he, hfor, v, hv, rfl⟩ := DriverConfig.mem_pickedEnvs.1 henv
    obtain ⟨d, hd, hchecked⟩ := h e he hfor v hv
    exact (DriverConfig.validateEnvType_ok_iff hd).2 hchecked

theorem validateUserEnvs_pickedEnvs_iff {config : ResolvedConfig} {role : PluginRole}
    {pick : String → Option String} {strict : Bool} :
    validateUserEnvs config (config.driver.pickedEnvs role pick) role strict = .ok () ↔
      (∀ name ∈ config.driver.mandatoryEnvNames role, ∃ v, pick name = some v ∧ v ≠ "") ∧
        ∀ e ∈ config.driver.driverEnvs, e.appliesTo role = true → ∀ v, pick e.name = some v →
          ∃ d, config.driver.declaration? e.name = some d ∧ d.type.accepts v = true ∧
            (d.mandatory = true → v ≠ "") := by
  rw [validateUserEnvs_ok_iff, checkMandatory_pickedEnvs_iff, validateEnvType_pickedEnvs_iff]

theorem validateUserEnvs_sampleEnvs {config : ResolvedConfig} {role : PluginRole} (strict : Bool)
    (hsat : config.driver.Satisfiable role) :
    validateUserEnvs config (config.driver.sampleEnvs role) role strict = .ok () := by
  rw [DriverConfig.sampleEnvs_eq_pickedEnvs, validateUserEnvs_pickedEnvs_iff]
  refine ⟨fun name hname => ?_, fun e _ _ v hv => ?_⟩
  · obtain ⟨d, hd, hsome⟩ := hsat name hname
    obtain ⟨v, hv⟩ := Option.isSome_iff_exists.1 hsome
    exact ⟨v, by rw [hd, Option.bind_some, hv], (EnvValueType.accepts_sample hv).2⟩
  · obtain ⟨d, hd, hsample⟩ := Option.bind_eq_some_iff.1 hv
    obtain ⟨hacc, hne⟩ := EnvValueType.accepts_sample hsample
    exact ⟨d, hd, hacc, fun _ => hne⟩

/-- Some variables of a plugin pass the checks exactly when the first declaration of every
variable mandatory for it has a type that takes a non-empty plain value; the variables that give
each variable declared for the plugin such a value, where its first declaration takes one, then
pass. More generally, variables that give declared names chosen values pass exactly when every
mandatory name is given a non-empty value and every value given suits the first declaration of
its name: accepted by its type, and non-empty where that declaration is mandatory. -/
theorem validateUserEnvs_satisfiable (config : ResolvedConfig) (role : PluginRole) (strict : Bool) :
    ((∃ envs, validateUserEnvs config envs role strict = .ok ()) ↔
        config.driver.Satisfiable role) ∧
      (config.driver.Satisfiable role →
        validateUserEnvs config (config.driver.sampleEnvs role) role strict = .ok ()) ∧
      (∀ pick : String → Option String,
        validateUserEnvs config (config.driver.pickedEnvs role pick) role strict = .ok () ↔
          (∀ name ∈ config.driver.mandatoryEnvNames role, ∃ v, pick name = some v ∧ v ≠ "") ∧
            ∀ e ∈ config.driver.driverEnvs, e.appliesTo role = true → ∀ v, pick e.name = some v →
              ∃ d, config.driver.declaration? e.name = some d ∧ d.type.accepts v = true ∧
                (d.mandatory = true → v ≠ "")) :=
  ⟨⟨fun ⟨_, h⟩ => satisfiable_of_validateUserEnvs h,
      fun hsat => ⟨_, validateUserEnvs_sampleEnvs strict hsat⟩⟩,
    validateUserEnvs_sampleEnvs strict, fun _ => validateUserEnvs_pickedEnvs_iff⟩

/-- A configuration that declares a token as a secret reference for the controller, then as a
mandatory string for the node. -/
def shadowedToken : ResolvedConfig where
  driver := { driverEnvs := [
    { name := "X_CSI_TOKEN", type := .secretReference, forController := true,
      controllerDefault := "token/creds" },
    { name := "X_CSI_TOKEN", mandatory := true, type := .string, forNode := true }] }

/-- The node's token must be set, yet its first declaration takes no plain value: no variables of
the node pass, not even a string that suits the node's own declaration. -/
theorem shadowedToken_refuses_node_envs :
    (¬∃ envs, validateUserEnvs shadowedToken envs .node false = .ok ()) ∧
      validateUserEnvs shadowedToken [{ name := "X_CSI_TOKEN", value := some "abc" }] .node false ≠
        .ok () := by
  refine ⟨fun ⟨_, h⟩ => ?_, by decide⟩
  obtain ⟨d, hd, hsome⟩ := satisfiable_of_validateUserEnvs h "X_CSI_TOKEN" (by decide)
  have hfirst : d.type = .secretReference := by
    simp only [DriverConfig.declaration?, shadowedToken] at hd
    cases hd
    rfl
  rw [hfirst] at hsome
  cases hsome

end Validation

end CsiOperator
