import CsiOperator.Proofs.Layering
import CsiOperator.Build.Context
/-!
The variables of a driver container.

A container's variables stack three layers by name: the configuration's defaults for its plugin,
the spec's common variables, and the plugin's own (`Layer.stack`). The default names come
first, then the names the common variables add, then those the plugin's own add; each name
takes the last entry of the highest layer that sets it. Over defaults with distinct names, the
two layerings a container makes give exactly that stack (`layered_layered`).

Each stacked variable is then adjusted on its own (`BuildContext.adjustEnv`): with an
authentication secret, the credential variables that take their value from a secret are
pointed at it; from configuration version `v2` on, the driver-name variable becomes a plain
variable holding the namespaced driver name. The node plugin of PowerMax also drops the CHAP
password when CHAP is off (`containerEnvs_stacked`).
-/

namespace CsiOperator.Layer

variable {α κ : Type} [BEq κ] [LawfulBEq κ] (key : α → κ)

/-- Three layers stacked by key: the keys of the bottom layer, then those the middle layer
adds, then those the top layer adds, each with the last entry of the highest layer that has
it. -/
def stack (D C O : List α) : List α :=
  (D ++ firsts key D C ++ firsts key (D ++ C) O).map fun e =>
    (lastWith key O (key e)).getD ((lastWith key C (key e)).getD e)

/-- The entry a key takes in three stacked layers: the last of the top layer with that key, else
the last of the middle layer, else the first of the bottom layer. -/
def pick (D C O : List α) (k : κ) : Option α :=
  (lastWith key O k).or ((lastWith key C k).or (D.find? (key · == k)))

variable {key}

theorem mem_keys_layered {source new : List α} {k : κ} :
    k ∈ (layered key source new).map key ↔ k ∈ source.map key ∨ k ∈ new.map key := by
  rw [keys_layered, List.mem_append, mem_fresh]
  tauto

theorem firsts_congr {S S' : List α} (new : List α) (h : ∀ k, k ∈ S.map key ↔ k ∈ S'.map key) :
    firsts key S new = firsts key S' new := by
  have hfresh : fresh key S new = fresh key S' new := by
    unfold fresh
    congr 1
    exact List.filter_congr fun k _ => by simp only [h k]
  simp only [firsts, hfresh]

theorem key_getD_lastWith_of {new : List α} {k : κ} {d : α} (hd : key d = k) :
    key ((lastWith key new k).getD d) = k := by
  subst hd
  exact key_getD_lastWith key new d

theorem lastWith_isSome_of_firsts {S new : List α} {e : α} (he : e ∈ firsts key S new) :
    ∃ l, lastWith key new (key e) = some l := by
  have hk : key e ∈ fresh key S new := by
    rw [← keys_firsts]
    exact List.mem_map_of_mem he
  exact lastWith_isSome (mem_fresh.1 hk).1

theorem layered_layered (D C O : List α) :
    layered key (layered key D C) O = stack key D C O := by
  have hkeys : ∀ k, k ∈ (layered key D C).map key ↔ k ∈ (D ++ C).map key := by
    intro k
    rw [mem_keys_layered, List.map_append, List.mem_append]
  rw [layered, firsts_congr O hkeys, layered, stack, List.map_append, List.map_map]
  conv_rhs => rw [List.map_append]
  congr 1
  · -- an entry of the first layering keeps its key, so the top layer is read at it
    refine List.map_congr_left fun e _ => ?_
    simp only [Function.comp_apply, key_getD_lastWith key]
  · -- a key the top layer adds is read in the top layer whatever the middle one holds
    refine List.map_congr_left fun e he => ?_
    obtain ⟨l, hl⟩ := lastWith_isSome_of_firsts he
    simp only [hl, Option.getD_some]

theorem keys_stack (D C O : List α) :
    (stack key D C O).map key = D.map key ++ fresh key D C ++ fresh key (D ++ C) O := by
  unfold stack
  rw [List.map_map, List.map_congr_left (g := key) fun e _ => ?_]
  · simp only [List.map_append, keys_firsts]
  · exact key_getD_lastWith_of (key_getD_lastWith key C e)

theorem nodup_keys_stack {D : List α} (C O : List α) (hD : (D.map key).Nodup) :
    ((stack key D C O).map key).Nodup := by
  rw [← layered_layered D C O]
  exact nodup_keys_layered O (nodup_keys_layered C hD)

theorem mem_keys_stack {D C O : List α} {k : κ} :
    k ∈ (stack key D C O).map key ↔ k ∈ D.map key ∨ k ∈ C.map key ∨ k ∈ O.map key := by
  rw [keys_stack, List.mem_append, List.mem_append, mem_fresh, mem_fresh, List.map_append,
    List.mem_append]
  tauto

theorem find?_firsts (S new : List α) (k : κ) :
    (firsts key S new).find? (key · == k) =
      if k ∈ fresh key S new then new.find? (key · == k) else none := by
  have hfirst : ∀ k' ∈ fresh key S new,
      ((new.find? (key · == k')).any (key · == k)) = (k' == k) := by
    intro k' hk'
    obtain ⟨f, hf, hkey⟩ := find?_key (mem_fresh.1 hk').1
    simp [hf, hkey]
  unfold firsts
  rw [List.find?_filterMap, List.find?_congr hfirst]
  split
  · next hk =>
    have hfound : (fresh key S new).find? (· == k) = some k := by
      cases h : (fresh key S new).find? (· == k) with
      | none => exact absurd (List.find?_eq_none.1 h k hk) (by simp)
      | some k' => simpa using List.find?_some h
    rw [hfound, Option.bind_some]
  · next hk =>
    rw [List.find?_eq_none.2 fun k' hk' h => hk (by rwa [beq_iff_eq.1 h] at hk'), Option.bind_none]

theorem find?_layered (S new : List α) (k : κ) :
    (layered key S new).find? (key · == k) = (lastWith key new k).or (S.find? (key · == k)) := by
  have hpred : ((key · == k) ∘ fun e => (lastWith key new (key e)).getD e) = (key · == k) :=
    funext fun e => by simp only [Function.comp_apply, key_getD_lastWith key]
  unfold layered
  rw [List.find?_map, hpred, List.find?_append, find?_firsts]
  cases hS : S.find? (key · == k) with
  | some s =>
    -- the source has the key: its first entry, replaced by the last new one
    have hs : key s = k := by simpa using List.find?_some hS
    simp only [Option.some_or, Option.map_some, Option.or_some, hs]
  | none =>
    have hSk : k ∉ S.map key := fun h => by
      obtain ⟨f, hf, -⟩ := find?_key h
      rw [hS] at hf
      cases hf
    by_cases hnew : k ∈ new.map key
    · -- a key the new entries add: the first of them, replaced by the last
      obtain ⟨f, hf, hfk⟩ := find?_key hnew
      obtain ⟨l, hl⟩ := lastWith_isSome hnew
      simp [mem_fresh, hnew, hSk, hf, hfk, hl]
    · simp [mem_fresh, hnew, lastWith_eq_none.2 hnew]

theorem find?_stack (D C O : List α) (k : κ) : (stack key D C O).find? (key · == k) = pick key D C O k := by
  rw [← layered_layered, find?_layered, find?_layered]
  rfl

theorem key_of_pick {D C O : List α} {k : κ} {e : α} (h : pick key D C O k = some e) : key e = k := by
  unfold pick at h
  rcases Option.or_eq_some_iff.1 h with hO | ⟨-, h⟩
  · exact (lastWith_key hO).1
  rcases Option.or_eq_some_iff.1 h with hC | ⟨-, hD⟩
  · exact (lastWith_key hC).1
  · simpa using List.find?_some hD

theorem find?_put (l : List α) (x : α) (k : κ) :
    (put (fun a b => key a == key b) l x).find? (key · == k) =
      if key x == k then some x else l.find? (key · == k) := by
  induction l with
  | nil => by_cases h : key x = k <;> simp [put_nil, h]
  | cons m l ih =>
    rw [put_cons]
    by_cases hm : key m = key x
    · by_cases hx : key x = k <;> simp [hm, hx]
    · have hm' : (key m == key x) = false := by simpa using hm
      by_cases hmk : key m = k
      · have hx : key x ≠ k := fun h => hm (hmk.trans h.symm)
        simp only [hm', Bool.false_eq_true, if_false, List.find?_cons]
        simp [hmk, hx]
      · have hmk' : (key m == k) = false := by simpa using hmk
        simp only [hm', Bool.false_eq_true, if_false, List.find?_cons, hmk', ih]

theorem find?_mergeBy (S new : List α) (k : κ) :
    (mergeBy (fun a b => key a == key b) S new).find? (key · == k) =
      (lastWith key new k).or (S.find? (key · == k)) := by
  induction new using List.reverseRecOn with
  | nil => simp [mergeBy, lastWith]
  | append_singleton new x ih =>
    rw [mergeBy_concat, find?_put, ih, lastWith_concat]
    split <;> simp

theorem envs_envs_eq_stack {D : List EnvVar} (C O : List EnvVar) (hD : (D.map EnvVar.name).Nodup) :
    envs (envs D C) O = stack EnvVar.name D C O := by
  unfold envs
  rw [mergeBy_eq_layered C hD, mergeBy_eq_layered O (nodup_keys_layered C hD),
    layered_layered D C O]

/-- A variable that takes its value from a secret, pointed at another secret; any other
variable as it is. -/
def pointAtSecret (secret : String) (e : EnvVar) : EnvVar :=
  match e.valueFrom with
  | some src =>
    match src.secretKeyRef with
    | some r => { e with valueFrom := some { src with secretKeyRef := some { r with name := some secret } } }
    | none => e
  | none => e

theorem patchSecretRefs_eq_map (envs : List EnvVar) (names : List String) (secret : String) :
    patchSecretRefs envs names secret =
      envs.map fun e => if names.contains e.name then pointAtSecret secret e else e := rfl

theorem name_pointAtSecret (secret : String) (e : EnvVar) : (pointAtSecret secret e).name = e.name := by
  unfold pointAtSecret
  split
  · split <;> rfl
  · rfl

theorem envs_singleton (l : List EnvVar) (x : EnvVar) : envs l [x] = put (fun a b => a.name == b.name) l x :=
  rfl

end CsiOperator.Layer

namespace CsiOperator.BuildContext

/-- The variables a plugin's own settings give. -/
def ownEnvs (ctx : BuildContext) : PluginRole → List EnvVar
  | .controller => ctx.driver.controller.envs
  | .node => ctx.driver.node.envs

/-- The name a driver registers under for a value of its driver-name variable: the value
within the namespace, unless it is the family's default name. -/
def namespacedDriverName (ctx : BuildContext) (v : String) : String :=
  if v != ctx.family.defaultDriverName then ctx.ns ++ "." ++ v ++ "." ++ "dellemc.com"
  else ctx.family.defaultDriverName

/-- The driver-name variable as a container gets it where custom driver names are supported: a
plain variable with the namespaced name its value gives, an unset value read as empty. -/
def renameEnv (ctx : BuildContext) (e : EnvVar) : EnvVar :=
  if ctx.supportsCustomDriverName && ctx.family.driverNameEnv? == some e.name then
    EnvVar.plain e.name (ctx.namespacedDriverName (e.value.getD ""))
  else e

/-- A credential variable that takes its value from a secret, pointed at the spec's
authentication secret when it names one. -/
def pointCredentials (ctx : BuildContext) (e : EnvVar) : EnvVar :=
  if !ctx.driver.authSecret.isEmpty && [ctx.family.userEnvName, ctx.family.passwordEnvName].contains e.name
  then Layer.pointAtSecret ctx.driver.authSecret e else e

/-- What a container makes of one stacked variable: its credentials pointed at the
authentication secret, then the driver-name variable renamed. -/
def adjustEnv (ctx : BuildContext) (e : EnvVar) : EnvVar := ctx.renameEnv (ctx.pointCredentials e)

/-- Whether the PowerMax node plugin goes without the CHAP password: from configuration version
`v2` on, when the CHAP variable is there with an empty value or `false` in any case. -/
def dropsChapPassword (ctx : BuildContext) (envs : List EnvVar) : Bool :=
  ctx.family == .powerMax && ctx.config.configVersion != "v1" &&
    envs.any fun e => e.name == Build.iscsiChapEnv &&
      ((e.value.getD "").isEmpty || Text.sameIgnoringCase (e.value.getD "") "false")

variable (ctx : BuildContext)

theorem name_renameEnv (e : EnvVar) : (ctx.renameEnv e).name = e.name := by
  unfold renameEnv
  split <;> rfl

theorem name_pointCredentials (e : EnvVar) : (ctx.pointCredentials e).name = e.name := by
  unfold pointCredentials
  split
  · exact Layer.name_pointAtSecret _ e
  · rfl

theorem name_adjustEnv (e : EnvVar) : (ctx.adjustEnv e).name = e.name := by
  rw [adjustEnv, name_renameEnv, name_pointCredentials]

theorem patched_eq_map (l : List EnvVar) :
    (if ctx.driver.authSecret.isEmpty then l
      else Layer.patchSecretRefs l [ctx.family.userEnvName, ctx.family.passwordEnvName] ctx.driver.authSecret) =
      l.map ctx.pointCredentials := by
  unfold pointCredentials
  split
  · next h => simp [h]
  · next h => simp [h, Layer.patchSecretRefs_eq_map]

theorem envs_customEnvVars {l : List EnvVar} (hl : (l.map EnvVar.name).Nodup) :
    Layer.envs l (ctx.customEnvVars l) = l.map ctx.renameEnv := by
  have hkeep : ∀ (l : List EnvVar), (∀ e ∈ l, ctx.renameEnv e = e) → Layer.envs l [] = l.map ctx.renameEnv :=
    fun l h => by rw [List.map_congr_left h, List.map_id']; rfl
  unfold customEnvVars
  cases hname : ctx.family.driverNameEnv? with
  | none => exact hkeep l fun e _ => by simp [renameEnv, hname]
  | some envName =>
    dsimp only
    by_cases hs : ctx.supportsCustomDriverName = true
    · rw [if_neg (by simp [hs])]
      cases hfind : l.find? (·.name == envName) with
      | none =>
        -- no variable carries the name
        refine hkeep l fun e he => ?_
        have hne : e.name ≠ envName := by simpa using List.find?_eq_none.1 hfind e he
        simp [renameEnv, hname, Ne.symm hne]
      | some env =>
        -- the one variable with the name is replaced where it stands
        have henv : env ∈ l ∧ env.name = envName := by
          simpa using And.intro (List.mem_of_find?_eq_some hfind) (List.find?_some hfind)
        dsimp only
        rw [Layer.envs_singleton, Layer.put_of_nodup l _ hl]
        have hmem : envName ∈ l.map EnvVar.name := List.mem_map.2 ⟨env, henv.1, henv.2⟩
        simp only [EnvVar.plain, hmem, ↓reduceIte]
        refine List.map_congr_left fun e he => ?_
        by_cases hn : e.name = envName
        · have : e = env := List.inj_on_of_nodup_map hl he henv.1 (hn.trans henv.2.symm)
          subst this
          simp [renameEnv, hname, hs, hn, EnvVar.plain, namespacedDriverName]
        · simp [renameEnv, hname, Ne.symm hn, hn]
    · rw [if_pos (by simpa using hs)]
      exact hkeep l fun e _ => by simp [renameEnv, hs]

theorem find?_envs_customEnvVars (l : List EnvVar) (n : String) :
    (Layer.envs l (ctx.customEnvVars l)).find? (·.name == n) =
      (l.find? (·.name == n)).map ctx.renameEnv := by
  have hkeep : (∀ e, (l.find? (·.name == n)) = some e → ctx.renameEnv e = e) →
      (Layer.envs l []).find? (·.name == n) = (l.find? (·.name == n)).map ctx.renameEnv := by
    intro h
    cases hf : l.find? (·.name == n) with
    | none => exact hf
    | some e => rw [Option.map_some, h e hf]; exact hf
  unfold customEnvVars
  cases hname : ctx.family.driverNameEnv? with
  | none => exact hkeep fun e _ => by simp [renameEnv, hname]
  | some envName =>
    dsimp only
    by_cases hs : ctx.supportsCustomDriverName = true
    · rw [if_neg (by simp [hs])]
      cases hfind : l.find? (·.name == envName) with
      | none =>
        -- no variable carries the driver-name variable's name
        refine hkeep fun e he => ?_
        have hne : e.name ≠ envName := fun h => by
          rw [List.find?_eq_none] at hfind
          exact hfind e (List.mem_of_find?_eq_some he) (by simp [h])
        simp [renameEnv, hname, Ne.symm hne]
      | some env =>
        have henv : env.name = envName := by simpa using List.find?_some hfind
        dsimp only
        rw [Layer.envs, Layer.find?_mergeBy, Layer.lastWith_cons, Layer.lastWith, List.filter_nil]
        by_cases hn : envName = n
        · -- the name looked up is the driver-name variable's: the first one, renamed
          subst hn
          simp [hfind, renameEnv, hname, hs, henv, EnvVar.plain, namespacedDriverName]
        · -- another name reads as before, and is not renamed
          cases hf : l.find? (·.name == n) with
          | none => simp [EnvVar.plain, hn]
          | some e =>
            have he : e.name = n := by simpa using List.find?_some hf
            simp [EnvVar.plain, hn, renameEnv, he, hname]
    · rw [if_pos (by simpa using hs)]
      exact hkeep fun e _ => by simp [renameEnv, hs]

theorem containerEnvs_eq (role : PluginRole) :
    ctx.containerEnvs role =
      let envs := Layer.envs (Layer.envs (ctx.config.driver.envs role) ctx.driver.common.envs)
        (ctx.ownEnvs role)
      let envs := if ctx.driver.authSecret.isEmpty then envs
        else Layer.patchSecretRefs envs [ctx.family.userEnvName, ctx.family.passwordEnvName]
          ctx.driver.authSecret
      Layer.envs envs (ctx.customEnvVars envs) := by
  cases role <;> rfl

theorem find?_containerEnvs (role : PluginRole) (n : String) :
    (ctx.containerEnvs role).find? (·.name == n) =
      (Layer.pick EnvVar.name (ctx.config.driver.envs role) ctx.driver.common.envs
        (ctx.ownEnvs role) n).map ctx.adjustEnv := by
  have hpred : ((·.name == n) ∘ ctx.pointCredentials) = (·.name == n) :=
    funext fun e => by simp only [Function.comp_apply, name_pointCredentials]
  rw [containerEnvs_eq]
  dsimp only
  rw [patched_eq_map, find?_envs_customEnvVars, List.find?_map, hpred, Layer.envs, Layer.envs,
    Layer.find?_mergeBy, Layer.find?_mergeBy, Option.map_map]
  rfl

theorem containerEnvs_eq_stack (role : PluginRole)
    (hD : ((ctx.config.driver.envs role).map EnvVar.name).Nodup) :
    ctx.containerEnvs role =
      (Layer.stack EnvVar.name (ctx.config.driver.envs role) ctx.driver.common.envs
        (ctx.ownEnvs role)).map ctx.adjustEnv := by
  have hnodup := Layer.nodup_keys_stack ctx.driver.common.envs (ctx.ownEnvs role) hD
  rw [containerEnvs_eq, Layer.envs_envs_eq_stack _ _ hD]
  dsimp only
  rw [patched_eq_map, envs_customEnvVars ctx (by rw [List.map_map]; simpa [Function.comp_def,
    name_pointCredentials] using hnodup), List.map_map]
  rfl

theorem nodeEnvs_eq (hnodup : ((ctx.containerEnvs .node).map EnvVar.name).Nodup) :
    ctx.nodeEnvs = if ctx.dropsChapPassword (ctx.containerEnvs .node)
      then (ctx.containerEnvs .node).filter (·.name != Build.iscsiChapPasswordEnv)
      else ctx.containerEnvs .node := by
  unfold nodeEnvs dropsChapPassword
  dsimp only
  by_cases hfam : (ctx.family == .powerMax && ctx.config.configVersion != "v1") = true
  · rw [if_pos hfam]
    cases hfind : (ctx.containerEnvs .node).find? (·.name == Build.iscsiChapEnv) with
    | none =>
      -- no CHAP variable, so nothing is dropped
      have hany : ((ctx.containerEnvs .node).any fun e => e.name == Build.iscsiChapEnv &&
          ((e.value.getD "").isEmpty || Text.sameIgnoringCase (e.value.getD "") "false")) = false := by
        rw [List.any_eq_false]
        intro e he
        simp [List.find?_eq_none.1 hfind e he]
      simp [hfam, hany]
    | some chap =>
      -- the CHAP variable found is the only one of its name
      have hchap : chap ∈ ctx.containerEnvs .node ∧ chap.name = Build.iscsiChapEnv := by
        simpa using And.intro (List.mem_of_find?_eq_some hfind) (List.find?_some hfind)
      have hany : ((ctx.containerEnvs .node).any fun e => e.name == Build.iscsiChapEnv &&
          ((e.value.getD "").isEmpty || Text.sameIgnoringCase (e.value.getD "") "false")) =
          ((chap.value.getD "").isEmpty || Text.sameIgnoringCase (chap.value.getD "") "false") := by
        apply Bool.eq_iff_iff.2
        constructor
        · intro h
          obtain ⟨e, he, hp⟩ := List.any_eq_true.1 h
          simp only [Bool.and_eq_true, beq_iff_eq] at hp
          rw [List.inj_on_of_nodup_map hnodup he hchap.1 (hp.1.trans hchap.2.symm)] at hp
          exact hp.2
        · intro h
          exact List.any_eq_true.2 ⟨chap, hchap.1, by simp [hchap.2, h]⟩
      simp only [hfam, hany, Bool.true_and]
  · rw [if_neg hfam]
    simp [Bool.not_eq_true _ ▸ hfam]

theorem find?_nodeEnvs {n : String} (hn : n ≠ Build.iscsiChapPasswordEnv) :
    ctx.nodeEnvs.find? (·.name == n) = (ctx.containerEnvs .node).find? (·.name == n) := by
  -- dropping entries of another name does not change the first entry of this one
  have hfilter : ∀ l : List EnvVar,
      (l.filter (·.name != Build.iscsiChapPasswordEnv)).find? (·.name == n) = l.find? (·.name == n) := by
    intro l
    rw [List.find?_filter]
    congr 1
    funext e
    by_cases he : e.name = n
    · simp [he, hn]
    · simp [he]
  unfold nodeEnvs
  dsimp only
  split
  · split
    · split
      · exact hfilter _
      · rfl
    · rfl
  · rfl

/-- A container's variables over configuration defaults with distinct names: the three layers
stacked, each entry adjusted. The default names come first, then the names the common
variables add, then those the plugin's own add, each name once, and together exactly the names
of the three layers; a name takes the last entry of the plugin's own variables, else the last
common one, else the default. The controller keeps them all; the node plugin drops the CHAP
password when `dropsChapPassword` says so. -/
theorem containerEnvs_stacked (ctx : BuildContext) (role : PluginRole)
    (hD : ((ctx.config.driver.envs role).map EnvVar.name).Nodup) :
    let D := ctx.config.driver.envs role
    let C := ctx.driver.common.envs
    let O := ctx.ownEnvs role
    let envs := (Layer.stack EnvVar.name D C O).map ctx.adjustEnv
    ctx.containerEnvs role = envs ∧
      envs.map EnvVar.name =
        D.map EnvVar.name ++ Layer.fresh EnvVar.name D C ++ Layer.fresh EnvVar.name (D ++ C) O ∧
      (envs.map EnvVar.name).Nodup ∧
      (∀ n, n ∈ envs.map EnvVar.name ↔
        n ∈ D.map EnvVar.name ∨ n ∈ C.map EnvVar.name ∨ n ∈ O.map EnvVar.name) ∧
      (∀ n, envs.find? (·.name == n) = (Layer.pick EnvVar.name D C O n).map ctx.adjustEnv) ∧
      (role = .controller → ctx.controllerEnvs = envs) ∧
      (role = .node → ctx.nodeEnvs =
        if ctx.dropsChapPassword envs then envs.filter (·.name != Build.iscsiChapPasswordEnv)
        else envs) := by
  intro D C O envs
  have heq : ctx.containerEnvs role = envs := containerEnvs_eq_stack ctx role hD
  -- adjusting keeps every name, so the names are those of the stack
  have hnames : envs.map EnvVar.name = (Layer.stack EnvVar.name D C O).map EnvVar.name := by
    rw [List.map_map]
    exact List.map_congr_left fun e _ => name_adjustEnv ctx e
  have hnodup : (envs.map EnvVar.name).Nodup := hnames ▸ Layer.nodup_keys_stack C O hD
  refine ⟨heq, hnames.trans (Layer.keys_stack D C O), hnodup,
    fun n => by rw [hnames]; exact Layer.mem_keys_stack, fun n => ?_, fun h => ?_, fun h => ?_⟩
  · have hpred : ((·.name == n) ∘ ctx.adjustEnv) = (·.name == n) :=
      funext fun e => by simp only [Function.comp_apply, name_adjustEnv]
    rw [List.find?_map, hpred, Layer.find?_stack]
  · subst h
    exact heq
  · subst h
    rw [nodeEnvs_eq ctx (heq ▸ hnodup), heq]

/-- A PowerMax node plugin whose configuration turns CHAP on, with a common variable and the
node turning CHAP off. -/
def chapOffContext : BuildContext :=
  BuildContext.ofResource
    { family := .powerMax
      metadata := .obj [("name", .str "powermax"), ("namespace", .str "storage")]
      spec :=
        { configVersion := "v4"
          common := { envs := [EnvVar.plain "X_CSI_POWERMAX_DEBUG" "true"] }
          node := { envs := [EnvVar.plain Build.iscsiChapEnv "FALSE"] } } }
    { configVersion := "v4"
      driver := { driverEnvs := [
        { name := Build.iscsiChapEnv, type := .boolean, forNode := true, nodeDefault := "true" },
        { name := Build.iscsiChapPasswordEnv, type := .string, forNode := true, nodeDefault := "secret" }] } }
    false

theorem chapOff_node_envs_stacked :
    let ctx := chapOffContext
    ((ctx.config.driver.envs .node).map EnvVar.name).Nodup ∧
      let D := ctx.config.driver.envs .node
      let C := ctx.driver.common.envs
      let O := ctx.ownEnvs .node
      let envs := (Layer.stack EnvVar.name D C O).map ctx.adjustEnv
      ctx.containerEnvs .node = envs ∧
        envs.map EnvVar.name =
          D.map EnvVar.name ++ Layer.fresh EnvVar.name D C ++ Layer.fresh EnvVar.name (D ++ C) O ∧
        (envs.map EnvVar.name).Nodup ∧
        (∀ n, n ∈ envs.map EnvVar.name ↔
          n ∈ D.map EnvVar.name ∨ n ∈ C.map EnvVar.name ∨ n ∈ O.map EnvVar.name) ∧
        (∀ n, envs.find? (·.name == n) = (Layer.pick EnvVar.name D C O n).map ctx.adjustEnv) ∧
        (PluginRole.node = .controller → ctx.controllerEnvs = envs) ∧
        (PluginRole.node = .node → ctx.nodeEnvs =
          if ctx.dropsChapPassword envs then envs.filter (·.name != Build.iscsiChapPasswordEnv)
          else envs) :=
  ⟨by decide, containerEnvs_stacked chapOffContext .node (by decide)⟩

/-- A driver-name variable holding the default name that also names a value source. -/
def sourcedDriverNameEnv : EnvVar :=
  { name := "X_CSI_POWERMAX_DRIVER_NAME", value := some "csi-powermax.dellemc.com"
    valueFrom := some { fieldRef := some { fieldPath := "metadata.name" } } }

/-- A PowerMax controller that sets that variable itself. -/
def sourcedNameContext : BuildContext :=
  BuildContext.ofResource
    { family := .powerMax
      metadata := .obj [("name", .str "powermax"), ("namespace", .str "storage")]
      spec := { configVersion := "v4", controller := { envs := [sourcedDriverNameEnv] } } }
    { configVersion := "v4" } false

/-- The driver-name variable is rewritten even when its value is the default name: the entry
the layers give it keeps its value source, and the container gets a plain variable without
one. -/
theorem driverNameEnv_loses_source :
    let ctx := sourcedNameContext
    let layered := Layer.pick EnvVar.name (ctx.config.driver.envs .controller)
      ctx.driver.common.envs (ctx.ownEnvs .controller) "X_CSI_POWERMAX_DRIVER_NAME"
    layered = some sourcedDriverNameEnv ∧
      ctx.controllerEnvs.find? (·.name == "X_CSI_POWERMAX_DRIVER_NAME") =
        some (EnvVar.plain "X_CSI_POWERMAX_DRIVER_NAME" "csi-powermax.dellemc.com") := by
  decide +kernel

end CsiOperator.BuildContext
