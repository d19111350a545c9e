import Mathlib
import CsiOperator.Proofs.SpecText
import CsiOperator.Proofs.ReaderAnswers
import CsiOperator.Proofs.FailureBackoff
import CsiOperator.Proxy.Build
/-!
The reverse proxy's configuration file.

The proxy reads its whole configuration from one file, `config.yaml`, of the ConfigMap the
operator builds for it: the YAML rendering of the proxy's configuration, with the mode `Linked`
when none is set and the port 2222 when it is 0. The document rendered is made only of texts,
integers, booleans, sequences and mappings (`Json.Plain`), the values a YAML reader gives back
as the writer wrote them. Read back as a proxy configuration, that document gives exactly the
configuration rendered: every member is written when it is not its default and read back to the
same value, at every depth of linked and stand-alone configurations. A configuration the
operator reads from the cluster always has the 32-bit numbers this needs
(`ProxyConfig.exact_of_read`).
-/

namespace CsiOperator

namespace Json

/-- A document made only of texts, integers, booleans, sequences and mappings: no `null` and no
number with a fraction or an exponent. -/
inductive Plain : Json → Prop
  | bool (b : Bool) : Plain (.bool b)
  | int (n : Int) : Plain (.int n)
  | str (s : String) : Plain (.str s)
  | arr {xs : List Json} : (∀ x ∈ xs, Plain x) → Plain (.arr xs)
  | obj {ms : List (String × Json)} : (∀ m ∈ ms, Plain m.2) → Plain (.obj ms)

theorem Plain.fields {ms : List (String × Option Json)}
    (h : ∀ m ∈ ms, ∀ v ∈ m.2, Plain v) : Plain (Json.fields ms) := by
  refine .obj fun m hm => ?_
  obtain ⟨⟨k, o⟩, hmem, hsome⟩ := List.mem_filterMap.1 hm
  cases o with
  | none => cases hsome
  | some v =>
    cases hsome
    exact h (k, some v) hmem v rfl

theorem Plain.strs (xs : List String) : Plain (Json.strs xs) :=
  .arr fun x hx => by
    obtain ⟨s, -, rfl⟩ := List.mem_map.1 hx
    exact .str s

theorem plain_unlessEmpty (s : String) : ∀ v ∈ Json.unlessEmpty s, Plain v := by
  intro v hv
  unfold Json.unlessEmpty at hv
  split at hv
  · cases hv
  · cases hv
    exact .str s

theorem plain_unlessZero (n : Int) : ∀ v ∈ Json.unlessZero n, Plain v := by
  intro v hv
  unfold Json.unlessZero at hv
  split at hv
  · cases hv
  · cases hv
    exact .int n

theorem plain_unlessFalse (b : Bool) : ∀ v ∈ Json.unlessFalse b, Plain v := by
  intro v hv
  unfold Json.unlessFalse at hv
  split at hv
  · cases hv
    exact .bool true
  · cases hv

end Json

/-! ## Every rendered configuration is plain -/

theorem ProxyLimits.plain_toJson (l : ProxyLimits) : l.toJson.Plain := by
  refine Json.Plain.fields fun m hm => ?_
  simp only [ProxyLimits.members, List.mem_cons, List.not_mem_nil, or_false] at hm
  rcases hm with rfl | rfl | rfl | rfl <;> exact Json.plain_unlessZero _

theorem ManagementServer.plain_toJson (m : ManagementServer) : m.toJson.Plain := by
  refine Json.Plain.fields fun f hf => ?_
  simp only [List.mem_cons, List.not_mem_nil, or_false] at hf
  rcases hf with rfl | rfl | rfl | rfl | rfl
  · intro v hv
    cases hv
    exact .str _
  · exact Json.plain_unlessEmpty _
  · exact Json.plain_unlessFalse _
  · exact Json.plain_unlessEmpty _
  · intro v hv
    cases hv
    exact m.limits.plain_toJson

theorem LinkConfig.plain_toJson (l : LinkConfig) : l.toJson.Plain := by
  refine .obj fun m hm => ?_
  simp only [List.mem_cons, List.not_mem_nil, or_false] at hm
  rcases hm with rfl | rfl
  · exact l.primary.plain_toJson
  · exact l.backup.plain_toJson

theorem StorageArray.plain_toJson (a : StorageArray) : a.toJson.Plain := by
  refine Json.Plain.fields fun f hf => ?_
  simp only [List.mem_cons, List.not_mem_nil, or_false] at hf
  rcases hf with rfl | rfl | rfl | rfl
  · intro v hv
    cases hv
    exact .str _
  · intro v hv
    cases hv
    exact .str _
  · exact Json.plain_unlessEmpty _
  · intro v hv
    cases hv
    exact Json.Plain.strs _

theorem StandAloneConfig.plain_toJson (c : StandAloneConfig) : c.toJson.Plain := by
  refine .obj fun m hm => ?_
  simp only [List.mem_cons, List.not_mem_nil, or_false] at hm
  rcases hm with rfl | rfl
  · refine .arr fun x hx => ?_
    obtain ⟨a, -, rfl⟩ := List.mem_map.1 hx
    exact a.plain_toJson
  · refine .arr fun x hx => ?_
    obtain ⟨m, -, rfl⟩ := List.mem_map.1 hx
    exact m.plain_toJson

theorem ProxyConfig.plain_toJson (c : ProxyConfig) : c.toJson.Plain := by
  refine Json.Plain.fields fun f hf => ?_
  simp only [List.mem_cons, List.not_mem_nil, or_false] at hf
  rcases hf with rfl | rfl | rfl | rfl
  · exact Json.plain_unlessEmpty _
  · exact Json.plain_unlessZero _
  · intro v hv
    obtain ⟨l, -, rfl⟩ := Option.mem_map.1 hv
    exact l.plain_toJson
  · intro v hv
    obtain ⟨sa, -, rfl⟩ := Option.mem_map.1 hv
    exact sa.plain_toJson

/-! ## Every configuration read has 32-bit numbers -/

section Exact

open Reader Members

theorem ProxyLimits.exact_of_read {v : Json} {l : ProxyLimits} (h : ProxyLimits.read v = .ok l) :
    l.Exact := by
  have fits : ∀ w n, Reader.i32 w = .ok n → FitsI32 n := fun _ _ hn => i32_fits hn
  have zero : FitsI32 0 := by simp [FitsI32]
  refine record_yields h fun ms => ?_
  refine (dflt_yields fits zero).bind fun _ => ?_
  refine (dflt_yields fits zero).bind fun _ => ?_
  refine (dflt_yields fits zero).bind fun _ => ?_
  refine (dflt_yields fits zero).bind fun _ => ?_
  exact Yields.pure fun outWrite outRead activeWrite activeRead =>
    ⟨activeRead, activeWrite, outRead, outWrite⟩

theorem ManagementServer.exact_of_read {v : Json} {m : ManagementServer}
    (h : ManagementServer.read v = .ok m) : m.limits.Exact := by
  have zero : ProxyLimits.Exact {} := by simp [ProxyLimits.Exact, FitsI32]
  refine record_yields (P := fun m : ManagementServer => m.limits.Exact) h fun ms => ?_
  refine Yields.bind_keeps (dflt_keeps _ _) fun _ => ?_
  refine Yields.bind_keeps (dflt_keeps _ _) fun _ => ?_
  refine Yields.bind_keeps (dflt_keeps _ _) fun _ => ?_
  refine Yields.bind_keeps (dflt_keeps _ _) fun _ => ?_
  refine (dflt_yields (fun _ _ hl => ProxyLimits.exact_of_read hl) zero).bind fun _ => ?_
  exact Yields.pure id

theorem ProxyConfig.exact_of_read {v : Json} {c : ProxyConfig} (h : ProxyConfig.read v = .ok c) :
    c.Exact := by
  have server : ∀ w m, ManagementServer.read w = .ok m → m.limits.Exact :=
    fun _ _ hm => ManagementServer.exact_of_read hm
  have empty : ProxyLimits.Exact ({} : ManagementServer).limits := by
    simp [ProxyLimits.Exact, FitsI32]
  have link : ∀ w l, LinkConfig.read w = .ok l → l.primary.limits.Exact ∧ l.backup.limits.Exact := by
    intro w l hl
    refine record_yields
      (P := fun l : LinkConfig => l.primary.limits.Exact ∧ l.backup.limits.Exact) hl fun ms => ?_
    refine (req_yields server).bind fun _ => ?_
    refine (dflt_yields server empty).bind fun _ => ?_
    exact Yields.pure fun backup primary => ⟨primary, backup⟩
  have standAlone : ∀ w sa, StandAloneConfig.read w = .ok sa → sa.Exact := by
    intro w sa hsa
    refine record_yields (P := StandAloneConfig.Exact) hsa fun ms => ?_
    refine Yields.bind_keeps (dflt_keeps _ _) fun _ => ?_
    refine (dflt_yields (P := fun servers => ∀ m ∈ servers, ProxyLimits.Exact m.limits)
      (fun _ _ hms => list_yields server hms) (by simp)).bind fun _ => ?_
    exact Yields.pure id
  refine record_yields h fun ms => ?_
  refine Yields.bind_keeps (dflt_keeps _ _) fun _ => ?_
  refine (dflt_yields (fun _ _ hn => i32_fits hn) (by simp [FitsI32])).bind fun _ => ?_
  refine (optNull_yields (P := fun o => ∀ l ∈ o, l.primary.limits.Exact ∧ l.backup.limits.Exact)
    (fun w l hl => by simpa using link w l hl) (by simp)).bind fun _ => ?_
  refine (optNull_yields (P := fun o => ∀ sa ∈ o, sa.Exact)
    (fun w sa hsa => by simpa using standAlone w sa hsa) (by simp)).bind fun _ => ?_
  exact Yields.pure fun standAlones links port => ⟨port, links, standAlones⟩

end Exact

/-! ## The configuration file -/

namespace Proxy

/-- The configuration the proxy is served: the mode `Linked` when none is set, the port 2222
when it is 0. -/
def served (c : ProxyConfig) : ProxyConfig :=
  { c with mode := if c.mode.isEmpty then defaultMode else c.mode, port := port c }

theorem exact_served {c : ProxyConfig} (hc : c.Exact) : (served c).Exact := by
  refine ⟨?_, hc.linkConfig, hc.standAloneConfig⟩
  show FitsI32 (port c)
  unfold port
  split
  · simp [defaultPort, FitsI32]
  · exact hc.port

theorem configMap_file (p : ProxyResource) :
    ∃ cm, configMap p = .ok cm ∧
      (cm.get? "data").bind (·.get? configFileName) =
        some (.str (Yaml.Emit.document (served p.spec.config).toJson)) :=
  ⟨_, rfl, by simp [Json.get?, Build.header, Json.strMap, configFileName, served]⟩

end Proxy

/-- The reverse proxy's ConfigMap round-trips its configuration. For every proxy whose numbers
fit in 32 bits, as every proxy read from the cluster does, the ConfigMap is built, and its
`config.yaml` entry is the YAML rendering of a document made only of texts, integers, booleans,
sequences and mappings, which a YAML reader gives back as written; read as a proxy
configuration, that document is exactly the proxy's, with the mode `Linked` when it was empty
and the port 2222 when it was 0. -/
theorem proxy_config_map_round_trips (p : ProxyResource) (hp : p.spec.config.Exact) :
    ∃ cm, Proxy.configMap p = .ok cm ∧ ∃ doc,
      (cm.get? "data").bind (·.get? "config.yaml") = some (.str (Yaml.Emit.document doc)) ∧
      doc.Plain ∧
      ProxyConfig.read doc = .ok { p.spec.config with
        mode := if p.spec.config.mode.isEmpty then "Linked" else p.spec.config.mode
        port := if p.spec.config.port = 0 then 2222 else p.spec.config.port } := by
  obtain ⟨cm, hbuilt, hfile⟩ := Proxy.configMap_file p
  refine ⟨cm, hbuilt, (Proxy.served p.spec.config).toJson, hfile, ProxyConfig.plain_toJson _, ?_⟩
  rw [ProxyConfig.read_toJson (Proxy.exact_served hp)]
  -- the defaults the builder applies are the statement's
  simp [Proxy.served, Proxy.port, Proxy.defaultMode, Proxy.defaultPort]

/-- The refused installations' proxy, as read from the cluster, is served the mode `Linked` and
the port 2222 through its ConfigMap. -/
theorem refused_proxy_config_round_trips :
    ProxyResource.read Refused.proxy.toJson = .ok Refused.proxy ∧
    ∃ cm, Proxy.configMap Refused.proxy = .ok cm ∧ ∃ doc,
      (cm.get? "data").bind (·.get? "config.yaml") = some (.str (Yaml.Emit.document doc)) ∧
      doc.Plain ∧
      ProxyConfig.read doc = .ok { Refused.proxy.spec.config with mode := "Linked", port := 2222 } := by
  have hread : ProxyResource.read Refused.proxy.toJson = .ok Refused.proxy := rfl
  have hconfig : ProxyConfig.read Refused.proxy.spec.config.toJson = .ok Refused.proxy.spec.config :=
    rfl
  refine ⟨hread, proxy_config_map_round_trips Refused.proxy (ProxyConfig.exact_of_read hconfig)⟩

end CsiOperator
