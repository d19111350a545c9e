import Mathlib
import CsiOperator.Proofs.Placement
/-!
Kubernetes documents read back as they are written.

A record schema reads a document member by member, looking each of its fields up by key. A
document whose members are written for the schema's fields, in order, each left out only where
the field is optional and otherwise a value the field reads as itself, reads as itself
(`Kube.Schema.read_written`). The environment variables, tolerations and topology terms a driver
spec carries are written so, and read back as the values they were written from
(`EnvVar.read_toJson`, `Toleration.read_toJson`, `TopologyTerm.read_toJson`); a toleration's
wait must fit the 64 bits of its API type.
-/

namespace CsiOperator.Kube.Schema

variable (ms : List (String × Json))

theorem readFields_absent {key : String} {s : Schema} {rest : List (String × Presence × Schema)}
    (h : ms.find? (·.1 == key) = none) :
    readFields ms ((key, .optional, s) :: rest) = readFields ms rest := by
  have hz : (ms.zipIdx 0).find? (·.1.1 == key) = none := by
    have located := find?_zipIdx key ms 0
    rw [h, Option.map_none, Option.map_eq_none_iff] at located
    exact located
  rw [readFields, hz]
  generalize readFields ms rest = r
  obtain ⟨others, fault⟩ := r
  rfl

theorem readFields_present {key : String} {presence : Presence} {s : Schema}
    {rest : List (String × Presence × Schema)} {v : Json}
    (h : (ms.find? (·.1 == key)).map (·.2) = some v) (hv : v ≠ .null) (hr : read s v = .ok v) :
    readFields ms ((key, presence, s) :: rest) =
      ((key, v) :: (readFields ms rest).1, (readFields ms rest).2) := by
  have located := find?_zipIdx key ms 0
  rw [h] at located
  obtain ⟨⟨⟨k, w⟩, i⟩, hz, hw⟩ := Option.map_eq_some_iff.1 located
  simp only at hw
  subst hw
  rw [readFields, hz]
  generalize readFields ms rest = r
  obtain ⟨others, fault⟩ := r
  simp only [Option.map_some]
  split
  · next heq => exact absurd (Prod.mk.inj (Option.some.inj heq)).2 hv
  · next heq => exact absurd (Prod.mk.inj (Option.some.inj heq)).2 hv
  · next _ _ _ _ _ hsome _ _ =>
    obtain ⟨rfl, rfl⟩ := Prod.mk.inj (Option.some.inj hsome)
    simp [Reader.inside, hr]
  · next heq => cases heq
  · next heq => cases heq
  · next heq => cases heq

/-- A member as a record writes it for a field: left out only when the field is optional, and
otherwise a value other than `null` that the field's schema reads as itself. -/
def WrittenMember (presence : Presence) (s : Schema) (o : Option Json) : Prop :=
  o.elim (presence = .optional) fun v => v ≠ .null ∧ read s v = .ok v

/-- Members written for the fields of a record schema, one for each field and in its order. -/
def Written (fs : List (String × Presence × Schema)) (l : List (String × Option Json)) : Prop :=
  List.Forall₂ (fun f m => m.1 = f.1 ∧ WrittenMember f.2.1 f.2.2 m.2) fs l

/-- The members present in a written record. -/
def presentMembers (l : List (String × Option Json)) : List (String × Json) :=
  l.filterMap fun x => x.2.map (x.1, ·)

theorem readFields_written_of_holds {fs : List (String × Presence × Schema)}
    {l : List (String × Option Json)} (hw : Written fs l)
    (holds : ∀ x ∈ l, Reader.Members.Holds ⟨ms⟩ x.1 x.2) :
    readFields ms fs = (presentMembers l, none) := by
  induction hw with
  | nil => rfl
  | @cons f m fs l head _ ih =>
    obtain ⟨key, presence, s⟩ := f
    obtain ⟨k, o⟩ := m
    obtain ⟨rfl, written⟩ := head
    have rest := ih fun x hx => holds x (List.mem_cons_of_mem _ hx)
    have located := (holds (k, o) List.mem_cons_self).1
    cases o with
    | none =>
      have presence_optional : presence = .optional := written
      subst presence_optional
      rw [readFields_absent ms (Option.map_eq_none_iff.1 located), rest]
      rfl
    | some v =>
      rw [readFields_present ms located written.1 written.2, rest]
      rfl

theorem read_written {name : String} {fs : List (String × Presence × Schema)}
    {l : List (String × Option Json)} (hw : Written fs l) (hkeys : (l.map (·.1)).Nodup) :
    read (.record name fs) (Json.fields l) = .ok (Json.fields l) := by
  have fields := readFields_written_of_holds (presentMembers l) hw fun x hx =>
    Reader.Members.holds_fields hkeys hx
  simp only [Json.fields, read]
  rw [show (l.filterMap fun x => x.2.map (x.1, ·)) = presentMembers l from rfl, fields]

theorem readItems_self {s : Schema} :
    ∀ (i : Nat) (xs : List Json), (∀ x ∈ xs, read s x = .ok x) → readItems (read s) i xs = .ok xs
  | _, [], _ => rfl
  | i, x :: rest, h => by
    simp [readItems, Reader.inside, h x List.mem_cons_self,
      readItems_self (i + 1) rest fun y hy => h y (List.mem_cons_of_mem _ hy)]
    rfl

theorem read_list_self {s : Schema} {xs : List Json} (h : ∀ x ∈ xs, read s x = .ok x) :
    read (.list s) (.arr xs) = .ok (.arr xs) := by
  simp [read, readItems_self 0 xs h, Except.map]

theorem read_strList (xs : List String) : read strList (Json.strs xs) = .ok (Json.strs xs) :=
  read_list_self fun x hx => by
    obtain ⟨t, -, rfl⟩ := List.mem_map.1 hx
    rfl

theorem read_int64 {n : Int} (h : -9223372036854775808 ≤ n ∧ n ≤ 9223372036854775807) :
    read .int64 (.int n) = .ok (.int n) := by
  simp [read, Reader.i64, Reader.intIn, h, Except.map]

theorem writtenMember_some {presence : Presence} {s : Schema} {v : Json} (hv : v ≠ .null)
    (hr : read s v = .ok v) : WrittenMember presence s (some v) := ⟨hv, hr⟩

theorem writtenMember_map {α : Type} {s : Schema} {f : α → Json} (o : Option α)
    (h : ∀ x ∈ o, f x ≠ .null ∧ read s (f x) = .ok (f x)) : WrittenMember .optional s (o.map f) := by
  cases o with
  | none => rfl
  | some x => exact h x rfl

theorem fields_ne_null (l : List (String × Option Json)) : Json.fields l ≠ .null := by
  simp [Json.fields]

end CsiOperator.Kube.Schema

namespace CsiOperator

open Kube.Schema

theorem KeyRef.toJson_written (r : KeyRef) (name : String) :
    Kube.Schema.read (Kube.keySelector name) r.toJson = .ok r.toJson :=
  read_written (.cons ⟨rfl, writtenMember_some (by simp) rfl⟩ (.cons ⟨rfl, writtenMember_map _
    fun _ _ => ⟨by simp, rfl⟩⟩ (.cons ⟨rfl, writtenMember_map _ fun _ _ => ⟨by simp, rfl⟩⟩ .nil)))
    (by simp)

namespace Json

@[simp] theorem get?_fields_cons_of_ne {k key : String} (o : Option Json)
    (rest : List (String × Option Json)) (h : k ≠ key) :
    (Json.fields ((k, o) :: rest)).get? key = (Json.fields rest).get? key := by
  have hk : (k == key) = false := by simpa using h
  cases o <;> simp [Json.fields, Json.get?, hk]

@[simp] theorem get?_fields_cons_self (k : String) (o : Option Json)
    (rest : List (String × Option Json)) :
    (Json.fields ((k, o) :: rest)).get? k = o.or ((Json.fields rest).get? k) := by
  cases o <;> simp [Json.fields, Json.get?]

@[simp] theorem get?_fields_nil (key : String) : (Json.fields []).get? key = none := rfl

theorem get?_obj (ms : List (String × Json)) (key : String) :
    (Json.obj ms).get? key = (ms.find? (·.1 == key)).map (·.2) := rfl

end Json

theorem KeyRef.ofDoc_toJson (r : KeyRef) : KeyRef.ofDoc r.toJson = r := by
  obtain ⟨key, name, optional⟩ := r
  cases name <;> cases optional <;>
    simp [KeyRef.ofDoc, KeyRef.toJson, Json.fields, Json.strD, Json.strOpt, Json.boolOpt,
      Json.get?, Json.optStr, Json.str?, Json.bool?]

theorem EnvSource.ofDoc_toJson (s : EnvSource) : EnvSource.ofDoc s.toJson = s := by
  obtain ⟨cm, field, res, secret⟩ := s
  simp [EnvSource.ofDoc, EnvSource.toJson, Json.strOpt, Json.strD, Option.map_map,
    Function.comp_def, KeyRef.ofDoc_toJson, Json.optStr, Json.str?, Option.bind_map]

theorem EnvSource.toJson_written (s : EnvSource) :
    Kube.Schema.read Kube.envVarSource s.toJson = .ok s.toJson :=
  read_written
    (.cons ⟨rfl, writtenMember_map _ fun r _ => ⟨fields_ne_null _, r.toJson_written _⟩⟩
    (.cons ⟨rfl, writtenMember_map _ fun _ _ => ⟨fields_ne_null _, read_written
      (.cons ⟨rfl, writtenMember_map _ fun _ _ => ⟨by simp, rfl⟩⟩
      (.cons ⟨rfl, writtenMember_some (by simp) rfl⟩ .nil)) (by simp)⟩⟩
    (.cons ⟨rfl, writtenMember_map _ fun _ _ => ⟨fields_ne_null _, read_written
      (.cons ⟨rfl, writtenMember_map _ fun _ _ => ⟨by simp, rfl⟩⟩
      (.cons ⟨rfl, writtenMember_map _ fun _ _ => ⟨by simp, rfl⟩⟩
      (.cons ⟨rfl, writtenMember_some (by simp) rfl⟩ .nil))) (by simp)⟩⟩
    (.cons ⟨rfl, writtenMember_map _ fun r _ => ⟨fields_ne_null _, r.toJson_written _⟩⟩ .nil))))
    (by simp)

theorem EnvVar.read_toJson (e : EnvVar) : EnvVar.read e.toJson = .ok e := by
  have written : Kube.Schema.read Kube.envVar e.toJson = .ok e.toJson :=
    read_written (.cons ⟨rfl, writtenMember_some (by simp) rfl⟩
      (.cons ⟨rfl, writtenMember_map _ fun _ _ => ⟨by simp, rfl⟩⟩
      (.cons ⟨rfl, writtenMember_map _ fun s _ => ⟨fields_ne_null _, s.toJson_written⟩⟩ .nil)))
      (by simp)
  have doc : EnvVar.ofDoc e.toJson = e := by
    obtain ⟨name, value, source⟩ := e
    simp [EnvVar.ofDoc, EnvVar.toJson, Json.strOpt, Json.strD, Json.optStr, Json.str?,
      Option.map_map, Option.bind_map, Function.comp_def, EnvSource.ofDoc_toJson]
  simp [EnvVar.read, written, doc, Except.map]

/-- An integer a signed 32-bit field holds. -/
def FitsI32 (n : Int) : Prop := -2147483648 ≤ n ∧ n ≤ 2147483647

/-- An integer a signed 64-bit field holds. -/
def FitsI64 (n : Int) : Prop := -9223372036854775808 ≤ n ∧ n ≤ 9223372036854775807

/-- A toleration whose wait fits a 64-bit integer, as the API's type holds it. -/
def Toleration.Exact (t : Toleration) : Prop := ∀ n ∈ t.tolerationSeconds, FitsI64 n

theorem Toleration.read_toJson {t : Toleration} (ht : t.Exact) : Toleration.read t.toJson = .ok t := by
  have written : Kube.Schema.read Kube.toleration t.toJson = .ok t.toJson :=
    read_written (.cons ⟨rfl, writtenMember_map _ fun _ _ => ⟨by simp, rfl⟩⟩
      (.cons ⟨rfl, writtenMember_map _ fun _ _ => ⟨by simp, rfl⟩⟩
      (.cons ⟨rfl, writtenMember_map _ fun _ _ => ⟨by simp, rfl⟩⟩
      (.cons ⟨rfl, writtenMember_map _ fun n hn => ⟨by simp, read_int64 (ht n hn)⟩⟩
      (.cons ⟨rfl, writtenMember_map _ fun _ _ => ⟨by simp, rfl⟩⟩ .nil)))))
      (by simp)
  have doc : Toleration.ofDoc t.toJson = t := by
    obtain ⟨effect, key, operator, seconds, value⟩ := t
    simp [Toleration.ofDoc, Toleration.toJson, Json.strOpt, Json.intOpt, Json.optStr, Json.str?,
      Json.int?, Option.bind_map, Function.comp_def]
  simp [Toleration.read, written, doc, Except.map]

theorem TopologyTerm.read_toJson (t : TopologyTerm) : TopologyTerm.read t.toJson = .ok t := by
  have requirement (r : TopologyRequirement) :
      Kube.Schema.read (.record "TopologySelectorLabelRequirement"
        [Kube.dfl "key" .string, Kube.dfl "values" Kube.strList])
        (.obj [("key", .str r.key), ("values", Json.strs r.values)]) =
      .ok (.obj [("key", .str r.key), ("values", Json.strs r.values)]) :=
    read_written (l := [("key", some (.str r.key)), ("values", some (Json.strs r.values))])
      (.cons ⟨rfl, writtenMember_some (by simp) rfl⟩
      (.cons ⟨rfl, writtenMember_some (by simp [Json.strs]) (read_strList _)⟩ .nil)) (by simp)
  have written : Kube.Schema.read Kube.topologySelectorTerm t.toJson = .ok t.toJson :=
    read_written (.cons ⟨rfl, writtenMember_map _ fun rs _ => ⟨by simp,
      read_list_self fun x hx => by
        obtain ⟨r, -, rfl⟩ := List.mem_map.1 hx
        exact requirement r⟩⟩ .nil) (by simp)
  have doc : TopologyTerm.ofDoc t.toJson = t := by
    obtain ⟨expressions⟩ := t
    cases expressions <;>
      simp [TopologyTerm.ofDoc, TopologyTerm.toJson, Json.items?, Json.strD, Json.strs,
        Json.strList, Json.get?_obj, Json.str?, Function.comp_def, List.filterMap_map]
  simp [TopologyTerm.read, written, doc, Except.map]

end CsiOperator
