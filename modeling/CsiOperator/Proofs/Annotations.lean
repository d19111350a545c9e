import Mathlib
import CsiOperator.Spec.Defaults
import CsiOperator.Proofs.StatusText
/-!
Association lists sorted by key, as `Reader.insertSorted` builds them: the annotations of a
driver resource, and the maps read from documents.

A lookup after an insertion sees the inserted value at its key and the old list elsewhere;
insertion keeps the keys strictly increasing; and two lists whose keys increase strictly and
whose lookups agree are equal. Lists are therefore compared through their lookups. A sequence
of annotation writes is read through the last value it writes at each key, and annotations
that already hold those values are left as they are by it.
-/

namespace CsiOperator.Reader

variable {α : Type}

/-- Keys strictly increasing, as insertion from the empty list keeps them. -/
def KeySorted (l : List (String × α)) : Prop := l.Pairwise fun a b => a.1 < b.1

@[simp] theorem keySorted_nil : KeySorted ([] : List (String × α)) := List.Pairwise.nil

theorem keySorted_cons {p : String × α} {l : List (String × α)} :
    KeySorted (p :: l) ↔ (∀ q ∈ l, p.1 < q.1) ∧ KeySorted l := List.pairwise_cons

theorem lookup_cons_ite (k : String) (v : α) (l : List (String × α)) (k' : String) :
    ((k, v) :: l).lookup k' = if k' = k then some v else l.lookup k' := by
  by_cases h : k' = k
  · subst h
    simp
  · rw [List.lookup_cons, beq_false_of_ne h, if_neg h]

@[simp] theorem lookup_insertSorted (k : String) (v : α) (l : List (String × α)) (k' : String) :
    (insertSorted k v l).lookup k' = if k' = k then some v else l.lookup k' := by
  induction l with
  | nil => simp [insertSorted, lookup_cons_ite]
  | cons p rest ih =>
    obtain ⟨k₀, v₀⟩ := p
    unfold insertSorted
    by_cases hk : k = k₀
    · subst hk
      by_cases hk' : k' = k <;> simp [lookup_cons_ite, hk']
    · by_cases hlt : k < k₀
      · by_cases hk' : k' = k <;> simp [lookup_cons_ite, hk, hlt, hk']
      · simp only [hk, hlt, if_false, lookup_cons_ite, ih]
        by_cases hk' : k' = k
        · subst hk'
          simp [hk]
        · simp [hk']

theorem mem_insertSorted {k : String} {v : α} {l : List (String × α)} {p : String × α}
    (h : p ∈ insertSorted k v l) : p = (k, v) ∨ p ∈ l := by
  induction l with
  | nil => simpa [insertSorted] using h
  | cons q rest ih =>
    unfold insertSorted at h
    split_ifs at h with hk hlt
    · rcases List.mem_cons.1 h with rfl | h
      · exact .inl rfl
      · exact .inr (List.mem_cons_of_mem _ h)
    · rcases List.mem_cons.1 h with rfl | h
      · exact .inl rfl
      · exact .inr h
    · rcases List.mem_cons.1 h with rfl | h
      · exact .inr List.mem_cons_self
      · exact (ih h).imp_right (List.mem_cons_of_mem _)

theorem KeySorted.insertSorted {l : List (String × α)} (hs : KeySorted l) (k : String) (v : α) :
    KeySorted (insertSorted k v l) := by
  induction l with
  | nil => simp [Reader.insertSorted, KeySorted]
  | cons q rest ih =>
    obtain ⟨hq, hrest⟩ := keySorted_cons.1 hs
    unfold Reader.insertSorted
    split_ifs with hk hlt
    · obtain ⟨k₀, v₀⟩ := q
      dsimp only at hk
      subst hk
      exact keySorted_cons.2 ⟨hq, hrest⟩
    · refine keySorted_cons.2 ⟨?_, hs⟩
      intro p hp
      rcases List.mem_cons.1 hp with rfl | hp
      · exact hlt
      · exact hlt.trans (hq p hp)
    · -- the new key goes after `q`: it is neither `q`'s key nor below it
      have hgt : q.1 < k := lt_of_le_of_ne (not_lt.1 hlt) (Ne.symm hk)
      refine keySorted_cons.2 ⟨fun p hp => ?_, ih hrest⟩
      rcases mem_insertSorted hp with rfl | hp
      · exact hgt
      · exact hq p hp

theorem lookup_eq_none_of_lt {l : List (String × α)} {k : String} (h : ∀ q ∈ l, k < q.1) :
    l.lookup k = none :=
  List.lookup_eq_none_iff.2 fun q hq => bne_iff_ne.2 (h q hq).ne

theorem KeySorted.ext {l₁ l₂ : List (String × α)} (h₁ : KeySorted l₁) (h₂ : KeySorted l₂)
    (h : ∀ k, l₁.lookup k = l₂.lookup k) : l₁ = l₂ := by
  induction l₁ generalizing l₂ with
  | nil =>
    cases l₂ with
    | nil => rfl
    | cons q _ => simpa [lookup_cons_ite] using (h q.1).symm
  | cons p rest ih =>
    obtain ⟨k₁, v₁⟩ := p
    obtain ⟨hp, hrest⟩ := keySorted_cons.1 h₁
    cases l₂ with
    | nil => simpa [lookup_cons_ite] using h k₁
    | cons q rest' =>
      obtain ⟨k₂, v₂⟩ := q
      obtain ⟨hq, hrest'⟩ := keySorted_cons.1 h₂
      -- the smaller head key would be missing from the other list
      have hkey : k₁ = k₂ := by
        rcases lt_trichotomy k₁ k₂ with hlt | heq | hgt
        · have := h k₁
          rw [lookup_cons_ite, lookup_cons_ite, if_pos rfl, if_neg hlt.ne,
            lookup_eq_none_of_lt fun r hr => hlt.trans (hq r hr)] at this
          cases this
        · exact heq
        · have := h k₂
          rw [lookup_cons_ite, lookup_cons_ite, if_pos rfl, if_neg hgt.ne,
            lookup_eq_none_of_lt fun r hr => hgt.trans (hp r hr)] at this
          cases this
      subst hkey
      have hval : v₁ = v₂ := by simpa [lookup_cons_ite] using h k₁
      have htail : rest = rest' := by
        refine ih hrest hrest' fun k => ?_
        by_cases hk : k = k₁
        · subst hk
          rw [lookup_eq_none_of_lt hp, lookup_eq_none_of_lt hq]
        · simpa [lookup_cons_ite, hk] using h k
      rw [hval, htail]

theorem insertSorted_of_lt {l : List (String × α)} {k : String} (v : α) (h : ∀ q ∈ l, q.1 < k) :
    insertSorted k v l = l ++ [(k, v)] := by
  induction l with
  | nil => rfl
  | cons q rest ih =>
    have hq := h q List.mem_cons_self
    unfold insertSorted
    rw [if_neg hq.ne', if_neg (lt_asymm hq), ih fun r hr => h r (List.mem_cons_of_mem _ hr)]
    rfl

theorem foldl_insertSorted {acc l : List (String × α)} (hs : KeySorted (acc ++ l)) :
    l.foldl (fun acc p => insertSorted p.1 p.2 acc) acc = acc ++ l := by
  induction l generalizing acc with
  | nil => simp
  | cons p rest ih =>
    have hlt : ∀ q ∈ acc, q.1 < p.1 := fun q hq =>
      (List.pairwise_append.1 hs).2.2 q hq p List.mem_cons_self
    rw [List.foldl_cons, insertSorted_of_lt p.2 hlt, ih (by simpa using hs)]
    simp

end CsiOperator.Reader

namespace CsiOperator.Json

theorem setMember_go_go (key : String) (v : Json) :
    ∀ xs : List (String × Json), setMember.go key v (setMember.go key v xs) = setMember.go key v xs
  | [] => rfl
  | (k, w) :: rest => by
    by_cases hk : k = key
    · simp [setMember.go, hk]
    · simp [setMember.go, hk, setMember_go_go key v rest]

theorem setMember_go_append_self (key : String) (v : Json) :
    ∀ xs : List (String × Json), xs.any (·.1 == key) = false →
      setMember.go key v (xs ++ [(key, v)]) = xs ++ [(key, v)]
  | [], _ => by simp [setMember.go]
  | (k, w) :: rest, h => by
    have hk : (k == key) = false := by simp_all
    simp only [List.any_cons, hk, Bool.false_or] at h
    simp [setMember.go, hk, setMember_go_append_self key v rest h]

theorem setMember_setMember (ms : List (String × Json)) (key : String) (v : Json) :
    setMember (setMember ms key v) key v = setMember ms key v := by
  by_cases present : ms.any (·.1 == key) = true
  · have hagain : (setMember.go key v ms).any (·.1 == key) = true := by
      simpa [get?] using congrArg Option.isSome (find?_setMember_go_self key v ms present)
    simp [setMember, present, hagain, setMember_go_go]
  · have habsent : ms.any (·.1 == key) = false := Bool.eq_false_iff.2 present
    simp [setMember, habsent, setMember_go_append_self key v ms habsent]

theorem set_set_self (j : Json) (key : String) (v : Json) : (j.set key v).set key v = j.set key v :=
  congrArg Json.obj (setMember_setMember j.members key v)

end CsiOperator.Json

namespace CsiOperator.Defaults

open Reader

/-- Writes annotations in order. -/
def annotateAll (as : Annotations) (writes : List (String × String)) : Annotations :=
  writes.foldl (fun as w => annotate as w.1 w.2) as

@[simp] theorem annotateAll_nil (as : Annotations) : annotateAll as [] = as := rfl

@[simp] theorem annotateAll_append (as : Annotations) (ws ws' : List (String × String)) :
    annotateAll as (ws ++ ws') = annotateAll (annotateAll as ws) ws' := List.foldl_append

theorem annotateAll_cons (as : Annotations) (w : String × String) (ws : List (String × String)) :
    annotateAll as (w :: ws) = annotateAll (annotate as w.1 w.2) ws := rfl

@[simp] theorem lookup_annotate (as : Annotations) (k v k' : String) :
    (annotate as k v).lookup k' = if k' = k then some v else as.lookup k' :=
  lookup_insertSorted k v as k'

theorem keySorted_annotate {as : Annotations} (hs : KeySorted as) (k v : String) :
    KeySorted (annotate as k v) := hs.insertSorted k v

theorem keySorted_annotateAll {as : Annotations} (hs : KeySorted as) (ws : List (String × String)) :
    KeySorted (annotateAll as ws) := by
  induction ws generalizing as with
  | nil => exact hs
  | cons w ws ih => exact ih (keySorted_annotate hs w.1 w.2)

theorem lookup_annotateAll (as : Annotations) (ws : List (String × String)) (k : String) :
    (annotateAll as ws).lookup k = (ws.reverse.lookup k).or (as.lookup k) := by
  induction ws generalizing as with
  | nil => simp
  | cons w ws ih =>
    obtain ⟨k₀, v₀⟩ := w
    rw [annotateAll_cons, ih, List.reverse_cons, List.lookup_append, Option.or_assoc,
      lookup_annotate]
    by_cases hk : k = k₀ <;> simp [hk]

theorem annotate_of_lookup {as : Annotations} (hs : KeySorted as) {k v : String}
    (h : as.lookup k = some v) : annotate as k v = as := by
  refine (keySorted_annotate hs k v).ext hs fun k' => ?_
  by_cases hk : k' = k
  · subst hk
    simp [h]
  · simp [hk]

/-- Annotations record a sequence of writes when they hold, at each key written, the last value
written there. -/
def Records (as : Annotations) (ws : List (String × String)) : Prop :=
  ∀ k v, ws.reverse.lookup k = some v → as.lookup k = some v

theorem records_annotateAll (as : Annotations) (ws : List (String × String)) :
    Records (annotateAll as ws) ws := by
  intro k v h
  rw [lookup_annotateAll, h]
  rfl

theorem Records.append {as : Annotations} {ws ws' : List (String × String)} (h : Records as ws)
    (h' : Records as ws') : Records as (ws ++ ws') := by
  intro k v hk
  rw [List.reverse_append, List.lookup_append] at hk
  cases hlast : ws'.reverse.lookup k with
  | some v' =>
    rw [hlast] at hk
    exact (Option.some.inj hk) ▸ h' k v' hlast
  | none =>
    rw [hlast] at hk
    exact h k v hk

theorem Records.frame {as as' : Annotations} {ws : List (String × String)} (h : Records as ws)
    (hframe : ∀ k ∈ ws.map Prod.fst, as'.lookup k = as.lookup k) : Records as' ws := by
  intro k v hk
  have hmem : k ∈ ws.map Prod.fst := by
    by_contra hnot
    have : ws.reverse.lookup k = none :=
      List.lookup_eq_none_iff.2 fun q hq => bne_iff_ne.2 fun hkq =>
        hnot (List.mem_map.2 ⟨q, List.mem_reverse.1 hq, hkq.symm⟩)
    rw [this] at hk
    cases hk
  rw [hframe k hmem]
  exact h k v hk

theorem annotateAll_of_records {as : Annotations} (hs : KeySorted as) {ws : List (String × String)}
    (h : Records as ws) : annotateAll as ws = as := by
  refine (keySorted_annotateAll hs ws).ext hs fun k => ?_
  rw [lookup_annotateAll]
  cases hk : ws.reverse.lookup k with
  | none => rfl
  | some v => exact (h k v hk).symm

theorem annotationsOf_of_get? {r : DriverResource} {as : Annotations} (hs : KeySorted as)
    (h : r.metadata.get? "annotations" = some (Json.strMap as)) : annotationsOf r = some as := by
  have hmembers : (Json.strMap as).strMembers = as := by
    simp [Json.strMap, Json.strMembers, Json.members, Json.members?, Json.str?]
  simp only [annotationsOf, h, Option.map_some, hmembers, annotate]
  simpa using foldl_insertSorted (α := String) (l := as) (by simpa using hs : KeySorted ([] ++ as))

theorem keySorted_annotationsOf (r : DriverResource) :
    KeySorted ((annotationsOf r).getD []) := by
  unfold annotationsOf
  cases r.metadata.get? "annotations" with
  | none => exact keySorted_nil
  | some j =>
    exact keySorted_annotateAll keySorted_nil j.strMembers

end CsiOperator.Defaults
