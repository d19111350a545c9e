import Mathlib
import CsiOperator.Kube.Layer
/-!
Layering by key. The merges of variables, volumes, mounts, arguments and tolerations all layer
entries that match when a key of theirs is equal: the name, the part of an argument before its
first `=`, or the whole toleration. Over a source list whose keys are distinct, such a layering
is described entry by entry (`layered`): each source entry stays in its place, replaced by the
last new entry with its key; after them come the keys the source lacks, in the order they first
occur among the new entries, each with its last new entry.

The description is proved by carrying it through the fold one new entry at a time
(`put_layered`), from the rule that putting an entry into a list with distinct keys replaces
the entry with its key or appends it (`put_of_nodup`).
-/

namespace CsiOperator.Layer

variable {α κ : Type} [BEq κ] [LawfulBEq κ] (key : α → κ)

/-! ## First occurrences -/

theorem eraseDups_concat (l : List κ) (a : κ) :
    (l ++ [a]).eraseDups = if a ∈ l then l.eraseDups else l.eraseDups ++ [a] := by
  rw [List.eraseDups_append]
  by_cases h : a ∈ l
  · simp [h, List.removeAll]
  · simp [h, List.removeAll, List.eraseDups_cons]

theorem nodup_eraseDups (l : List κ) : l.eraseDups.Nodup := by
  induction l using List.reverseRecOn with
  | nil => simp
  | append_singleton l a ih =>
    rw [eraseDups_concat]
    split
    · exact ih
    · next h =>
      refine List.nodup_append.2 ⟨ih, List.nodup_singleton a, ?_⟩
      rintro b hb c hc rfl
      rw [List.mem_singleton] at hc
      exact h (hc ▸ List.mem_eraseDups.1 hb)

/-! ## The last new entry of a key -/

/-- The last entry of a list with a key. -/
def lastWith (new : List α) (k : κ) : Option α := (new.filter (key · == k)).getLast?

variable {key}

theorem lastWith_key {new : List α} {k : κ} {e : α} (h : lastWith key new k = some e) :
    key e = k ∧ e ∈ new := by
  have he := List.mem_of_getLast? h
  simp only [List.mem_filter, beq_iff_eq] at he
  exact ⟨he.2, he.1⟩

theorem lastWith_eq_none {new : List α} {k : κ} : lastWith key new k = none ↔ k ∉ new.map key := by
  simp [lastWith]

omit [LawfulBEq κ] in
theorem lastWith_concat (new : List α) (x : α) (k : κ) :
    lastWith key (new ++ [x]) k = if key x == k then some x else lastWith key new k := by
  unfold lastWith
  by_cases h : key x == k <;> simp [h, List.filter_append]

omit [LawfulBEq κ] in
theorem lastWith_cons (x : α) (new : List α) (k : κ) :
    lastWith key (x :: new) k = (lastWith key new k).or (if key x == k then some x else none) := by
  unfold lastWith
  by_cases h : key x == k
  · cases hl : (new.filter (key · == k)).getLast? <;> simp [h, hl, List.getLast?_cons]
  · simp [h]

theorem lastWith_isSome {new : List α} {k : κ} (h : k ∈ new.map key) :
    ∃ e, lastWith key new k = some e := by
  cases hl : lastWith key new k with
  | none => exact absurd h (lastWith_eq_none.1 hl)
  | some e => exact ⟨e, rfl⟩

variable (key)

/-! ## The layered list -/

/-- The keys of the new entries that the source lacks, in order of first occurrence. -/
def fresh (source new : List α) : List κ :=
  ((new.map key).filter (· ∉ source.map key)).eraseDups

/-- The first new entry of each fresh key. -/
def firsts (source new : List α) : List α :=
  (fresh key source new).filterMap fun k => new.find? (key · == k)

/-- A layering described entry by entry: the source entries, then the first new entry of each
fresh key, each replaced by the last new entry of its key. -/
def layered (source new : List α) : List α :=
  (source ++ firsts key source new).map fun e => (lastWith key new (key e)).getD e

variable {key}

theorem mem_fresh {source new : List α} {k : κ} :
    k ∈ fresh key source new ↔ k ∈ new.map key ∧ k ∉ source.map key := by
  simp [fresh, -List.mem_map]

theorem fresh_concat (source new : List α) (x : α) :
    fresh key source (new ++ [x]) =
      if key x ∈ source.map key ∨ key x ∈ new.map key then fresh key source new
      else fresh key source new ++ [key x] := by
  unfold fresh
  by_cases hs : key x ∈ source.map key
  · simp [hs, List.filter_append]
  · by_cases hn : key x ∈ new.map key <;> simp [hs, hn, List.filter_append, eraseDups_concat]

theorem find?_key {new : List α} {k : κ} (h : k ∈ new.map key) :
    ∃ f, new.find? (key · == k) = some f ∧ key f = k := by
  cases hf : new.find? (key · == k) with
  | none =>
    obtain ⟨n, hn, rfl⟩ := List.mem_map.1 h
    exact absurd hf (by simpa using ⟨n, hn, rfl⟩)
  | some f => exact ⟨f, rfl, by simpa using List.find?_some hf⟩

theorem keys_firsts (source new : List α) : (firsts key source new).map key = fresh key source new := by
  unfold firsts
  rw [List.map_filterMap]
  refine (List.filterMap_congr fun k hk => ?_).trans List.filterMap_some
  obtain ⟨f, hf, hkey⟩ := find?_key (mem_fresh.1 hk).1
  simp [hf, hkey]

theorem firsts_concat (source new : List α) (x : α) :
    firsts key source (new ++ [x]) =
      if key x ∈ source.map key ∨ key x ∈ new.map key then firsts key source new
      else firsts key source new ++ [x] := by
  have hkeep : ∀ k ∈ fresh key source new,
      (new ++ [x]).find? (key · == k) = new.find? (key · == k) := fun k hk => by
    obtain ⟨f, hf, -⟩ := find?_key (mem_fresh.1 hk).1
    simp [List.find?_append, hf]
  unfold firsts
  rw [fresh_concat]
  split
  · exact List.filterMap_congr hkeep
  · next hx =>
    have hnew : new.find? (key · == key x) = none :=
      List.find?_eq_none.2 fun n hn h => hx (.inr (beq_iff_eq.1 h ▸ List.mem_map_of_mem hn))
    rw [List.filterMap_append, List.filterMap_congr hkeep]
    simp [List.find?_append, hnew]

variable (key) in
theorem key_getD_lastWith (new : List α) (d : α) : key ((lastWith key new (key d)).getD d) = key d := by
  cases h : lastWith key new (key d) with
  | none => rfl
  | some e => exact (lastWith_key h).1

theorem keys_layered (source new : List α) :
    (layered key source new).map key = source.map key ++ fresh key source new := by
  unfold layered
  rw [List.map_map, ← keys_firsts, ← List.map_append]
  exact List.map_congr_left fun e _ => key_getD_lastWith key new e

theorem nodup_keys_layered {source : List α} (new : List α) (hs : (source.map key).Nodup) :
    ((layered key source new).map key).Nodup := by
  rw [keys_layered, List.nodup_append]
  exact ⟨hs, nodup_eraseDups _, fun a ha b hb hab => (mem_fresh.1 hb).2 (hab ▸ ha)⟩

/-! ## One put -/

theorem put_nil (same : α → α → Bool) (x : α) : put same [] x = [x] := rfl

theorem put_cons (same : α → α → Bool) (m : α) (l : List α) (x : α) :
    put same (m :: l) x = if same m x then x :: l else m :: put same l x := by
  unfold put
  rw [List.findIdx?_cons]
  by_cases h : same m x
  · simp [h]
  · cases l.findIdx? (same · x) <;> simp [h]

theorem put_of_nodup (l : List α) (x : α) (hl : (l.map key).Nodup) :
    put (fun a b => key a == key b) l x =
      if key x ∈ l.map key then l.map (fun m => if key m == key x then x else m) else l ++ [x] := by
  induction l with
  | nil => simp [put_nil]
  | cons m l ih =>
    rw [List.map_cons, List.nodup_cons] at hl
    rw [put_cons, ih hl.2]
    by_cases hm : key m = key x
    · have hrest : l.map (fun m => if key m == key x then x else m) = l := by
        refine (List.map_congr_left fun n hn => ?_).trans (List.map_id l)
        have : key n ≠ key x := fun h => hl.1 (hm ▸ h ▸ List.mem_map_of_mem hn)
        simp [this]
      simp [hm, hrest]
    · by_cases hx : key x ∈ l.map key
      · simp [hm, hx]
      · simp [hm, hx, Ne.symm hm]

theorem getD_lastWith_concat (new : List α) (x d : α) :
    (lastWith key (new ++ [x]) (key d)).getD d =
      if key ((lastWith key new (key d)).getD d) == key x then x
      else (lastWith key new (key d)).getD d := by
  rw [key_getD_lastWith key, lastWith_concat]
  by_cases h : key x = key d
  · simp [h]
  · simp [h, Ne.symm h]

theorem put_layered {source : List α} (new : List α) (x : α) (hs : (source.map key).Nodup) :
    put (fun a b => key a == key b) (layered key source new) x = layered key source (new ++ [x]) := by
  rw [put_of_nodup _ _ (nodup_keys_layered new hs), keys_layered]
  unfold layered
  rw [firsts_concat]
  by_cases hx : key x ∈ source.map key ∨ key x ∈ new.map key
  · -- the key is already there: every entry is replaced where it stands
    have hin : key x ∈ source.map key ++ fresh key source new := by
      by_cases hs' : key x ∈ source.map key
      · exact List.mem_append_left _ hs'
      · exact List.mem_append_right _ (mem_fresh.2 ⟨hx.resolve_left hs', hs'⟩)
    rw [if_pos hin, if_pos hx, List.map_map]
    exact List.map_congr_left fun d _ => (getD_lastWith_concat new x d).symm
  · -- a key of its own: it goes at the end and nothing else changes
    have hout : key x ∉ source.map key ++ fresh key source new := fun h => hx <| by
      rcases List.mem_append.1 h with h | h
      · exact .inl h
      · exact .inr (mem_fresh.1 h).1
    have hkeep : ∀ d ∈ source ++ firsts key source new,
        (lastWith key (new ++ [x]) (key d)).getD d = (lastWith key new (key d)).getD d := by
      intro d hd
      have hne : key d ≠ key x := fun h => hout (h ▸ by
        rw [← keys_firsts, ← List.map_append]
        exact List.mem_map_of_mem hd)
      rw [getD_lastWith_concat, key_getD_lastWith key]
      simp [hne]
    have hlast : (lastWith key (new ++ [x]) (key x)).getD x = x := by simp [lastWith_concat]
    rw [if_neg hout, if_neg hx, ← List.append_assoc]
    calc (source ++ firsts key source new).map (fun e => (lastWith key new (key e)).getD e) ++ [x]
        = (source ++ firsts key source new).map
            (fun e => (lastWith key (new ++ [x]) (key e)).getD e) ++ [x] := by
          rw [List.map_congr_left hkeep]
      _ = _ := by simp only [List.map_append, List.map_cons, List.map_nil, hlast]

theorem mergeBy_concat (same : α → α → Bool) (source new : List α) (x : α) :
    mergeBy same source (new ++ [x]) = put same (mergeBy same source new) x := by
  simp [mergeBy, List.foldl_append]

theorem mergeBy_eq_layered {source : List α} (new : List α) (hs : (source.map key).Nodup) :
    mergeBy (fun a b => key a == key b) source new = layered key source new := by
  induction new using List.reverseRecOn with
  | nil => simp [mergeBy, layered, lastWith, firsts, fresh]
  | append_singleton new x ih =>
    rw [mergeBy_concat, ih, put_layered new x hs]

theorem layered_nil (new : List α) :
    layered key [] new = (new.map key).eraseDups.filterMap (lastWith key new) := by
  simp only [layered, firsts, fresh, List.nil_append, List.map_nil, List.not_mem_nil,
    not_false_eq_true, decide_true, List.filter_true, List.map_filterMap]
  refine List.filterMap_congr fun k hk => ?_
  obtain ⟨f, hf, rfl⟩ := find?_key (List.mem_eraseDups.1 hk)
  obtain ⟨e, he⟩ := lastWith_isSome (List.mem_eraseDups.1 hk)
  simp [hf, he]

/-! ## Precedence -/

theorem filter_key_of_mem {l : List α} {e : α} (hl : (l.map key).Nodup) (he : e ∈ l) :
    l.filter (fun m => key m == key e) = [e] := by
  induction l with
  | nil => cases he
  | cons m l ih =>
    rw [List.map_cons, List.nodup_cons] at hl
    rcases List.mem_cons.1 he with rfl | he
    · have hnone : l.filter (fun m' => key m' == key e) = [] :=
        List.filter_eq_nil_iff.2 fun n hn h => hl.1 (List.mem_map.2 ⟨n, hn, beq_iff_eq.1 h⟩)
      simp [hnone]
    · have hne : key m ≠ key e := fun h => hl.1 (h ▸ List.mem_map_of_mem he)
      simp [hne, ih hl.2 he]

theorem mem_layered_of_lastWith {source new : List α} {k : κ} {e : α}
    (h : lastWith key new k = some e) : e ∈ layered key source new := by
  obtain ⟨hk, hnew⟩ := lastWith_key h
  -- the entry whose key picks `e`: a source entry, or the first new entry of a fresh key
  obtain ⟨d, hd, rfl⟩ : ∃ d ∈ source ++ firsts key source new, key d = k := by
    rw [← List.mem_map, List.map_append, keys_firsts]
    by_cases hs : k ∈ source.map key
    · exact List.mem_append_left _ hs
    · exact List.mem_append_right _ (mem_fresh.2 ⟨hk ▸ List.mem_map_of_mem hnew, hs⟩)
  exact List.mem_map.2 ⟨d, hd, by simp [h]⟩

variable (key)

/-- What layering `new` over `source` gives: distinct keys; for each key of a new entry, the
last new entry with that key and no other entry of that key; every source entry whose key no
new entry has, unchanged; every source position keeping its key; and after the source
positions, the keys the source lacks, in the order they first occur among the new entries. -/
structure Precedence (source new merged : List α) : Prop where
  keys_nodup : (merged.map key).Nodup
  last_wins : ∀ n ∈ new,
    merged.filter (fun m => key m == key n) = (new.filter (fun m => key m == key n)).getLast?.toList
  kept : ∀ (i : Nat) s, source[i]? = some s → key s ∉ new.map key → merged[i]? = some s
  in_place : ∀ (i : Nat) s, source[i]? = some s → merged[i]?.map key = some (key s)
  appended : (merged.drop source.length).map key =
    ((new.map key).filter (· ∉ source.map key)).eraseDups

variable {key}

theorem getElem?_layered {source : List α} (new : List α) {i : Nat} {s : α} (h : source[i]? = some s) :
    (layered key source new)[i]? = some ((lastWith key new (key s)).getD s) := by
  have hi : i < source.length := (List.getElem?_eq_some_iff.1 h).1
  unfold layered
  rw [List.getElem?_map, List.getElem?_append_left hi, h, Option.map_some]

theorem layered_precedence {source : List α} (new : List α) (hs : (source.map key).Nodup) :
    Precedence key source new (layered key source new) where
  keys_nodup := nodup_keys_layered new hs
  last_wins n hn := by
    obtain ⟨e, he⟩ := lastWith_isSome (List.mem_map_of_mem (f := key) hn)
    have hlast : (new.filter (fun m => key m == key n)).getLast? = some e := he
    rw [hlast, ← (lastWith_key he).1,
      filter_key_of_mem (nodup_keys_layered new hs) (mem_layered_of_lastWith he)]
    rfl
  kept i s h hn := by
    rw [getElem?_layered new h, lastWith_eq_none.2 hn, Option.getD_none]
  in_place i s h := by
    rw [getElem?_layered new h, Option.map_some, key_getD_lastWith key]
  appended := by
    rw [List.map_drop, keys_layered, List.drop_left' (List.length_map _)]
    rfl

/-- Layering by a key over a source whose keys are distinct keeps each key once, gives each
key of the new entries its last new entry, keeps the other source entries where they are, and
appends the keys the source lacks in the order they first occur. Layering nothing gives the
source back; layering over nothing keeps, for each key in order of first occurrence, its last
entry. -/
theorem mergeBy_precedence (source new : List α) (hs : (source.map key).Nodup) :
    Precedence key source new (mergeBy (fun a b => key a == key b) source new) ∧
      mergeBy (fun a b => key a == key b) source [] = source ∧
      mergeBy (fun a b => key a == key b) [] new =
        (new.map key).eraseDups.filterMap (lastWith key new) := by
  refine ⟨?_, rfl, ?_⟩
  · rw [mergeBy_eq_layered new hs]
    exact layered_precedence new hs
  · rw [mergeBy_eq_layered new (by simp : (([] : List α).map key).Nodup), layered_nil]

/-- Variables `B` and `D` are overridden, `D` twice, over a source with distinct names. -/
theorem envs_override_precedence :
    let source := [EnvVar.plain "A" "1", EnvVar.plain "B" "2", EnvVar.plain "C" "3"]
    let new := [EnvVar.plain "D" "4", EnvVar.plain "B" "20", EnvVar.plain "D" "40"]
    (source.map EnvVar.name).Nodup ∧
      (Precedence EnvVar.name source new (envs source new) ∧ envs source [] = source ∧
        envs [] new = (new.map EnvVar.name).eraseDups.filterMap (lastWith EnvVar.name new)) := by
  intro source new
  exact ⟨by decide, mergeBy_precedence source new (by decide)⟩

end CsiOperator.Layer
