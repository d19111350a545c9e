import Mathlib
import CsiOperator.Proofs.TimeText
import CsiOperator.Proofs.StoredResources
import CsiOperator.Proofs.KubeText
import CsiOperator.Proofs.ReaderAnswers
import CsiOperator.Proofs.Annotations
/-!
Object metadata reads again once it was read.

The operator reads a stored resource's metadata through the metadata schema and sends what it
read back with the resource. Reading normalises: members the schema does not know are dropped,
maps are sorted by key, times are written in whole seconds. What it writes is read again
(`Kube.objectMeta_rereads`): each field admits what a record reading wrote under its key, and a
time written in whole seconds, a leap second included, is one the reader takes
(`Instant.read_render_seconds`). The finalizers are a list of texts, which reading keeps as it
is (`Kube.finalizers_of_read`).
-/

namespace CsiOperator.Instant

theorem Fields.year_of_instant {f : Fields} {t : Instant} (h : f.instant = .ok t) :
    minYear ≤ (dateOfDays (t.seconds / secondsPerDay)).1 ∧
      (dateOfDays (t.seconds / secondsPerDay)).1 ≤ maxYear := by
  unfold Fields.instant at h
  simp only [bind, Except.bind, pure, Except.pure] at h
  split at h
  · cases h
  split at h
  · cases h
  -- a leap second or not, the instant is given only past the check of its fraction and inside
  -- the calendar
  split at h
  all_goals
    split at h
    · split at h
      · cases h
      · obtain rfl := Except.ok.inj h
        rename_i hy
        simp only [Bool.or_eq_true, decide_eq_true_eq, not_or, not_lt, gt_iff_lt] at hy
        exact hy
    · cases h

theorem year_of_read {s : String} {t : Instant} (h : read s = .ok t) :
    minYear ≤ (dateOfDays (t.seconds / secondsPerDay)).1 ∧
      (dateOfDays (t.seconds / secondsPerDay)).1 ≤ maxYear := by
  unfold read at h
  simp only [bind, Except.bind] at h
  split at h
  · cases h
  · split at h
    · cases h
    · exact Fields.year_of_instant h

theorem instant_of_date {z y : Int} {m d : Nat} (hdate : dateOfDays z = (y, m, d))
    (hmin : minYear ≤ y) (hmax : y ≤ maxYear) {hour minute second : Nat} (hh : hour ≤ 23)
    (hm : minute ≤ 59) (hs : second ≤ 60) {nano : Nat} (hnano : nano < nanosPerSecond) :
    ∃ t, Fields.instant ⟨y, m, d, hour, minute, second, nano, 0⟩ = .ok t := by
  obtain ⟨-, -, -, hdm, hdays⟩ := dateOfDays_spec hdate
  -- the time of day stays within the day the date names, a leap second counted as its last
  have within : ∀ s : Nat, s ≤ 59 →
      (daysOfDate y m d * secondsPerDay + ((hour * 3600 + minute * 60 + s : Nat) : Int) - 0) /
        secondsPerDay = z := by
    intro s hs
    rw [hdays]
    unfold secondsPerDay
    omega
  unfold Fields.instant
  simp only [bind, Except.bind, pure, Except.pure, Int.not_lt.mpr hmin, Int.not_lt.mpr hmax,
    show ¬d > daysInMonth y m by omega, show ¬(0 : Int) ≤ -secondsPerDay by decide,
    show ¬(0 : Int) ≥ secondsPerDay by decide, decide_false, Bool.false_or, Bool.false_eq_true,
    if_false, gt_iff_lt]
  -- the fraction is below a second, and second 60 ends a minute
  split
  · dsimp only
    split
    · rw [within 59 le_rfl, hdate]
      simp [Int.not_lt.mpr hmin, Int.not_lt.mpr hmax]
    · next hbad =>
      refine absurd (.inr ⟨by omega, ?_⟩) hbad
      unfold secondsPerDay
      omega
  · dsimp only
    split
    · rw [within second (by omega), hdate]
      simp [Int.not_lt.mpr hmin, Int.not_lt.mpr hmax]
    · next hbad => exact absurd (.inl (by omega)) hbad

theorem fields_render_seconds {t : Instant} {y : Int} {m d : Nat}
    (hdate : dateOfDays (t.seconds / secondsPerDay) = (y, m, d)) (hmin : minYear ≤ y)
    (hmax : y ≤ maxYear) :
    fields (t.render .seconds).toList = .ok (⟨y, m, d, (t.seconds % secondsPerDay).toNat / 3600,
      (t.seconds % secondsPerDay).toNat / 60 % 60,
      (t.seconds % secondsPerDay).toNat % 60 + (if t.inLeapSecond then 1 else 0), 0, 0⟩, []) := by
  obtain ⟨hm1, hm12, hd1, hdm, -⟩ := dateOfDays_spec hdate
  have hd31 := Nat.le_trans hdm (daysInMonth_le y m)
  have hsod : (t.seconds % secondsPerDay).toNat < 86400 := by unfold secondsPerDay; omega
  -- each field reads back up to the separator that follows it
  have month : ∀ rest, field 1 12 ((padded 2 m).toList ++ rest) = .ok (m, rest) :=
    fun rest => field_padded rest (by omega) (by omega) (by omega)
  have day : ∀ rest, field 1 31 ((padded 2 d).toList ++ rest) = .ok (d, rest) :=
    fun rest => field_padded rest (by omega) (by omega) (by omega)
  have hour : ∀ rest, field 0 23 ((padded 2 ((t.seconds % secondsPerDay).toNat / 3600)).toList ++
      rest) = .ok (((t.seconds % secondsPerDay).toNat / 3600 : Nat), rest) :=
    fun rest => field_padded rest (by omega) (by omega) (by omega)
  have minute : ∀ rest, field 0 59
      ((padded 2 ((t.seconds % secondsPerDay).toNat / 60 % 60)).toList ++ rest) =
        .ok (((t.seconds % secondsPerDay).toNat / 60 % 60 : Nat), rest) :=
    fun rest => field_padded rest (by omega) (by omega) (by omega)
  -- a leap second is written as second 60, which the reader takes
  have second : ∀ rest, field 0 60
      ((padded 2 ((t.seconds % secondsPerDay).toNat % 60 + if t.inLeapSecond then 1 else 0)).toList ++
        rest) = .ok (((t.seconds % secondsPerDay).toNat % 60 + if t.inLeapSecond then 1 else 0 : Nat),
          rest) :=
    fun rest => field_padded rest (by omega) (by split <;> omega) (by split <;> omega)
  unfold render
  simp only [hdate, String.toList_append, fraction,
    show "-".toList = ['-'] by simp, show "T".toList = ['T'] by simp,
    show ":".toList = [':'] by simp, show "Z".toList = ['Z'] by simp,
    show "".toList = [] by simp, List.append_assoc, List.cons_append, List.nil_append]
  unfold fields
  have dash : ∀ rest, literal '-' (trimStart ('-' :: rest)) = .ok rest :=
    fun rest => literal_trimStart rest (by decide)
  have colon : ∀ rest, literal ':' (trimStart (':' :: rest)) = .ok rest :=
    fun rest => literal_trimStart rest (by decide)
  have zed : offset (trimStart ['Z']) = .ok (0, []) := rfl
  simp only [bind, Except.bind, pure, Except.pure, year_written hmin hmax, month, day, hour,
    minute, second, dash, colon, decide_true, Bool.true_or, ite_true, Int.toNat_natCast, zed]
  rfl

theorem read_render_seconds {t : Instant}
    (hmin : minYear ≤ (dateOfDays (t.seconds / secondsPerDay)).1)
    (hmax : (dateOfDays (t.seconds / secondsPerDay)).1 ≤ maxYear) :
    ∃ t', read (t.render .seconds) = .ok t' := by
  generalize hdate : dateOfDays (t.seconds / secondsPerDay) = date at hmin hmax
  obtain ⟨y, m, d⟩ := date
  have hsod : (t.seconds % secondsPerDay).toNat < 86400 := by unfold secondsPerDay; omega
  unfold read
  rw [fields_render_seconds hdate hmin hmax]
  exact instant_of_date hdate hmin hmax (by omega) (by omega) (by split <;> omega) (by decide)

end CsiOperator.Instant

namespace CsiOperator.Kube.Schema

/-! ## Records -/

section Records

variable {ms : List (String × Json)}

theorem readFields_cons_absent {k : String} {p : Presence} {s : Schema}
    {rest : List (String × Presence × Schema)} (hloc : ms.find? (·.1 == k) = none)
    (hp : p ≠ .required) (hrest : (readFields ms rest).2 = none) :
    (readFields ms ((k, p, s) :: rest)).2 = none := by
  have hz : (ms.zipIdx 0).find? (·.1.1 == k) = none := by
    have located := find?_zipIdx k ms 0
    rw [hloc, Option.map_none, Option.map_eq_none_iff] at located
    exact located
  rw [readFields, hz]
  generalize readFields ms rest = r at hrest ⊢
  obtain ⟨others, fault⟩ := r
  cases p
  · exact hrest
  · exact absurd rfl hp
  · exact hrest

theorem readFields_head {k : String} {p : Presence} {s : Schema}
    {rest : List (String × Presence × Schema)} (h : (readFields ms ((k, p, s) :: rest)).2 = none) :
    (readFields ms rest).2 = none ∧
      ((readFields ms ((k, p, s) :: rest)).1 = (readFields ms rest).1 ∧ p ≠ .required ∨
        ∃ y, (readFields ms ((k, p, s) :: rest)).1 = (k, y) :: (readFields ms rest).1 ∧
          (p = .defaulted ∧ y = emptyValue s ∨ ∃ v, read s v = .ok y)) := by
  rw [readFields] at h ⊢
  generalize readFields ms rest = r at h ⊢
  obtain ⟨others, fault⟩ := r
  generalize (ms.zipIdx 0).find? (·.1.1 == k) = z at h ⊢
  rcases z with _ | ⟨⟨k', v⟩, i⟩
  · cases p
    · exact ⟨h, .inl ⟨rfl, by decide⟩⟩
    · exact absurd h (Reader.earlier_ne_none _ _)
    · exact ⟨h, .inr ⟨_, rfl, .inl ⟨rfl, rfl⟩⟩⟩
  · -- a member is read by its field's schema, unless it is a `null` the field may leave out
    cases hr : read s v with
    | ok y =>
      have reads : Reader.inside (.key k) (read s) v = .ok y := by simp [Reader.inside, hr]
      (cases p <;> cases v <;> simp_all) <;> first | exact ⟨_, hr⟩ | exact .inr ⟨_, hr⟩
    | error e =>
      have fails : Reader.inside (.key k) (read s) v = .error { e with path := .key k :: e.path } := by
        simp [Reader.inside, hr]
      cases p <;> cases v <;> simp_all [Reader.earlier_ne_none]

/-- What a field may find under its key for its record to be read: nothing, where the field may
be left out, or a member the field takes. -/
def Admits (presence : Presence) (s : Schema) (o : Option Json) : Prop :=
  o.elim (presence ≠ .required) (Takes presence s)

theorem readFields_of_admits :
    ∀ {fs : List (String × Presence × Schema)},
      (∀ f ∈ fs, Admits f.2.1 f.2.2 ((ms.find? (·.1 == f.1)).map (·.2))) →
        (readFields ms fs).2 = none
  | [], _ => rfl
  | (k, p, s) :: rest, h => by
    have hrest := readFields_of_admits fun f hf => h f (List.mem_cons_of_mem _ hf)
    have head := h (k, p, s) List.mem_cons_self
    cases hloc : (ms.find? (·.1 == k)).map (·.2) with
    | none =>
      rw [hloc] at head
      exact readFields_cons_absent (Option.map_eq_none_iff.1 hloc) head hrest
    | some v =>
      rw [hloc] at head
      exact readFields_cons_takes hloc head hrest

/-- A schema whose readings are read again. -/
def Rereads (s : Schema) : Prop := ∀ j v, read s j = .ok v → ∃ w, read s v = .ok w

theorem readFields_admits :
    ∀ {fs : List (String × Presence × Schema)}, (fs.map (·.1)).Nodup →
      (∀ f ∈ fs, Rereads f.2.2 ∧ (f.2.1 = .defaulted → ∃ w, read f.2.2 (emptyValue f.2.2) = .ok w)) →
      (readFields ms fs).2 = none →
        ∀ f ∈ fs, Admits f.2.1 f.2.2 (((readFields ms fs).1.find? (·.1 == f.1)).map (·.2))
  | [], _, _, _ => by simp
  | (k, p, s) :: rest, hkeys, hs, h => by
    obtain ⟨hrest, hout⟩ := readFields_head h
    rw [List.map_cons, List.nodup_cons] at hkeys
    have later := readFields_admits hkeys.2 (fun f hf => hs f (List.mem_cons_of_mem _ hf)) hrest
    -- what the rest of the fields wrote carries none of the first field's key
    have hnot : ((readFields ms rest).1.find? (·.1 == k)) = none :=
      List.find?_eq_none.2 fun q hq heq =>
        hkeys.1 ((beq_iff_eq.1 heq) ▸ readFields_keys ms rest q hq)
    intro f hf
    rcases List.mem_cons.1 hf with rfl | hf
    · obtain ⟨hreads, hempty⟩ := hs (k, p, s) List.mem_cons_self
      dsimp only
      rcases hout with ⟨heq, hp⟩ | ⟨y, heq, hy⟩
      · rw [heq, hnot]
        exact hp
      · rw [heq, List.find?_cons_of_pos (by simp)]
        rcases hy with ⟨hd, rfl⟩ | ⟨v, hv⟩
        · exact .inr (hempty hd)
        · exact .inr (hreads v y hv)
    · have hne : k ≠ f.1 := fun heq => hkeys.1 (heq ▸ List.mem_map_of_mem (f := (·.1)) hf)
      rcases hout with ⟨heq, -⟩ | ⟨y, heq, -⟩
      · rw [heq]
        exact later f hf
      · rw [heq, List.find?_cons_of_neg (by simpa using hne)]
        exact later f hf

theorem read_record_of_fault {name : String} {fs : List (String × Presence × Schema)}
    (h : (readFields ms fs).2 = none) :
    read (.record name fs) (.obj ms) = .ok (.obj (readFields ms fs).1) := by
  simp only [read]
  generalize readFields ms fs = r at h ⊢
  obtain ⟨ys, f⟩ := r
  simp only at h
  subst h
  rfl

theorem rereads_record (name : String) {fs : List (String × Presence × Schema)}
    (hkeys : (fs.map (·.1)).Nodup)
    (hs : ∀ f ∈ fs, Rereads f.2.2 ∧ (f.2.1 = .defaulted → ∃ w, read f.2.2 (emptyValue f.2.2) = .ok w)) :
    Rereads (.record name fs) := by
  intro j v h
  obtain ⟨ms, rfl, hfault, rfl⟩ := read_record h
  exact ⟨_, read_record_of_fault (readFields_of_admits (readFields_admits hkeys hs hfault))⟩

end Records

/-! ## Lists and maps -/

theorem inside_ok {r : Reader Json} {step : PathStep} {x y : Json} :
    Reader.inside step r x = .ok y ↔ r x = .ok y := by
  unfold Reader.inside
  split <;> simp_all

theorem inside_of_ok {r : Reader Json} (step : PathStep) {x y : Json} (h : r x = .ok y) :
    Reader.inside step r x = .ok y :=
  inside_ok.2 h

theorem readItems_rereads {s : Schema} (hs : Rereads s) :
    ∀ (i i' : Nat) (xs ys : List Json), readItems (read s) i xs = .ok ys →
      ∃ zs, readItems (read s) i' ys = .ok zs
  | _, _, [], ys, h => by
    cases h
    exact ⟨[], rfl⟩
  | i, i', x :: rest, ys, h => by
    simp only [readItems, bind, Except.bind] at h
    -- the head item and the rest were read
    cases hx : Reader.inside (.index i) (read s) x with
    | error e => simp [hx] at h
    | ok y =>
      cases hrest : readItems (read s) (i + 1) rest with
      | error e => simp [hx, hrest] at h
      | ok ys' =>
        simp only [hx, hrest, pure, Except.pure, Except.ok.injEq] at h
        subst h
        obtain ⟨w, hw⟩ := hs x y (inside_ok.1 hx)
        obtain ⟨ws, hws⟩ := readItems_rereads hs (i + 1) (i' + 1) rest ys' hrest
        exact ⟨w :: ws, by simp [readItems, inside_of_ok (.index i') hw, hws, bind, Except.bind,
          pure, Except.pure]⟩

theorem rereads_list {s : Schema} (hs : Rereads s) : Rereads (.list s) := by
  intro j v h
  cases j with
  | arr xs =>
    simp only [read, Except.map] at h
    cases hitems : readItems (read s) 0 xs with
    | error e => simp [hitems] at h
    | ok ys =>
      simp only [hitems, Except.ok.injEq] at h
      subst h
      obtain ⟨zs, hzs⟩ := readItems_rereads hs 0 0 xs ys hitems
      exact ⟨.arr zs, by simp [read, hzs, Except.map]⟩
  | _ => simp [read, Reader.wrongType, Reader.fail] at h

theorem readEntries_rereads {s : Schema} (hs : Rereads s) :
    ∀ (es ys : List (String × Json)), readEntries (read s) es = .ok ys →
      ∀ q ∈ ys, ∃ w, read s q.2 = .ok w
  | [], ys, h, q, hq => by
    cases h
    simp at hq
  | (k, x) :: rest, ys, h, q, hq => by
    simp only [readEntries, bind, Except.bind] at h
    cases hx : Reader.inside (.key k) (read s) x with
    | error e => simp [hx] at h
    | ok y =>
      cases hrest : readEntries (read s) rest with
      | error e => simp [hx, hrest] at h
      | ok ys' =>
        simp only [hx, hrest, pure, Except.pure, Except.ok.injEq] at h
        subst h
        rcases List.mem_cons.1 hq with rfl | hq
        · exact hs x y (inside_ok.1 hx)
        · exact readEntries_rereads hs rest ys' hrest q hq

theorem readEntries_of_reads {s : Schema} :
    ∀ (es : List (String × Json)), (∀ q ∈ es, ∃ w, read s q.2 = .ok w) →
      ∃ ys, readEntries (read s) es = .ok ys
  | [], _ => ⟨[], rfl⟩
  | (k, x) :: rest, h => by
    obtain ⟨w, hw⟩ := h (k, x) List.mem_cons_self
    obtain ⟨ws, hws⟩ := readEntries_of_reads rest fun q hq => h q (List.mem_cons_of_mem _ hq)
    exact ⟨(k, w) :: ws, by simp [readEntries, inside_of_ok (.key k) hw, hws, bind, Except.bind,
      pure, Except.pure]⟩

theorem mem_foldl_insertSorted {q : String × Json} :
    ∀ (es acc : List (String × Json)),
      q ∈ es.foldl (fun acc (e : String × Json) => Reader.insertSorted e.1 e.2 acc) acc →
        q ∈ acc ∨ q ∈ es
  | [], _, h => .inl h
  | e :: rest, acc, h => by
    rcases mem_foldl_insertSorted rest _ h with h | h
    · rcases Reader.mem_insertSorted h with rfl | h
      · exact .inr List.mem_cons_self
      · exact .inl h
    · exact .inr (List.mem_cons_of_mem _ h)

theorem rereads_map {s : Schema} (hs : Rereads s) : Rereads (.map s) := by
  intro j v h
  cases j with
  | obj ms =>
    simp only [read, Except.map] at h
    cases hentries : readEntries (read s) ms with
    | error e => simp [hentries] at h
    | ok es =>
      simp only [hentries, Except.ok.injEq] at h
      subst h
      obtain ⟨ys, hys⟩ := readEntries_of_reads _ fun q hq => by
        rcases mem_foldl_insertSorted es [] hq with hq | hq
        · simp at hq
        · exact readEntries_rereads hs ms es hentries q hq
      exact ⟨.obj (ys.foldl (fun acc (e : String × Json) => Reader.insertSorted e.1 e.2 acc) []),
        by simp [read, hys, Except.map]⟩
  | _ => simp [read, Reader.wrongType, Reader.fail] at h

/-! ## Values -/

theorem rereads_string : Rereads .string := by
  intro j v h
  cases j <;> simp [read, Reader.string, Except.map, Reader.wrongType, Reader.fail] at h
  subst h
  exact ⟨_, rfl⟩

theorem rereads_boolean : Rereads .boolean := by
  intro j v h
  cases j <;> simp [read, Reader.bool, Except.map, Reader.wrongType, Reader.fail] at h
  subst h
  exact ⟨_, rfl⟩

theorem rereads_int64 : Rereads .int64 := by
  intro j v h
  cases j with
  | int n =>
    by_cases hrange : -9223372036854775808 ≤ n ∧ n ≤ 9223372036854775807
    · simp only [read, Reader.i64, Reader.intIn, hrange, and_self, if_true, Except.map,
        Except.ok.injEq] at h
      subst h
      exact ⟨_, read_int64 hrange⟩
    · simp [read, Reader.i64, Reader.intIn, hrange, Except.map, Reader.fail] at h
  | _ => simp [read, Reader.i64, Reader.intIn, Except.map, Reader.wrongType, Reader.fail] at h

theorem rereads_any : Rereads .any := fun _ v _ => ⟨v, rfl⟩

theorem rereads_time : Rereads .time := by
  intro j v h
  cases j with
  | str text =>
    simp only [read, instant] at h
    split at h
    · next t ht =>
      obtain rfl := Except.ok.inj h
      obtain ⟨hmin, hmax⟩ := Instant.year_of_read ht
      obtain ⟨t', ht'⟩ := Instant.read_render_seconds hmin hmax
      exact ⟨.str (t'.render .seconds), by simp [read, instant, ht']⟩
    · simp [Reader.fail] at h
  | _ => simp [read, instant, Reader.wrongType, Reader.fail] at h

end CsiOperator.Kube.Schema

namespace CsiOperator.Kube

open Schema

theorem ownerReference_rereads : Rereads ownerReference := by
  refine rereads_record _ (by decide) fun f hf => ?_
  simp only [dfl, opt, List.mem_cons, List.not_mem_nil, or_false] at hf
  rcases hf with rfl | rfl | rfl | rfl | rfl | rfl
  all_goals first
    | exact ⟨rereads_string, fun _ => ⟨_, rfl⟩⟩
    | exact ⟨rereads_boolean, fun h => by cases h⟩

theorem objectMeta_rereads : Rereads objectMeta := by
  refine rereads_record _ (by decide) fun f hf => ?_
  simp only [opt, strMap, strList, List.mem_cons, List.not_mem_nil, or_false] at hf
  rcases hf with rfl | rfl | rfl | rfl | rfl | rfl | rfl | rfl | rfl | rfl | rfl | rfl | rfl |
    rfl | rfl
  all_goals refine ⟨?_, fun h => by cases h⟩
  all_goals first
    | exact rereads_string
    | exact rereads_time
    | exact rereads_int64
    | exact rereads_map rereads_string
    | exact rereads_list rereads_string
    | exact rereads_list rereads_any
    | exact rereads_list ownerReference_rereads

theorem read_strList_eq {v w : Json} (h : Schema.read strList v = .ok w) : w = v := by
  have items : ∀ (i : Nat) (xs ys : List Json), readItems (Schema.read .string) i xs = .ok ys →
      ys = xs := by
    intro i xs
    induction xs generalizing i with
    | nil =>
      intro ys h
      cases h
      rfl
    | cons x rest ih =>
      intro ys h
      simp only [readItems, bind, Except.bind] at h
      cases hx : Reader.inside (.index i) (Schema.read .string) x with
      | error e => simp [hx] at h
      | ok y =>
        cases hrest : readItems (Schema.read .string) (i + 1) rest with
        | error e => simp [hx, hrest] at h
        | ok ys' =>
          simp only [hx, hrest, pure, Except.pure, Except.ok.injEq] at h
          subst h
          have hy := inside_ok.1 hx
          cases x <;> simp [Schema.read, Reader.string, Except.map, Reader.wrongType, Reader.fail] at hy
          rw [← hy, ih (i + 1) ys' hrest]
  cases v with
  | arr xs =>
    have list : Schema.read strList (.arr xs) = (readItems (Schema.read .string) 0 xs).map .arr :=
      rfl
    rw [list] at h
    cases hitems : readItems (Schema.read .string) 0 xs with
    | error e => simp [hitems, Except.map] at h
    | ok ys =>
      simp only [hitems, Except.map, Except.ok.injEq] at h
      rw [← h, items 0 xs ys hitems]
  | _ => simp [strList, Schema.read, Reader.wrongType, Reader.fail] at h

theorem finalizers_of_read {m md : Json} (h : Schema.read objectMeta m = .ok md) :
    ((md.get? "finalizers").map Json.strList).getD [] =
      ((m.get? "finalizers").map Json.strList).getD [] := by
  obtain ⟨ms, rfl, hfault, rfl⟩ := read_record h
  have member : ("finalizers", Presence.optional, strList) ∈
      [opt "annotations" strMap, opt "creationTimestamp" .time,
        opt "deletionGracePeriodSeconds" .int64, opt "deletionTimestamp" .time,
        opt "finalizers" strList, opt "generateName" .string, opt "generation" .int64,
        opt "labels" strMap, opt "managedFields" (.list .any), opt "name" .string,
        opt "namespace" .string, opt "ownerReferences" (.list ownerReference),
        opt "resourceVersion" .string, opt "selfLink" .string, opt "uid" .string] := by
    simp [opt]
  rw [readFields_get?_optional ms "finalizers" strList _ member (by decide) hfault]
  cases hv : (Json.obj ms).get? "finalizers" with
  | none => rfl
  | some v =>
    by_cases hnull : v.isNull
    · cases v <;> simp_all [Json.isNull, Json.strList, Json.items?]
    · -- a finalizers member the reader took is a list of texts, kept as it is
      rcases takes_of_readFields hfault member (by simpa [Json.get?] using hv) with
        ⟨rfl, -⟩ | ⟨w, hw⟩
      · simp [Json.isNull] at hnull
      · simp [hnull, hw, Except.toOption, read_strList_eq hw]

end CsiOperator.Kube
