import Mathlib
import CsiOperator.Time
/-!
Status times read back as the instants they write.

`Instant.render` writes the date of an instant through `dateOfDays`, and the reader rebuilds
the day count with `daysOfDate`. Within an era of 400 years the two are inverse: the day of
the era splits into centuries, four-year cycles and years of 365 days, the leap day closing a
cycle. With the digits of each field read back as written, every instant outside leap seconds
whose year the calendar holds reads back as itself (`read_render`).
-/

namespace CsiOperator.Instant

/-! ## The calendar -/

theorem yearOfEra_spec {doe yoe doy : Int} (h0 : 0 ≤ doe) (h1 : doe ≤ 146096)
    (hyoe : (doe - doe / 1460 + doe / 36524 - doe / 146096) / 365 = yoe)
    (hdoy : doe - (365 * yoe + yoe / 4 - yoe / 100) = doy) :
    0 ≤ yoe ∧ yoe ≤ 399 ∧ 0 ≤ doy ∧ doy ≤ 365 ∧
      (doy = 365 → (yoe + 1) % 4 = 0 ∧ ((yoe + 1) % 100 ≠ 0 ∨ yoe = 399)) := by
  subst hyoe hdoy
  by_cases hlast : doe = 146096
  · subst hlast
    decide
  obtain ⟨C, Q, S, hdoe, hC, hC', hQ, hQ', hS, hS', hcycle⟩ : ∃ C Q S : Int,
      doe = 36524 * C + 1461 * Q + S ∧ 0 ≤ C ∧ C ≤ 3 ∧ 0 ≤ Q ∧ Q ≤ 24 ∧ 0 ≤ S ∧ S ≤ 1460 ∧
        (Q = 24 → S ≤ 1459) :=
    ⟨doe / 36524, doe % 36524 / 1461, doe % 36524 % 1461, by omega⟩
  -- the days dropped per century and per cycle, as the year formula counts them
  have centuries : doe / 36524 = C ∧ doe / 146096 = 0 := by omega
  have cycles : doe / 1460 = 25 * C + Q + (24 * C + Q + S) / 1460 := by omega
  generalize hyoe : (doe - doe / 1460 + doe / 36524 - doe / 146096) / 365 = yoe
  have hyoe' : yoe = 100 * C + 4 * Q + (S - (24 * C + Q + S) / 1460) / 365 := by omega
  -- the year within the cycle: three when the day is the cycle's leap day
  obtain ⟨Y, hyear, hY, hY', hYS, hYS'⟩ : ∃ Y : Int,
      (S - (24 * C + Q + S) / 1460) / 365 = Y ∧ 0 ≤ Y ∧ Y ≤ 3 ∧ 365 * Y ≤ S ∧
        (S = 1460 ∨ S < 365 * Y + 365) :=
    ⟨if S = 1460 then 3 else S / 365, by split <;> omega⟩
  rw [hyear] at hyoe'
  have quarter : yoe / 4 = 25 * C + Q := by omega
  have century : yoe / 100 = C := by omega
  have hdoy : doe - (365 * yoe + yoe / 4 - yoe / 100) = S - 365 * Y := by omega
  rw [hdoy]
  omega

theorem monthOfYear_spec {doy mp : Int} (h0 : 0 ≤ doy) (h1 : doy ≤ 365)
    (hmp : (5 * doy + 2) / 153 = mp) :
    0 ≤ mp ∧ mp ≤ 11 ∧ 1 ≤ doy - (153 * mp + 2) / 5 + 1 ∧ doy - (153 * mp + 2) / 5 + 1 ≤ 31 ∧
      (mp = 1 ∨ mp = 3 ∨ mp = 6 ∨ mp = 8 → doy - (153 * mp + 2) / 5 + 1 ≤ 30) ∧
      (mp = 11 → doy - (153 * mp + 2) / 5 + 1 ≤ 28 ∨ doy = 365) := by
  subst hmp
  omega

theorem leapYear_of_closing (era yoe : Int) (h : (yoe + 1) % 4 = 0 ∧ ((yoe + 1) % 100 ≠ 0 ∨ yoe = 399)) :
    leapYear (yoe + era * 400 + 1) = true := by
  unfold leapYear
  simp only [Bool.or_eq_true, Bool.and_eq_true, beq_iff_eq, bne_iff_ne, ne_eq]
  omega

theorem dateOfDays_spec {z y : Int} {m d : Nat} (h : dateOfDays z = (y, m, d)) :
    1 ≤ m ∧ m ≤ 12 ∧ 1 ≤ d ∧ d ≤ daysInMonth y m ∧ daysOfDate y m d = z := by
  unfold dateOfDays at h
  simp only [Prod.mk.injEq] at h
  obtain ⟨hy, hm, hd⟩ := h
  -- the era and the day within it
  obtain ⟨era, doe, hera, hdoe, hdoe0, hdoe1⟩ : ∃ era doe : Int, (z + 719468) / 146097 = era ∧
      z + 719468 - era * 146097 = doe ∧ 0 ≤ doe ∧ doe ≤ 146096 :=
    ⟨_, _, rfl, rfl, by omega, by omega⟩
  rw [hera, hdoe] at hy hm hd
  generalize hyoe : (doe - doe / 1460 + doe / 36524 - doe / 146096) / 365 = yoe at hy hm hd
  generalize hdoy : doe - (365 * yoe + yoe / 4 - yoe / 100) = doy at hy hm hd
  generalize hmp : (5 * doy + 2) / 153 = mp at hy hm hd
  obtain ⟨hyoe0, hyoe1, hdoy0, hdoy1, hleap⟩ := yearOfEra_spec hdoe0 hdoe1 hyoe hdoy
  obtain ⟨hmp0, hmp1, hd1, hd31, hd30, hfeb⟩ := monthOfYear_spec hdoy0 hdoy1 hmp
  have hdInt : (d : Int) = doy - (153 * mp + 2) / 5 + 1 := by
    rw [← hd, Int.toNat_of_nonneg (by omega)]
  have hera' : (yoe + era * 400) / 400 = era := by omega
  -- months from March to December lie in the year the era counts, January and February in
  -- the next one
  by_cases spring : mp < 10
  · rw [if_pos spring] at hm hy
    have hmInt : (m : Int) = mp + 3 := by rw [← hm, Int.toNat_of_nonneg (by omega)]
    rw [hm, if_neg (by omega)] at hy
    subst hy
    refine ⟨by omega, by omega, by omega, ?_, ?_⟩
    · unfold daysInMonth
      split <;> omega
    · unfold daysOfDate
      rw [if_neg (by omega), if_pos (by omega)]
      dsimp only
      rw [hera', show yoe + era * 400 - era * 400 = yoe by omega,
        show (153 * ((m : Int) - 3) + 2) / 5 + (d : Int) - 1 = doy by rw [hmInt]; omega]
      clear hyoe
      omega
  · rw [if_neg spring] at hm hy
    have hmInt : (m : Int) = mp - 9 := by rw [← hm, Int.toNat_of_nonneg (by omega)]
    rw [hm, if_pos (by omega)] at hy
    subst hy
    refine ⟨by omega, by omega, by omega, ?_, ?_⟩
    · -- February has its leap day only in the years that close a cycle
      unfold daysInMonth
      split
      · by_cases h365 : doy = 365
        · rw [leapYear_of_closing era yoe (hleap h365), if_pos rfl]
          omega
        · split <;> omega
      all_goals omega
    · unfold daysOfDate
      rw [if_pos (by omega), if_neg (by omega)]
      dsimp only
      rw [show yoe + era * 400 + 1 - 1 = yoe + era * 400 by omega, hera',
        show yoe + era * 400 - era * 400 = yoe by omega,
        show (153 * ((m : Int) + 9) + 2) / 5 + (d : Int) - 1 = doy by rw [hmInt]; omega]
      clear hyoe
      omega

/-! ## Digits -/

theorem le_ofDigitChars (n : Nat) (ds : List Char) : n ≤ Nat.ofDigitChars 10 ds n := by
  rw [Nat.ofDigitChars_eq_ofDigitChars_zero]
  calc n ≤ 10 ^ ds.length * n := Nat.le_mul_of_pos_left n (Nat.pow_pos (by decide))
    _ ≤ _ := Nat.le_add_right _ _

theorem number_go_digits (least most : Nat) :
    ∀ (ds rest : List Char) (i n : Nat), (∀ c ∈ ds, c.isDigit = true) →
      least ≤ i + ds.length → i + ds.length ≤ most →
      (i + ds.length = most ∨ ∀ c ∈ rest.head?, c.isDigit = false) →
      (Nat.ofDigitChars 10 ds n : Int) ≤ maxNumber →
      number.go least most i n (ds ++ rest) = .ok (Nat.ofDigitChars 10 ds n, rest)
  | [], rest, i, n, _, hleast, _, hstop, _ => by
    cases rest with
    | nil =>
      simp only [List.length_nil, Nat.add_zero] at hleast
      simp [number.go, Nat.not_lt.mpr hleast]
    | cons c rest =>
      simp only [List.length_nil, Nat.add_zero, List.head?_cons, Option.mem_def,
        Option.some.injEq, forall_eq'] at hleast hstop
      rcases hstop with hmost | hdigit
      · simp [number.go, hmost]
      · by_cases hmost : i ≥ most
        · simp [number.go, hmost]
        · simp [number.go, hmost, hdigit, Nat.not_lt.mpr hleast]
  | d :: ds, rest, i, n, hdigits, hleast, hmost, hstop, hmax => by
    have hd : d.isDigit = true := hdigits d (List.mem_cons_self ..)
    -- the reader accumulates in integers what `Nat.ofDigitChars` accumulates in naturals
    have step : (n : Int) * 10 + ((d.toNat - '0'.toNat : Nat) : Int) =
        ((10 * n + (d.toNat - '0'.toNat) : Nat) : Int) := by omega
    have next : ((10 * n + (d.toNat - '0'.toNat) : Nat) : Int) ≤ maxNumber := by
      rw [Nat.ofDigitChars_cons] at hmax
      exact Int.le_trans (Int.ofNat_le.mpr (le_ofDigitChars _ ds)) hmax
    simp only [List.length_cons] at hleast hmost hstop
    rw [List.cons_append, number.go, if_neg (by omega), if_pos hd, step,
      if_neg (Int.not_lt.mpr next), Nat.ofDigitChars_cons]
    rw [Nat.ofDigitChars_cons] at hmax
    exact number_go_digits least most ds rest (i + 1) _
      (fun c hc => hdigits c (List.mem_cons_of_mem d hc)) (by omega) (by omega)
      (hstop.imp_left fun h => by omega) hmax

theorem isBlank_of_isDigit {c : Char} (h : c.isDigit = true) : Text.isBlank c = false := by
  have range := Char.isDigit_iff_toNat.mp h
  simp only [show '0'.toNat = 48 from rfl, show '9'.toNat = 57 from rfl] at range
  simp only [Text.isBlank, Bool.or_eq_false_iff, Bool.and_eq_false_iff, decide_eq_false_iff_not]
  omega

theorem trimStart_of_not_blank {c : Char} (cs : List Char) (h : Text.isBlank c = false) :
    trimStart (c :: cs) = c :: cs := by
  simp [trimStart, h]

theorem toList_padded (w n : Nat) :
    (padded w n).toList =
      List.replicate (w - (Nat.toDigits 10 n).length) '0' ++ Nat.toDigits 10 n := by
  simp [padded, ← String.length_toList]

theorem length_padded (w n : Nat) :
    (padded w n).toList.length = max w (Nat.toDigits 10 n).length := by
  rw [toList_padded, List.length_append, List.length_replicate]
  omega

theorem isDigit_of_mem_padded {w n : Nat} {c : Char} (h : c ∈ (padded w n).toList) :
    c.isDigit = true := by
  rw [toList_padded, List.mem_append, List.mem_replicate] at h
  rcases h with ⟨_, rfl⟩ | h
  · decide
  · exact Nat.isDigit_of_mem_toDigits (by decide) (by decide) h

theorem padded_eq_cons (w n : Nat) :
    ∃ c cs, (padded w n).toList = c :: cs ∧ c.isDigit = true := by
  have nonempty : (padded w n).toList ≠ [] := by
    simp [toList_padded]
  obtain ⟨c, cs, hcs⟩ := List.exists_cons_of_ne_nil nonempty
  exact ⟨c, cs, hcs, isDigit_of_mem_padded (hcs ▸ List.mem_cons_self ..)⟩

theorem trimStart_padded (w n : Nat) (rest : List Char) :
    trimStart ((padded w n).toList ++ rest) = (padded w n).toList ++ rest := by
  obtain ⟨c, cs, hcs, hc⟩ := padded_eq_cons w n
  rw [hcs, List.cons_append, trimStart_of_not_blank _ (isBlank_of_isDigit hc)]

theorem number_padded {least most w n : Nat} (rest : List Char)
    (hleast : least ≤ (padded w n).toList.length) (hmost : (padded w n).toList.length ≤ most)
    (hstop : (padded w n).toList.length = most ∨ ∀ c ∈ rest.head?, c.isDigit = false)
    (hn : (n : Int) ≤ maxNumber) :
    number least most ((padded w n).toList ++ rest) = .ok (n, rest) := by
  have value : Nat.ofDigitChars 10 (padded w n).toList 0 = n := by
    rw [toList_padded, Nat.ofDigitChars_append, Nat.ofDigitChars_replicate_zero, Nat.mul_zero,
      Nat.ofDigitChars_ten_toDigits]
  have run := number_go_digits least most (padded w n).toList rest 0 0 (fun _ => isDigit_of_mem_padded)
    (by omega) (by omega) (by simpa using hstop) (by rwa [value])
  rw [value] at run
  exact run

theorem length_padded_two {n : Nat} (h : n < 100) : (padded 2 n).toList.length = 2 := by
  have digits := (Nat.length_toDigits_le_iff (b := 10) (k := 2) (by decide) (by decide)).mpr h
  rw [length_padded]
  omega

/-! ## The fields of a written instant -/

theorem literal_trimStart {c : Char} (rest : List Char) (h : Text.isBlank c = false) :
    literal c (trimStart (c :: rest)) = .ok rest := by
  simp [trimStart_of_not_blank _ h, literal]

theorem field_padded {lo hi : Int} {n : Nat} (rest : List Char) (hlo : lo ≤ n) (hhi : n ≤ hi)
    (h : n < 100) : field lo hi ((padded 2 n).toList ++ rest) = .ok (n, rest) := by
  have hlen := length_padded_two h
  unfold field
  rw [trimStart_padded, number_padded rest (by omega) (by omega) (.inl hlen)
    (by unfold maxNumber; omega)]
  simp [bind, Except.bind, pure, Except.pure, Int.not_lt.mpr hlo, Int.not_lt.mpr hhi]

theorem year_written {y : Int} (hmin : minYear ≤ y) (hmax : y ≤ maxYear) (rest : List Char) :
    year ((if 0 ≤ y && y ≤ 9999 then padded 4 y.toNat
        else (if y < 0 then "-" else "+") ++ padded 4 y.natAbs).toList ++ '-' :: rest) =
      .ok (y, '-' :: rest) := by
  unfold minYear at hmin
  unfold maxYear at hmax
  have dash : ∀ c ∈ ('-' :: rest).head?, c.isDigit = false := by simp
  by_cases plain : 0 ≤ y ∧ y ≤ 9999
  · rw [if_pos (by simpa using plain)]
    have hlen : (padded 4 y.toNat).toList.length = 4 := by
      have digits := (Nat.length_toDigits_le_iff (b := 10) (k := 4) (n := y.toNat) (by decide)
        (by decide)).mpr (by omega)
      rw [length_padded]
      omega
    unfold year
    rw [trimStart_padded]
    -- the first digit is neither sign
    obtain ⟨c, cs, hcs, hc⟩ := padded_eq_cons 4 y.toNat
    have inRange : ¬(y < -2147483648 ∨ 2147483647 < y) := by omega
    split
    · next r hr =>
      rw [hcs, List.cons_append, List.cons.injEq] at hr
      exact absurd (hr.1 ▸ hc) (by decide)
    · next r hr =>
      rw [hcs, List.cons_append, List.cons.injEq] at hr
      exact absurd (hr.1 ▸ hc) (by decide)
    · rw [number_padded _ (by omega) (by omega) (.inl hlen) (by unfold maxNumber; omega)]
      simp [bind, Except.bind, pure, Except.pure, Int.toNat_of_nonneg plain.1, inRange]
  · -- a year past four digits or before zero carries its sign
    rw [if_neg (by simpa using plain)]
    have inRange : ¬(y < -2147483648 ∨ 2147483647 < y) := by omega
    have hlen : 4 ≤ (padded 4 y.natAbs).toList.length := by
      rw [length_padded]
      omega
    have hmost : (padded 4 y.natAbs).toList.length ≤
        ((padded 4 y.natAbs).toList ++ '-' :: rest).length := by simp
    have hsize : (y.natAbs : Int) ≤ maxNumber := by unfold maxNumber; omega
    unfold year
    by_cases neg : y < 0
    · rw [if_pos neg]
      simp only [String.toList_append, show "-".toList = ['-'] by simp, List.cons_append,
        List.nil_append, trimStart_of_not_blank _ (show Text.isBlank '-' = false by decide)]
      rw [number_padded _ (by omega) hmost (.inr dash) hsize]
      simp only [bind, Except.bind, pure, Except.pure]
      rw [if_neg (by simp only [Bool.or_eq_true, decide_eq_true_eq]; omega),
        show -(y.natAbs : Int) = y by omega]
    · rw [if_neg neg]
      simp only [String.toList_append, show "+".toList = ['+'] by simp, List.cons_append,
        List.nil_append, trimStart_of_not_blank _ (show Text.isBlank '+' = false by decide)]
      rw [number_padded _ (by omega) hmost (.inr dash) hsize]
      simp only [bind, Except.bind, pure, Except.pure]
      rw [if_neg (by simp only [Bool.or_eq_true, decide_eq_true_eq]; omega),
        show (y.natAbs : Int) = y by omega]

theorem fractionDigits_padded {w n : Nat} (hw : 1 ≤ w) (hw9 : w ≤ 9) (hn : n < 10 ^ w)
    (rest : List Char) (hrest : ∀ c ∈ rest.head?, c.isDigit = false) :
    fractionDigits ((padded w n).toList ++ rest) = .ok (n * 10 ^ (9 - w), rest) := by
  have hlen : (padded w n).toList.length = w := by
    have digits := (Nat.length_toDigits_le_iff (b := 10) (k := w) (by decide) (by omega)).mpr hn
    rw [length_padded]
    omega
  have small : (n : Int) ≤ maxNumber := by
    have : 10 ^ w ≤ 10 ^ 9 := Nat.pow_le_pow_right (by decide) hw9
    unfold maxNumber
    omega
  have stop : rest.dropWhile Char.isDigit = rest := by
    cases rest with
    | nil => rfl
    | cons c rest => simp_all
  unfold fractionDigits
  rw [number_padded rest (by omega) (by omega) (.inr hrest) small]
  simp [bind, Except.bind, pure, Except.pure, hlen, stop, Nat.pow_eq]

theorem fraction_auto (ns : Nat) (h : ns < nanosPerSecond) :
    (fraction .auto ns = "" ∧ ns = 0) ∨
      ∃ w, 1 ≤ w ∧ w ≤ 9 ∧ ns / 10 ^ (9 - w) < 10 ^ w ∧ ns / 10 ^ (9 - w) * 10 ^ (9 - w) = ns ∧
        fraction .auto ns = "." ++ padded w (ns / 10 ^ (9 - w)) := by
  unfold nanosPerSecond at h
  simp only [fraction]
  by_cases zero : ns = 0
  · exact .inl ⟨if_pos zero, zero⟩
  rw [if_neg zero]
  by_cases millis : ns % 1000000 = 0
  · exact .inr ⟨3, by decide, by decide, by omega, by omega, if_pos millis⟩
  rw [if_neg millis]
  by_cases micros : ns % 1000 = 0
  · exact .inr ⟨6, by decide, by decide, by omega, by omega, if_pos micros⟩
  exact .inr ⟨9, by decide, by decide, by omega, by omega, by simp [micros]⟩

theorem daysInMonth_le (y : Int) (m : Nat) : daysInMonth y m ≤ 31 := by
  unfold daysInMonth
  split
  · split <;> decide
  all_goals decide

theorem fields_render {t : Instant} {y : Int} {m d : Nat}
    (hns : (if t.inLeapSecond then t.frac - nanosPerSecond else t.frac) < nanosPerSecond)
    (hdate : dateOfDays (t.seconds / secondsPerDay) = (y, m, d)) (hmin : minYear ≤ y)
    (hmax : y ≤ maxYear) :
    fields t.render.toList = .ok (⟨y, m, d, (t.seconds % secondsPerDay).toNat / 3600,
      (t.seconds % secondsPerDay).toNat / 60 % 60,
      (t.seconds % secondsPerDay).toNat % 60 + (if t.inLeapSecond then 1 else 0),
      if t.inLeapSecond then t.frac - nanosPerSecond else t.frac, 0⟩, []) := by
  obtain ⟨hm1, hm12, hd1, hdm, -⟩ := dateOfDays_spec hdate
  have hd31 := Nat.le_trans hdm (daysInMonth_le y m)
  have hsod : (t.seconds % secondsPerDay).toNat < 86400 := by unfold secondsPerDay; omega
  -- each field reads back up to the separator that follows it; a leap second is second 60
  have month : ∀ rest, field 1 12 ((padded 2 m).toList ++ rest) = .ok (m, rest) :=
    fun rest => field_padded rest (by omega) (by omega) (by omega)
  have day : ∀ rest, field 1 31 ((padded 2 d).toList ++ rest) = .ok (d, rest) :=
    fun rest => field_padded rest (by omega) (by omega) (by omega)
  have hour : ∀ rest, field 0 23 ((padded 2 ((t.seconds % secondsPerDay).toNat / 3600)).toList ++
      rest) = .ok (((t.seconds % secondsPerDay).toNat / 3600 : Nat), rest) :=
    fun rest => field_padded rest (by omega) (by omega) (by omega)
  have minute : ∀ rest, field 0 59
      ((padded 2 ((t.seconds % secondsPerDay).toNat / 60 % 60)).toList ++ rest) =
        .ok (((t.seconds % secondsPerDay).toNat / 60 % 60 : Nat), rest) :=
    fun rest => field_padded rest (by omega) (by omega) (by omega)
  have second : ∀ rest, field 0 60 ((padded 2 ((t.seconds % secondsPerDay).toNat % 60 +
      if t.inLeapSecond then 1 else 0)).toList ++ rest) =
        .ok (((t.seconds % secondsPerDay).toNat % 60 + if t.inLeapSecond then 1 else 0 : Nat),
          rest) :=
    fun rest => field_padded rest (by omega) (by split <;> omega) (by split <;> omega)
  unfold render
  simp only [hdate, String.toList_append,
    show "-".toList = ['-'] by simp, show "T".toList = ['T'] by simp,
    show ":".toList = [':'] by simp, show "Z".toList = ['Z'] by simp, List.append_assoc,
    List.cons_append, List.nil_append]
  unfold fields
  have dash : ∀ rest, literal '-' (trimStart ('-' :: rest)) = .ok rest :=
    fun rest => literal_trimStart rest (by decide)
  have colon : ∀ rest, literal ':' (trimStart (':' :: rest)) = .ok rest :=
    fun rest => literal_trimStart rest (by decide)
  have zed : offset (trimStart ['Z']) = .ok (0, []) := rfl
  simp only [bind, Except.bind, pure, Except.pure, year_written hmin hmax, month, day, hour,
    minute, second, dash, colon, decide_true, Bool.true_or, ite_true, Int.toNat_natCast]
  generalize (if t.inLeapSecond = true then t.frac - nanosPerSecond else t.frac) = ns at hns ⊢
  -- the fraction, when there is one, reads back up to the closing `Z`
  rcases fraction_auto ns hns with ⟨whole, zero⟩ | ⟨w, hw, hw9, hsmall, hexact, written⟩
  · rw [whole]
    simp only [show "".toList = [] by simp, List.nil_append, zed, zero]
    rfl
  · have frac := fractionDigits_padded hw hw9 hsmall ['Z'] (by simp)
    simp only [written, String.toList_append, show ".".toList = ['.'] by simp, List.cons_append,
      List.nil_append, frac, hexact, zed]

theorem instant_fields {t : Instant} {y : Int} {m d : Nat}
    (hdate : dateOfDays (t.seconds / secondsPerDay) = (y, m, d)) (hmin : minYear ≤ y)
    (hmax : y ≤ maxYear) :
    Fields.instant ⟨y, m, d, (t.seconds % secondsPerDay).toNat / 3600,
      (t.seconds % secondsPerDay).toNat / 60 % 60,
      (t.seconds % secondsPerDay).toNat % 60 + (if t.inLeapSecond then 1 else 0),
      if t.inLeapSecond then t.frac - nanosPerSecond else t.frac, 0⟩ = .ok t := by
  obtain ⟨-, -, -, hdm, hdays⟩ := dateOfDays_spec hdate
  have hsod : ((t.seconds % secondsPerDay).toNat : Int) = t.seconds % secondsPerDay :=
    Int.toNat_of_nonneg (by unfold secondsPerDay; omega)
  -- the day and the second within it add back to the instant's second
  have seconds : ∀ second : Nat, second = (t.seconds % secondsPerDay).toNat % 60 →
      daysOfDate y m d * secondsPerDay + (((t.seconds % secondsPerDay).toNat / 3600 * 3600 +
        (t.seconds % secondsPerDay).toNat / 60 % 60 * 60 + second : Nat) : Int) - 0 =
          t.seconds := by
    rintro _ rfl
    rw [hdays]
    unfold secondsPerDay at *
    omega
  unfold Fields.instant
  cases hleap : t.inLeapSecond with
  | false =>
    have notLeap : ¬(t.seconds % secondsPerDay).toNat % 60 = 60 := by omega
    have hfrac := t.frac_lt_of_not_leap (by rw [hleap]; decide)
    simp only [bind, Except.bind, pure, Except.pure, notLeap, if_false, Nat.add_zero,
      seconds _ rfl, hdate, Int.not_lt.mpr hmin, Int.not_lt.mpr hmax,
      show ¬d > daysInMonth y m by omega, show ¬(0 : Int) ≤ -secondsPerDay by decide,
      show ¬(0 : Int) ≥ secondsPerDay by decide, decide_false, Bool.false_or,
      Bool.false_eq_true, hfrac, true_or, dite_true]
  | true =>
    -- second 60 is the leap second that ends the minute's last second
    have last := t.last_of_leap hleap
    have last' : (t.seconds % secondsPerDay).toNat % 60 = 59 := by
      unfold secondsPerDay at hsod ⊢
      omega
    have hfrac : t.frac - nanosPerSecond + nanosPerSecond = t.frac := by
      simp only [inLeapSecond, decide_eq_true_eq] at hleap
      omega
    have hwell : t.frac < nanosPerSecond ∨ t.frac < 2 * nanosPerSecond ∧ t.seconds % 60 = 59 :=
      t.wellFormed
    simp only [bind, Except.bind, pure, Except.pure, show (t.seconds % secondsPerDay).toNat % 60 +
      1 = 60 by omega, if_true, if_false, hfrac, seconds 59 last'.symm, hdate, Int.not_lt.mpr hmin,
      Int.not_lt.mpr hmax, show ¬d > daysInMonth y m by omega,
      show ¬(0 : Int) ≤ -secondsPerDay by decide, show ¬(0 : Int) ≥ secondsPerDay by decide,
      decide_false, Bool.false_or, Bool.false_eq_true, hwell, dite_true]

/-! ## Status times read back -/

/-- An instant outside leap seconds, in a year the calendar holds. The clock of a running
operator reads such instants: it never stands in a leap second. -/
def Representable (t : Instant) : Prop :=
  t.inLeapSecond = false ∧ minYear ≤ (dateOfDays (t.seconds / secondsPerDay)).1 ∧
    (dateOfDays (t.seconds / secondsPerDay)).1 ≤ maxYear

instance (t : Instant) : Decidable t.Representable :=
  inferInstanceAs (Decidable (_ ∧ _ ∧ _))

/-- An instant of the calendar: one in a year the calendar holds. These are the instants a
status time can hold and its text writes exactly, a leap second included, as second 60. -/
def Valid (t : Instant) : Prop :=
  minYear ≤ (dateOfDays (t.seconds / secondsPerDay)).1 ∧
    (dateOfDays (t.seconds / secondsPerDay)).1 ≤ maxYear

instance (t : Instant) : Decidable t.Valid :=
  inferInstanceAs (Decidable (_ ∧ _))

theorem Representable.valid {t : Instant} (h : t.Representable) : t.Valid := h.2

theorem read_render {t : Instant} (ht : t.Valid) : read t.render = .ok t := by
  obtain ⟨hmin, hmax⟩ := ht
  generalize hdate : dateOfDays (t.seconds / secondsPerDay) = date at hmin hmax
  obtain ⟨y, m, d⟩ := date
  -- the fraction written is below a second
  have hns : (if t.inLeapSecond then t.frac - nanosPerSecond else t.frac) < nanosPerSecond := by
    split
    · exact t.leap_frac_sub_lt
    · next hleap => exact t.frac_lt_of_not_leap hleap
  unfold read
  rw [fields_render hns hdate hmin hmax]
  exact instant_fields hdate hmin hmax

example : Representable ⟨1700000000, 5000, by decide⟩ ∧
    Valid ⟨1483228799, 1500000000, by decide⟩ := by decide

end CsiOperator.Instant
