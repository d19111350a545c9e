import CsiOperator.Lifecycle
import CsiOperator.Proofs.TimeText
/-!
The backoff of failing and settled resources, over instants outside leap seconds.

Outside leap seconds the nanoseconds between two instants are the difference of their counts,
so the whole seconds spent in a condition only grow with the clock, and the wait that doubles
with them stays between the first wait and the longest. A failing resync then escalates from
half an hour on and never returns to retrying, its retries wait longer as time passes, and a
settled resource stops being polled at the same cut-off. `failureDecision_backoff` states all
of this for any recorded last update and any two instants in order.

Leap seconds break it: the duration between instants counts a leap second of the earlier one
only once the later one has passed it within its day, and drops one of the later one that lies
before the earlier within its day, so a later instant can lie fewer whole seconds after a
recorded update than an earlier one. `failureDecision_leap_regresses` shows a failing resync
that escalates at one instant and is retried a nanosecond later.
-/

namespace CsiOperator

theorem Instant.nanosUntil_of_inLeapSecond_eq_false (t u : Instant) (ht : t.inLeapSecond = false)
    (hu : u.inLeapSecond = false) :
    t.nanosUntil u = (u.seconds - t.seconds) * Instant.nanosPerSecond + u.frac - t.frac := by
  unfold Instant.nanosUntil
  simp [ht, hu]

theorem Instant.secondsUntil_le_secondsUntil (t : Instant) {u₁ u₂ : Instant}
    (ht : t.inLeapSecond = false) (h₁ : u₁.inLeapSecond = false) (h₂ : u₂.inLeapSecond = false)
    (h : u₁ ≤ u₂) : t.secondsUntil u₁ ≤ t.secondsUntil u₂ := by
  have f₁ := u₁.frac_lt_of_not_leap (by simp [h₁])
  have le : u₁.seconds < u₂.seconds ∨ (u₁.seconds = u₂.seconds ∧ u₁.frac ≤ u₂.frac) := h
  have grows : t.nanosUntil u₁ ≤ t.nanosUntil u₂ := by
    rw [Instant.nanosUntil_of_inLeapSecond_eq_false t u₁ ht h₁,
      Instant.nanosUntil_of_inLeapSecond_eq_false t u₂ ht h₂]
    unfold Instant.nanosPerSecond at f₁ ⊢
    rcases le with lt | ⟨eq, fle⟩
    · have : u₁.seconds + 1 ≤ u₂.seconds := lt
      have : (u₁.seconds - t.seconds) * 1000000000 + 1000000000 ≤
          (u₂.seconds - t.seconds) * 1000000000 := by
        have := Int.mul_le_mul_of_nonneg_right (show u₁.seconds - t.seconds + 1 ≤ u₂.seconds - t.seconds by omega)
          (show (0 : Int) ≤ 1000000000 by decide)
        rw [Int.add_mul, Int.one_mul] at this
        exact this
      omega
    · rw [eq]
      omega
  unfold Instant.secondsUntil
  dsimp only
  split <;> split
  · exact Int.toNat_le_toNat (Int.ediv_le_ediv (by decide) grows)
  · omega
  · exact Nat.zero_le _
  · exact Nat.le_refl _

theorem LastUpdate.secondsIn_le_secondsIn (last : LastUpdate) {u₁ u₂ : Instant}
    (hold : ∀ t, last.time = some t → t.inLeapSecond = false) (h₁ : u₁.inLeapSecond = false)
    (h₂ : u₂.inLeapSecond = false) (h : u₁ ≤ u₂) :
    last.secondsIn u₁ ≤ last.secondsIn u₂ := by
  unfold LastUpdate.secondsIn
  split
  · next t ht => exact Instant.secondsUntil_le_secondsUntil _ (hold t ht) h₁ h₂ h
  · exact Nat.le_refl _

theorem doubledInterval_le_doubledInterval {a b : Nat} (h : a ≤ b) :
    doubledInterval a ≤ doubledInterval b := by
  unfold doubledInterval retryInterval maxRetryInterval
  omega

theorem doubledInterval_mem (e : Nat) :
    retryInterval ≤ doubledInterval e ∧ doubledInterval e ≤ maxRetryInterval := by
  unfold doubledInterval retryInterval maxRetryInterval
  omega

theorem failureDecision_eq (old : LastUpdate) (now : Instant) :
    failureDecision old now =
      if old.condition = some .error then
        (if maxRetryDuration ≤ old.secondsIn now then .escalate
         else .retry (doubledInterval (old.secondsIn now)))
      else .retry retryInterval := by
  unfold failureDecision
  by_cases h : old.condition = some .error <;> simp [h]

theorem successRequeue_succeeded (old : LastUpdate) (now : Instant) :
    (successRequeue .succeeded old .succeeded now).1 =
      if maxRetryDuration ≤ old.secondsIn now then .never
      else .after (doubledInterval (old.secondsIn now)) := by
  unfold successRequeue
  by_cases h : maxRetryDuration ≤ old.secondsIn now <;> simp [h]

theorem cutoff_reached_iff (old : LastUpdate) (now : Instant) :
    maxRetryDuration ≤ old.secondsIn now ↔
      ∃ t, old.time = some t ∧ maxRetryDuration ≤ t.secondsUntil now := by
  unfold LastUpdate.secondsIn
  cases h : old.time with
  | none => simp [maxRetryDuration]
  | some t => simp

/-- Backoff over two instants in order, outside leap seconds as the recorded time is:
escalation is final; retry waits lie between the first wait and the longest and grow with
time; a failing resync escalates exactly when it follows an error that has lasted half an
hour; and a settled resource stops being polled exactly from half an hour on, for good, its
polls waiting longer as time passes. -/
theorem failureDecision_backoff (old : LastUpdate) (now₁ now₂ : Instant)
    (hold : ∀ t, old.time = some t → t.inLeapSecond = false)
    (h₁ : now₁.inLeapSecond = false) (h₂ : now₂.inLeapSecond = false) (later : now₁ ≤ now₂) :
    (failureDecision old now₁ = .escalate → failureDecision old now₂ = .escalate) ∧
    (∀ i₁ i₂, failureDecision old now₁ = .retry i₁ → failureDecision old now₂ = .retry i₂ →
      retryInterval ≤ i₁ ∧ i₁ ≤ i₂ ∧ i₂ ≤ maxRetryInterval) ∧
    (failureDecision old now₁ = .escalate ↔
      old.condition = some .error ∧ ∃ t, old.time = some t ∧ maxRetryDuration ≤ t.secondsUntil now₁) ∧
    ((successRequeue .succeeded old .succeeded now₁).1 = .never ↔
      maxRetryDuration ≤ old.secondsIn now₁) ∧
    ((successRequeue .succeeded old .succeeded now₁).1 = .never →
      (successRequeue .succeeded old .succeeded now₂).1 = .never) ∧
    (∀ i₁ i₂, (successRequeue .succeeded old .succeeded now₁).1 = .after i₁ →
      (successRequeue .succeeded old .succeeded now₂).1 = .after i₂ →
      retryInterval ≤ i₁ ∧ i₁ ≤ i₂ ∧ i₂ ≤ maxRetryInterval) := by
  have grows := old.secondsIn_le_secondsIn hold h₁ h₂ later
  have d₁ := doubledInterval_mem (old.secondsIn now₁)
  have d₂ := doubledInterval_mem (old.secondsIn now₂)
  have dle := doubledInterval_le_doubledInterval grows
  have first : retryInterval ≤ maxRetryInterval := by decide
  rw [failureDecision_eq, failureDecision_eq, successRequeue_succeeded, successRequeue_succeeded,
    ← cutoff_reached_iff]
  by_cases hc : old.condition = some .error <;>
    by_cases c₁ : maxRetryDuration ≤ old.secondsIn now₁ <;>
    by_cases c₂ : maxRetryDuration ≤ old.secondsIn now₂ <;>
    simp [hc, c₁, c₂] <;> omega

/-- An error recorded at the epoch is retried after twenty seconds ten seconds on and after two
hundred seconds a hundred seconds on, both waits between five seconds and ten minutes. -/
theorem failureDecision_backoff_from_epoch :
    (∀ t, ({ condition := some .error, time := some (.ofSeconds 0) } : LastUpdate).time =
        some t → t.inLeapSecond = false) ∧
      (Instant.ofSeconds 10).inLeapSecond = false ∧ (Instant.ofSeconds 100).inLeapSecond = false ∧
      Instant.ofSeconds 10 ≤ .ofSeconds 100 ∧
      failureDecision { condition := some .error, time := some (.ofSeconds 0) }
        (.ofSeconds 10) = .retry 20 ∧
      failureDecision { condition := some .error, time := some (.ofSeconds 0) }
        (.ofSeconds 100) = .retry 200 ∧
      (retryInterval ≤ 20 ∧ 20 ≤ 200 ∧ 200 ≤ maxRetryInterval) :=
  have hold : ∀ t, ({ condition := some .error, time := some (.ofSeconds 0) } :
      LastUpdate).time = some t → t.inLeapSecond = false := fun t h => by
    cases h
    decide
  ⟨hold, by decide, by decide, by decide, by decide, by decide,
    (failureDecision_backoff { condition := some .error, time := some (.ofSeconds 0) }
      (.ofSeconds 10) (.ofSeconds 100) hold (by decide) (by decide) (by decide)).2.1 20 200
      (by decide) (by decide)⟩

/-- Across leap seconds escalation is not final: an error recorded a nanosecond after 23:30:59
on the first day escalates a nanosecond before the leap second that may end the first minute of
the next day, and is retried after ten minutes once inside it, written 00:00:60. All three are
instants of the calendar. -/
theorem failureDecision_leap_regresses :
    (⟨86459, 999999999, by decide⟩ : Instant) ≤ ⟨86459, 1000000000, by decide⟩ ∧
      Instant.Valid ⟨84659, 1, by decide⟩ ∧ Instant.Valid ⟨86459, 999999999, by decide⟩ ∧
      Instant.Valid ⟨86459, 1000000000, by decide⟩ ∧
      failureDecision { condition := some .error, time := some ⟨84659, 1, by decide⟩ }
        ⟨86459, 999999999, by decide⟩ = .escalate ∧
      failureDecision { condition := some .error, time := some ⟨84659, 1, by decide⟩ }
        ⟨86459, 1000000000, by decide⟩ = .retry 600 :=
  ⟨by decide, by decide, by decide, by decide, by decide, by decide⟩

end CsiOperator
