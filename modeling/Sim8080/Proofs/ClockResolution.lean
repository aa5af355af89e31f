import Mathlib
import Sim8080.Proofs.PollCadence

namespace Sim8080

namespace Clock

variable (c : Clock) {ns : Int}

theorem periodNs_new_pos_iff (f : Nat) : 0 < (new f).periodNs ↔ f ≤ 1000000000 := by
  simp only [new, Nat.div_pos_iff]
  omega

theorem setResolution_zero : c.setResolution 0 = .error .zeroResolution := rfl

theorem setResolution_paced (hns : 0 < ns) (hp : 0 < c.periodNs) :
    c.setResolution ns =
      .ok (max 1 (ns.toNat / c.periodNs), { c with resolution := some (max 1 (ns.toNat / c.periodNs)) }) := by
  have h0 : (ns == 0) = false := by simp; omega
  have hn : ¬ns < 0 := by omega
  have hp0 : (c.periodNs == 0) = false := by simp; omega
  simp only [setResolution, h0, hn, hp0, Bool.false_eq_true, ↓reduceIte]

theorem setResolution_zeroPeriod (hns : 0 < ns) (hp : c.periodNs = 0) :
    c.setResolution ns = .error .zeroPeriod := by
  have h0 : (ns == 0) = false := by simp; omega
  have hn : ¬ns < 0 := by omega
  simp only [setResolution, h0, hn, hp, Bool.false_eq_true, ↓reduceIte, beq_self_eq_true]

theorem ticks_mul_period_le (n p : Nat) (hp : 0 < p) : max 1 (n / p) * p ≤ max n p := by
  rcases Nat.lt_or_ge n p with h | h
  · simp [Nat.div_eq_of_lt h]
  · have hq : 1 ≤ n / p := (Nat.one_le_div_iff hp).mpr h
    have := Nat.div_mul_le_self n p
    rw [max_eq_right hq, max_eq_left h]
    exact this

-- On a new clock of any frequency, setting a resolution refuses exactly zero, unpaces the clock
-- for a negative resolution, divides by zero exactly for a positive resolution on a clock faster
-- than 1 GHz, and otherwise paces it every `max 1 (ns / period)` cycles, which times the period
-- stays within the larger of the two and, for a resolution below `2⁶³`, below `2⁶⁴`.
theorem setResolution_new (f : Nat) (ns : Int) :
    ((new f).setResolution ns = .error .zeroResolution ↔ ns = 0) ∧
    ((new f).setResolution ns = .error .zeroPeriod ↔ 0 < ns ∧ 1000000000 < f) ∧
    (ns < 0 → (new f).setResolution ns = .ok (0, { new f with resolution := none })) ∧
    (0 < ns → f ≤ 1000000000 →
      ∃ r, (new f).setResolution ns = .ok (r, { new f with resolution := some r }) ∧
        r = max 1 (ns.toNat / (new f).periodNs) ∧
        r * (new f).periodNs ≤ max ns.toNat (new f).periodNs ∧
        (ns < 9223372036854775808 → r * (new f).periodNs < 18446744073709551616)) := by
  have hperiod := periodNs_new_pos_iff f
  rcases lt_trichotomy ns 0 with hneg | rfl | hpos
  case inl =>
    have hu : (new f).setResolution ns = .ok (0, { new f with resolution := none }) :=
      Run.setResolution_unpaced hneg
    refine ⟨by simp [hu]; omega, by simp [hu]; omega, fun _ => hu, fun h => absurd h (by omega)⟩
  case inr.inl =>
    refine ⟨by simp [setResolution_zero], by simp [setResolution_zero], fun h => absurd h (by omega),
      fun h => absurd h (by omega)⟩
  case inr.inr =>
    -- A positive resolution is converted when the period is positive and divides by zero when not.
    have hcases : (f ≤ 1000000000 ∧ ∃ r, (new f).setResolution ns = .ok r) ∨
        (1000000000 < f ∧ (new f).setResolution ns = .error .zeroPeriod) := by
      by_cases hf : f ≤ 1000000000
      · exact .inl ⟨hf, _, setResolution_paced _ hpos (hperiod.mpr hf)⟩
      · have hz : (new f).periodNs = 0 := by
          have := hperiod.not.mpr hf
          omega
        exact .inr ⟨by omega, setResolution_zeroPeriod _ hpos hz⟩
    refine ⟨?_, ?_, fun h => absurd h (by omega), fun _ hf => ?_⟩
    · rcases hcases with ⟨-, _, h⟩ | ⟨-, h⟩ <;> simp [h] <;> omega
    · rcases hcases with ⟨hf, _, h⟩ | ⟨hf, h⟩ <;> simp [h] <;> omega
    · have hp := hperiod.mpr hf
      have hle := ticks_mul_period_le ns.toNat _ hp
      refine ⟨_, setResolution_paced _ hpos hp, rfl, hle, fun hbig => ?_⟩
      -- The period is at most 10⁹ nanoseconds, far below the 64-bit bound.
      have hp' : (new f).periodNs ≤ 1000000000 := Nat.div_le_self _ _
      omega

-- At 2 MHz a resolution of 16666667 ns is 33333 cycles.
theorem standard_clock_resolution :
    (new standardFrequency).setResolution 16666667 =
        .ok (33333, { new standardFrequency with resolution := some 33333 }) ∧
      33333 * (new standardFrequency).periodNs < 18446744073709551616 := by
  obtain ⟨-, -, -, hpaced⟩ := setResolution_new standardFrequency 16666667
  obtain ⟨r, hr, hval, -, hfit⟩ := hpaced (by decide) (by decide)
  have h : r = 33333 := by rw [hval]; rfl
  subst h
  exact ⟨hr, hfit (by decide)⟩

-- A 2 GHz clock has a period of zero, and a resolution of one nanosecond divides by it.
theorem gigahertz_resolution_divides_by_zero :
    (new 2000000000).periodNs = 0 ∧ (new 2000000000).setResolution 1 = .error .zeroPeriod :=
  ⟨rfl, rfl⟩

end Clock

end Sim8080
