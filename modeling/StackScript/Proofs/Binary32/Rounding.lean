import Mathlib.Algebra.Order.Ring.Nat
import Mathlib.Tactic.Ring
import StackScript.Binary32.Basic

/-!
# Rounding to the format

Rounding leads to the nearest magnitude of the format, and in a tie to the one with the even rank. It
depends only on the fraction that is rounded, not on its terms, and leaves a magnitude of the format as it
is.

* `Binary32.units_of_lt`, `Binary32.units_add`: the magnitudes in quanta, without division: ranks below
  `binade` are their own magnitude, and above it each binade doubles the spacing of the one before;
* `Binary32.units_strictMono`: a higher rank has a greater magnitude;
* `Binary32.isNearest_nearestRank`, `Binary32.IsNearest.unique`: what is rounded has one nearest rank, and
  rounding finds it;
* `Binary32.nearestRank_mul_right`: the terms of the fraction have no influence;
* `Binary32.val_nearestRank_units`: a magnitude rounds to its own rank.
-/

namespace StackScript.Binary32

/-! ## Magnitudes -/

theorem units_of_lt {r : Nat} (h : r < binade) : units r = r := by
  simp [units, Nat.div_eq_of_lt h]

/-- Rank and magnitude of a significand `m` of full length with the spacing `2 ^ s`. -/
theorem units_add (s : Nat) {m : Nat} (hlo : binade ≤ m) (hhi : m < 2 * binade) :
    units (s * binade + m) = m * 2 ^ s := by
  have hdiv : (s * binade + m) / binade = s + 1 := by
    rw [Nat.div_eq_iff (by decide)]
    simp only [binade] at hlo hhi ⊢
    omega
  simp only [units, hdiv, Nat.add_sub_cancel, Nat.add_sub_cancel_left, Nat.pow_eq]

/-- Every rank from `binade` on has a significand of full length. -/
theorem exists_significand {r : Nat} (h : binade ≤ r) :
    ∃ s m, r = s * binade + m ∧ binade ≤ m ∧ m < 2 * binade := by
  refine ⟨r / binade - 1, r - (r / binade - 1) * binade, ?_⟩
  simp only [binade] at h ⊢
  omega

/-! ## Rounding -/

theorem roundQuotient_mul (n : Nat) {k : Nat} (hk : 0 < k) : roundQuotient (n * k) k = n := by
  simp [roundQuotient, Nat.mul_div_cancel n hk, hk]

theorem roundQuotient_mul_right (num den : Nat) {k : Nat} (hk : 0 < k) :
    roundQuotient (num * k) (den * k) = roundQuotient num den := by
  have hmod : 2 * (num * k % (den * k)) = 2 * (num % den) * k := by
    rw [Nat.mul_mod_mul_right, Nat.mul_assoc]
  simp only [roundQuotient, Nat.mul_div_mul_right num den hk, hmod, Nat.mul_lt_mul_right hk,
    Nat.mul_right_cancel_iff hk]

/-- Only the fraction counts. -/
theorem nearestRank_mul_right (num den : Nat) {k : Nat} (hk : 0 < k) :
    nearestRank (num * k) (den * k) = nearestRank num den := by
  have hround (s : Nat) : roundQuotient (num * k) (den * k * s) = roundQuotient num (den * s) := by
    rw [Nat.mul_right_comm den k s, roundQuotient_mul_right num (den * s) hk]
  simp only [nearestRank, Nat.mul_div_mul_right num den hk, hround]

theorem val_nearestRank_zero (den : Nat) : (nearestRank 0 den).val = 0 := by
  rcases Nat.eq_zero_or_pos den with rfl | hden
  · rfl
  · simp [nearestRank, roundQuotient, hden]

/-- A significand with the spacing `2 ^ s`, if its leading bit gives it this spacing. -/
theorem val_nearestRank {m s : Nat} (h : (m * 2 ^ s).log2 - 23 = s) :
    (nearestRank (m * 2 ^ s) 1).val = min (s * binade + m) infinityRank := by
  have hs : 0 < 2 ^ s := Nat.two_pow_pos s
  simp only [nearestRank, Nat.div_one, h, Nat.one_mul, Nat.pow_eq, roundQuotient_mul m hs]

/-- The magnitude of a rank is a significand with the spacing that its leading bit gives it. -/
theorem exists_units_eq (r : Nat) :
    ∃ s m, units r = m * 2 ^ s ∧ r = s * binade + m ∧ (m * 2 ^ s).log2 - 23 = s := by
  rcases Nat.lt_or_ge r binade with hsmall | hlarge
  · refine ⟨0, r, by simp [units_of_lt hsmall], by simp, ?_⟩
    rcases Nat.eq_zero_or_pos r with rfl | hpos
    · rfl
    · have hlog : r.log2 < 23 := (Nat.log2_lt (by omega)).2 hsmall
      rw [Nat.pow_zero, Nat.mul_one]
      omega
  · obtain ⟨s, m, rfl, hlo, hhi⟩ := exists_significand hlarge
    refine ⟨s, m, units_add s hlo hhi, rfl, ?_⟩
    -- a significand of full length has its leading bit at weight 23
    have hs : 0 < 2 ^ s := Nat.two_pow_pos s
    have hm : 0 < m := Nat.lt_of_lt_of_le (by decide) hlo
    have hlog : (m * 2 ^ s).log2 = 23 + s := by
      rw [Nat.log2_eq_iff (Nat.mul_pos hm hs).ne', Nat.pow_add, Nat.add_right_comm, Nat.pow_add]
      exact ⟨Nat.mul_le_mul_right _ hlo, Nat.mul_lt_mul_of_pos_right hhi hs⟩
    omega

theorem units_pos {r : Nat} (h : 0 < r) : 0 < units r := by
  obtain ⟨s, m, hunits, hr, hlog⟩ := exists_units_eq r
  rw [hunits]
  refine Nat.mul_pos (Nat.pos_of_ne_zero ?_) (Nat.two_pow_pos s)
  rintro rfl
  rw [Nat.zero_mul, Nat.log2_zero, Nat.zero_sub] at hlog
  rw [← hlog, Nat.zero_mul] at hr
  omega

/-- A magnitude rounds to its own rank. -/
theorem val_nearestRank_units {r : Nat} (h : r ≤ infinityRank) :
    (nearestRank (units r) 1).val = r := by
  obtain ⟨s, m, hunits, hr, hlog⟩ := exists_units_eq r
  rw [hunits, val_nearestRank hlog, ← hr, Nat.min_eq_left h]

/-! ## The nearest rank -/

/-- Ranks and magnitudes up to the end of a binade, where the next one begins. -/
theorem units_grid {s m : Nat} (hlo : s = 0 ∨ binade ≤ m) (hhi : m ≤ 2 * binade) :
    units (s * binade + m) = m * 2 ^ s := by
  rcases Nat.lt_or_ge m binade with hsmall | hlarge
  · obtain rfl : s = 0 := hlo.resolve_right (Nat.not_le.2 hsmall)
    simp [units_of_lt hsmall]
  · rcases Nat.lt_or_ge m (2 * binade) with hm | hm
    · exact units_add s hlarge hm
    · obtain rfl : m = 2 * binade := Nat.le_antisymm hhi hm
      have hnext : s * binade + 2 * binade = (s + 1) * binade + binade := by ring
      rw [hnext, units_add (s + 1) (Nat.le_refl _) (by decide)]
      ring

theorem units_lt_succ (r : Nat) : units r < units (r + 1) := by
  obtain ⟨s, m, hr, hlo, hhi⟩ : ∃ s m, r = s * binade + m ∧ (s = 0 ∨ binade ≤ m) ∧ m < 2 * binade := by
    rcases Nat.lt_or_ge r binade with hsmall | hlarge
    · exact ⟨0, r, by simp, .inl rfl, by omega⟩
    · obtain ⟨s, m, hr, hlo, hhi⟩ := exists_significand hlarge
      exact ⟨s, m, hr, .inr hlo, hhi⟩
  have hlo' : s = 0 ∨ binade ≤ m + 1 := hlo.imp_right Nat.le_succ_of_le
  rw [hr, Nat.add_assoc, units_grid hlo hhi.le, units_grid hlo' hhi]
  exact Nat.mul_lt_mul_of_pos_right m.lt_succ_self (Nat.two_pow_pos s)

theorem units_strictMono : StrictMono units :=
  strictMono_nat_of_lt_succ units_lt_succ

/-- How far the magnitude of a rank is from `num / den` quanta, in parts of which `den` make a quantum. -/
def distance (num den rank : Nat) : Nat :=
  (units rank * den - num) + (num - units rank * den)

/-- No magnitude is nearer to `num / den` quanta than that of the rank, and if another is as near the rank
is even. Infinity takes part with the least magnitude that is too large for the format. -/
structure IsNearest (num den rank : Nat) : Prop where
  rank_le : rank ≤ infinityRank
  nearest : ∀ r ≤ infinityRank, distance num den rank ≤ distance num den r
  even : ∀ r ≤ infinityRank, r ≠ rank → distance num den r = distance num den rank → rank % 2 = 0

/-- Between two ranks that are both nearest there is no third, and only one of them is even. -/
theorem IsNearest.unique {num den r r' : Nat} (hden : 0 < den) (h : IsNearest num den r)
    (h' : IsNearest num den r') : r = r' := by
  by_contra hne
  wlog hlt : r < r' generalizing r r'
  · exact this h' h (Ne.symm hne) (by omega)
  have htie : distance num den r = distance num den r' :=
    Nat.le_antisymm (h.nearest r' h'.rank_le) (h'.nearest r h.rank_le)
  have heven := h.even r' h'.rank_le (Ne.symm hne) htie.symm
  have heven' := h'.even r h.rank_le hne htie
  have hmiddle := h.nearest (r + 1) (Nat.le_trans hlt h'.rank_le)
  have hlow : units r * den < units (r + 1) * den := Nat.mul_lt_mul_of_pos_right (units_lt_succ r) hden
  have hhigh : units (r + 1) * den < units r' * den :=
    Nat.mul_lt_mul_of_pos_right (units_strictMono (by omega : r + 1 < r')) hden
  unfold distance at htie hmiddle
  omega

/-- The spacing at `num / den` is that of its significand: this has at most 24 bits, and fewer only where
the spacing is one quantum. -/
theorem significand_bounds (num : Nat) {den s : Nat} (hs : s = (num / den).log2 - 23) :
    (s = 0 ∨ binade ≤ num / (den * 2 ^ s)) ∧ num / (den * 2 ^ s) < 2 * binade := by
  rw [← Nat.div_div_eq_div_mul]
  generalize num / den = n at hs ⊢
  rcases Nat.eq_zero_or_pos n with rfl | hn
  · exact ⟨.inl hs, by simp [binade]⟩
  · have hlog := (Nat.log2_eq_iff (Nat.ne_of_gt hn)).1 rfl
    have hupper : n.log2 + 1 ≤ 24 + s := by omega
    refine ⟨?_, ?_⟩
    · rcases Nat.eq_zero_or_pos s with h0 | hpos
      · exact .inl h0
      · have hbits : n.log2 = 23 + s := by omega
        rw [hbits, Nat.pow_add] at hlog
        exact .inr ((Nat.le_div_iff_mul_le (Nat.two_pow_pos s)).2 hlog.1)
    · have hlt := hlog.2.trans_le (Nat.pow_le_pow_right Nat.two_pos hupper)
      rw [Nat.pow_add] at hlt
      exact (Nat.div_lt_iff_lt_mul (Nat.two_pow_pos s)).2 hlt

/-- Rounding a fraction between the magnitudes of two neighbours to the nearer of them, in a tie to the
even one, leads to the nearest rank. -/
theorem isNearest_of_between {num den low rest width rank : Nat} (hden : 0 < den)
    (hnum : num = units low * den + rest) (hrest : rest < width)
    (hwidth : units (low + 1) * den = units low * den + width) (hle : rank ≤ infinityRank)
    (hrank : rank = if 2 * rest < width ∨ (2 * rest = width ∧ low % 2 = 0) then low else low + 1) :
    IsNearest num den rank := by
  have hbelow : ∀ {r}, r < low → units r * den < units low * den := fun h =>
    Nat.mul_lt_mul_of_pos_right (units_strictMono h) hden
  have habove : ∀ {r}, low + 1 < r → units (low + 1) * den < units r * den := fun h =>
    Nat.mul_lt_mul_of_pos_right (units_strictMono h) hden
  -- seen from the fraction, every rank lies beyond one of the neighbours or is one of them
  have hsides : ∀ r, (r < low ∧ rest < distance num den r) ∨ (r = low ∧ distance num den r = rest) ∨
      (r = low + 1 ∧ distance num den r = width - rest) ∨
      (low + 1 < r ∧ width - rest < distance num den r) := by
    intro r
    unfold distance
    rcases Nat.lt_trichotomy r low with h | rfl | h
    · have := hbelow h
      omega
    · omega
    · rcases Nat.lt_or_eq_of_le (Nat.succ_le_of_lt h) with h | rfl
      · have := habove h
        omega
      · rw [Nat.succ_eq_add_one]
        omega
  have hself := hsides rank
  refine ⟨hle, fun r _ => ?_, fun r _ hne heq => ?_⟩
  · have hother := hsides r
    split at hrank <;> omega
  · have hother := hsides r
    split at hrank <;> omega

/-- What is beyond the format is nearest to infinity. -/
theorem isNearest_infinityRank {num den : Nat} (h : units infinityRank * den ≤ num) :
    IsNearest num den infinityRank := by
  refine ⟨Nat.le_refl _, fun r hr => ?_, fun _ _ _ _ => by decide⟩
  have hunits : units r * den ≤ units infinityRank * den :=
    Nat.mul_le_mul_right den (units_strictMono.monotone hr)
  unfold distance
  omega

/-- Rounding finds the nearest rank. -/
theorem isNearest_nearestRank (num : Nat) {den : Nat} (hden : 0 < den) :
    IsNearest num den (nearestRank num den).val := by
  obtain ⟨s, hs⟩ : ∃ s, s = (num / den).log2 - 23 := ⟨_, rfl⟩
  obtain ⟨hlo, hhi⟩ := significand_bounds num hs
  obtain ⟨q, hq⟩ : ∃ q, q = num / (den * 2 ^ s) := ⟨_, rfl⟩
  obtain ⟨rest, hmod⟩ : ∃ rest, rest = num % (den * 2 ^ s) := ⟨_, rfl⟩
  rw [← hq] at hlo hhi
  have hwidth : 0 < den * 2 ^ s := Nat.mul_pos hden (Nat.two_pow_pos s)
  have hlow : units (s * binade + q) * den = q * (den * 2 ^ s) := by
    rw [units_grid hlo hhi.le]
    ring
  have hhigh : units (s * binade + q + 1) * den = q * (den * 2 ^ s) + den * 2 ^ s := by
    have hlo' : s = 0 ∨ binade ≤ q + 1 := hlo.imp_right Nat.le_succ_of_le
    rw [Nat.add_assoc, units_grid hlo' hhi]
    ring
  have hnum : num = q * (den * 2 ^ s) + rest := by
    rw [hq, hmod, Nat.mul_comm, Nat.div_add_mod]
  have hrest : rest < den * 2 ^ s := hmod ▸ Nat.mod_lt num hwidth
  have hparity : (s * binade + q) % 2 = q % 2 := by
    simp only [binade]
    omega
  have hrank : (nearestRank num den).val = min (if 2 * rest < den * 2 ^ s ∨
      (2 * rest = den * 2 ^ s ∧ (s * binade + q) % 2 = 0)
      then s * binade + q else s * binade + q + 1) infinityRank := by
    simp only [nearestRank, roundQuotient, ← hs, Nat.pow_eq, ← hq, ← hmod, hparity]
    congr 1
    split
    · rfl
    · rw [Nat.add_assoc]
  rcases Nat.lt_or_ge infinityRank (s * binade + q + 1) with hover | hfits
  · -- the lower neighbour is infinity or beyond
    have hinf : infinityRank ≤ s * binade + q := Nat.le_of_lt_succ hover
    have hmax : (nearestRank num den).val = infinityRank := by
      rw [hrank]
      refine Nat.min_eq_right ?_
      split
      · exact hinf
      · exact Nat.le_succ_of_le hinf
    rw [hmax]
    refine isNearest_infinityRank ?_
    have hunits := Nat.mul_le_mul_right den (units_strictMono.monotone hinf)
    omega
  · have hle : (nearestRank num den).val ≤ infinityRank := hrank ▸ Nat.min_le_right _ _
    rw [← hlow] at hnum hhigh
    refine isNearest_of_between hden hnum hrest hhigh hle ?_
    rw [hrank, Nat.min_eq_left]
    split
    · exact Nat.le_of_succ_le hfits
    · exact hfits

/-- Less than half a quantum is rounded to zero. -/
theorem nearestRank_of_lt {num den : Nat} (h : 2 * num < den) : (nearestRank num den).val = 0 := by
  have hspec := isNearest_nearestRank num (Nat.zero_lt_of_lt h)
  have hzero := hspec.nearest 0 (Nat.zero_le _)
  by_contra hne
  have hunits : 1 * den ≤ units (nearestRank num den).val * den :=
    Nat.mul_le_mul_right den (units_pos (Nat.pos_of_ne_zero hne))
  rw [distance, distance, units_of_lt (by decide : 0 < binade)] at hzero
  omega

theorem nearestRank_of_le {num den : Nat} (hden : 0 < den) (h : units infinityRank * den ≤ num) :
    nearestRank num den = infinite :=
  Fin.ext ((isNearest_nearestRank num hden).unique hden (isNearest_infinityRank h))

end StackScript.Binary32
