import Uplift.Duration

set_option autoImplicit false

/-! # Which numbers of seconds have a duration

Durations end below `2 ^ 64` seconds, and so do the doubles that have one: the greatest double below
`2 ^ 64` is `2 ^ 11` away from it, so the rounding to nanoseconds does not reach the end
(`ofSeconds?_eq_none_iff`). A decimal is rounded to a double first, and there the end is reached
early: from `2 ^ 64 - 2 ^ 10` on, halfway between that double and the end, a decimal is rounded up to
`2 ^ 64` (`ofSeconds?_ofDecimal?`).

Both facts are about the ranks of powers of two. The rank `(k + 2) * 2 ^ 52` is that of `2 ^ (k + 53)`
units, where the doubles below stand `2 ^ k` units apart; `unitsOfRank_le` and `le_unitsOfRank` say
so from the side of ranks, `rankOfUnits_lt_iff` from the side of the numbers that are rounded. -/

namespace Uplift.Double

/-! ## Rounded quotients -/

theorem div_le_roundDiv (num den : Nat) : num / den ≤ roundDiv num den := by
  simp only [roundDiv]
  split
  · exact Nat.le_refl _
  · split <;> omega

theorem roundDiv_le (num den : Nat) : roundDiv num den ≤ num / den + 1 := by
  simp only [roundDiv]
  split
  · exact Nat.le_succ _
  · split <;> omega

/-- A quotient is rounded below an even number exactly if it is less than the half before it: the
    half itself goes up, to the even neighbour. -/
theorem roundDiv_lt_iff (num : Nat) {den : Nat} (hden : 0 < den) (m : Nat) :
    roundDiv num den < 2 * m + 2 ↔ 2 * num < (4 * m + 3) * den := by
  have hnum : den * (num / den) + num % den = num := Nat.div_add_mod num den
  have hrest : num % den < den := Nat.mod_lt num hden
  have hhalf : (4 * m + 3) * den = 2 * (den * (2 * m + 1)) + den := by grind
  rcases Nat.lt_trichotomy (num / den) (2 * m + 1) with hlt | heq | hgt
  · have hup := roundDiv_le num den
    have hbelow : den * (num / den + 1) ≤ den * (2 * m + 1) := Nat.mul_le_mul_left den hlt
    rw [Nat.mul_add, Nat.mul_one] at hbelow
    omega
  · rw [heq] at hnum
    simp only [roundDiv, heq]
    split
    · omega
    · split <;> omega
  · have hdown := div_le_roundDiv num den
    have habove : den * (2 * m + 1 + 1) ≤ den * (num / den) := Nat.mul_le_mul_left den hgt
    rw [Nat.mul_add, Nat.mul_one] at habove
    omega

/-! ## Ranks of powers of two -/

/-- Doubles below `2 ^ (k + 53)` units stay `2 ^ k` units below. -/
theorem unitsOfRank_le {rank k : Nat} (h : rank < (k + 2) * Nat.pow 2 52) :
    unitsOfRank rank ≤ (Nat.pow 2 53 - 1) * Nat.pow 2 k := by
  simp only [unitsOfRank]
  split
  · rename_i hsmall
    calc rank ≤ (Nat.pow 2 53 - 1) * 1 := by
          rw [Nat.mul_one]
          exact Nat.le_of_lt (Nat.lt_trans hsmall (by decide))
      _ ≤ (Nat.pow 2 53 - 1) * Nat.pow 2 k := Nat.mul_le_mul_left _ Nat.one_le_two_pow
  · have hblock : rank / Nat.pow 2 52 < k + 2 := Nat.div_lt_of_lt_mul (by rwa [Nat.mul_comm])
    have hmod : rank % Nat.pow 2 52 < Nat.pow 2 52 := Nat.mod_lt _ (by decide)
    have hbits : Nat.pow 2 52 + rank % Nat.pow 2 52 ≤ Nat.pow 2 53 - 1 := by
      have hdouble : Nat.pow 2 53 = 2 * Nat.pow 2 52 := rfl
      omega
    exact Nat.mul_le_mul hbits (Nat.pow_le_pow_right (by decide) (by omega))

theorem le_unitsOfRank {rank k : Nat} (h : (k + 2) * Nat.pow 2 52 ≤ rank) :
    Nat.pow 2 53 * Nat.pow 2 k ≤ unitsOfRank rank := by
  have hblock : k + 2 ≤ rank / Nat.pow 2 52 := (Nat.le_div_iff_mul_le (by decide)).2 h
  have hlarge : ¬ rank < Nat.pow 2 52 := by
    intro hsmall
    rw [Nat.div_eq_of_lt hsmall] at hblock
    omega
  simp only [unitsOfRank, if_neg hlarge]
  calc Nat.pow 2 53 * Nat.pow 2 k = Nat.pow 2 52 * Nat.pow 2 (1 + k) := by
        rw [show Nat.pow 2 (1 + k) = 2 * Nat.pow 2 k from Nat.pow_add 2 1 k, ← Nat.mul_assoc]
    _ ≤ (Nat.pow 2 52 + rank % Nat.pow 2 52) * Nat.pow 2 (rank / Nat.pow 2 52 - 1) :=
        Nat.mul_le_mul (Nat.le_add_right _ _) (Nat.pow_le_pow_right (by decide) (by omega))

/-- How a quotient is rounded: its leading 53 bits count steps of `2 ^ shift` units, and quotients
    without a leading bit count units. -/
theorem exists_shift (num : Nat) {den : Nat} (hden : 0 < den) :
    ∃ shift, num < Nat.pow 2 53 * (den * Nat.pow 2 shift) ∧
      (shift = 0 ∨ Nat.pow 2 52 * (den * Nat.pow 2 shift) ≤ num) ∧
      rankOfUnits num den = shift * Nat.pow 2 52 + roundDiv num (den * Nat.pow 2 shift) := by
  have hupper : num / den < Nat.pow 2 ((num / den).log2 + 1) := Nat.lt_log2_self
  refine ⟨(num / den).log2 - 52, ?_, ?_, rfl⟩
  · have hle : Nat.pow 2 ((num / den).log2 + 1) ≤ Nat.pow 2 (53 + ((num / den).log2 - 52)) :=
      Nat.pow_le_pow_right (by decide) (by omega)
    have hlt := (Nat.div_lt_iff_lt_mul hden).1 (Nat.lt_of_lt_of_le hupper hle)
    calc num < Nat.pow 2 (53 + ((num / den).log2 - 52)) * den := hlt
      _ = Nat.pow 2 53 * Nat.pow 2 ((num / den).log2 - 52) * den := congrArg (· * den) (Nat.pow_add 2 53 _)
      _ = Nat.pow 2 53 * (den * Nat.pow 2 ((num / den).log2 - 52)) := by
          rw [Nat.mul_assoc, Nat.mul_comm den]
  · by_cases hbits : (num / den).log2 ≤ 52
    · exact .inl (by omega)
    · right
      have hne : num / den ≠ 0 := by
        intro hzero
        rw [hzero] at hbits
        exact hbits (by decide)
      have hle : Nat.pow 2 (52 + ((num / den).log2 - 52)) ≤ num / den := by
        rw [show 52 + ((num / den).log2 - 52) = (num / den).log2 by omega]
        exact Nat.log2_self_le hne
      calc Nat.pow 2 52 * (den * Nat.pow 2 ((num / den).log2 - 52))
          = Nat.pow 2 52 * Nat.pow 2 ((num / den).log2 - 52) * den := by
            rw [Nat.mul_assoc, Nat.mul_comm den]
        _ = Nat.pow 2 (52 + ((num / den).log2 - 52)) * den :=
            congrArg (· * den) (Nat.pow_add 2 52 _).symm
        _ ≤ num := (Nat.le_div_iff_mul_le hden).1 hle

/-- A quotient gets a rank below that of `2 ^ (k + 53)` units exactly if it is less than the half
    before it, `2 ^ k / 2` units below. -/
theorem rankOfUnits_lt_iff (num : Nat) {den : Nat} (hden : 0 < den) (k : Nat) :
    rankOfUnits num den < (k + 2) * Nat.pow 2 52 ↔
      2 * num < (Nat.pow 2 54 - 1) * (den * Nat.pow 2 k) := by
  obtain ⟨shift, hupper, hlower, hrank⟩ := exists_shift num hden
  rw [hrank]
  have hstep : 0 < den * Nat.pow 2 shift := Nat.mul_pos hden Nat.one_le_two_pow
  have h52 : Nat.pow 2 52 = 4503599627370496 := rfl
  have h53 : Nat.pow 2 53 = 9007199254740992 := rfl
  have h54 : Nat.pow 2 54 = 18014398509481984 := rfl
  rw [h53] at hupper
  rw [h52] at hlower ⊢
  rw [h54]
  -- the steps of a lower power of two are at most half as wide
  have hwidth {i j : Nat} (hij : i < j) : 2 * (den * Nat.pow 2 i) ≤ den * Nat.pow 2 j := by
    calc 2 * (den * Nat.pow 2 i) = den * Nat.pow 2 (1 + i) := by
          rw [show Nat.pow 2 (1 + i) = 2 * Nat.pow 2 i from Nat.pow_add 2 1 i, Nat.mul_left_comm]
      _ ≤ den * Nat.pow 2 j := Nat.mul_le_mul_left den (Nat.pow_le_pow_right (by decide) (by omega))
  rcases Nat.lt_trichotomy shift k with hlt | rfl | hgt
  · have hquot := (Nat.div_lt_iff_lt_mul hstep).2 hupper
    have hround := roundDiv_le num (den * Nat.pow 2 shift)
    have := hwidth hlt
    constructor <;> intro _ <;> omega
  · have hhalf := roundDiv_lt_iff num hstep 4503599627370495
    omega
  · have hlower := hlower.resolve_left (by omega)
    have hquot := (Nat.le_div_iff_mul_le hstep).2 hlower
    have hround := div_le_roundDiv num (den * Nat.pow 2 shift)
    have := hwidth hgt
    constructor <;> intro _ <;> omega

/-! ## The double `2 ^ 64` -/

/-- The rank of `2 ^ 64`. -/
def rankOfWords : Nat := (1074 + 11 + 2) * Nat.pow 2 52

theorem units_one_pos : 0 < one := by
  unfold one
  generalize 1074 = e
  exact Nat.one_le_two_pow

theorem pow_two_one_add (j : Nat) : Nat.pow 2 (1074 + j) = one * Nat.pow 2 j := by
  unfold one
  generalize 1074 = e
  exact Nat.pow_add 2 e j

theorem unitsOfRank_one_le {rank j : Nat} (h : rank < (1074 + j + 2) * Nat.pow 2 52) :
    unitsOfRank rank ≤ (Nat.pow 2 53 - 1) * (one * Nat.pow 2 j) := by
  rw [← pow_two_one_add]
  exact unitsOfRank_le h

theorem one_le_unitsOfRank {rank j : Nat} (h : (1074 + j + 2) * Nat.pow 2 52 ≤ rank) :
    Nat.pow 2 53 * (one * Nat.pow 2 j) ≤ unitsOfRank rank := by
  rw [← pow_two_one_add]
  exact le_unitsOfRank h

theorem rankOfUnits_one_lt_iff (num : Nat) {den : Nat} (hden : 0 < den) (j : Nat) :
    rankOfUnits (num * one) den < (1074 + j + 2) * Nat.pow 2 52 ↔
      2 * num < (Nat.pow 2 54 - 1) * (den * Nat.pow 2 j) := by
  have hscale : (Nat.pow 2 54 - 1) * (den * Nat.pow 2 (1074 + j)) =
      (Nat.pow 2 54 - 1) * (den * Nat.pow 2 j) * one := by
    rw [pow_two_one_add, Nat.mul_comm one, ← Nat.mul_assoc den, ← Nat.mul_assoc]
  rw [rankOfUnits_lt_iff _ hden, hscale, ← Nat.mul_assoc]
  exact Nat.mul_lt_mul_right units_one_pos

theorem exists_roundRatio (negative : Bool) {num den : Nat} (hden : 0 < den)
    (h : num < UInt64.size * den) : ∃ d, roundRatio negative num den = some d := by
  have hrank : rankOfUnits (num * one) den < (1074 + 12 + 2) * Nat.pow 2 52 := by
    rw [rankOfUnits_one_lt_iff num hden]
    simp only [UInt64.size] at h
    show 2 * num < 18014398509481983 * (den * 4096)
    omega
  have hfinite : rankOfUnits (num * one) den < rankLimit := Nat.lt_trans hrank (by decide)
  exact ⟨⟨negative, _, hfinite⟩, dif_pos hfinite⟩

theorem rankOfUnits_one_lt_iff_half (num : Nat) {den : Nat} (hden : 0 < den) (e : Nat) :
    rankOfUnits (num * one) den < (1074 + (e + 1) + 2) * Nat.pow 2 52 ↔
      num < (Nat.pow 2 54 - 1) * Nat.pow 2 e * den := by
  have hhalf : (Nat.pow 2 54 - 1) * (den * Nat.pow 2 (e + 1)) =
      2 * ((Nat.pow 2 54 - 1) * Nat.pow 2 e * den) := by
    rw [show Nat.pow 2 (e + 1) = Nat.pow 2 e * 2 from Nat.pow_succ 2 e]
    grind
  rw [rankOfUnits_one_lt_iff num hden, hhalf]
  omega

/-- Halfway between the greatest double and `2 ^ 1024`. -/
def doubleLimit : Nat := (Nat.pow 2 54 - 1) * Nat.pow 2 970

/-- A fraction has a nearest double exactly if it is below the half before `2 ^ 1024`. -/
theorem roundRatio_eq_none_iff (negative : Bool) (num : Nat) {den : Nat} (hden : 0 < den) :
    roundRatio negative num den = none ↔ doubleLimit * den ≤ num := by
  have hlimit : rankLimit = (1074 + (970 + 1) + 2) * Nat.pow 2 52 := rfl
  have hfinite : rankOfUnits (num * one) den < rankLimit ↔ num < doubleLimit * den := by
    rw [hlimit]
    unfold doubleLimit
    generalize 970 = e
    exact rankOfUnits_one_lt_iff_half num hden e
  rw [← Nat.not_lt, ← hfinite]
  simp [roundRatio]

theorem roundRatio_eq_some {negative : Bool} {num den : Nat} {d : Double}
    (h : roundRatio negative num den = some d) :
    d.negative = negative ∧ d.rank = rankOfUnits (num * one) den := by
  simp only [roundRatio] at h
  split at h
  · obtain rfl := Option.some.inj h
    exact ⟨rfl, rfl⟩
  · cases h

/-- The double nearest to a fraction is below `2 ^ 64` exactly if the fraction is less than the half
    before it. -/
theorem rank_lt_of_roundRatio {negative : Bool} {num den : Nat} {d : Double} (hden : 0 < den)
    (h : roundRatio negative num den = some d) :
    d.rank < rankOfWords ↔ num < (UInt64.size - Nat.pow 2 10) * den := by
  rw [(roundRatio_eq_some h).2, rankOfWords, rankOfUnits_one_lt_iff num hden]
  show 2 * num < 18014398509481983 * (den * 2048) ↔ num < 18446744073709550592 * den
  omega

/-! ## Decimals -/

/-- A decimal with `k` digits after the point is rounded as a fraction, and that fraction is below a
    bound exactly if the decimal is. -/
theorem exists_ratio (negative : Bool) (digits k : Nat) :
    ∃ num den, 0 < den ∧ ofDecimal? negative digits (-(k : Int)) = roundRatio negative num den ∧
      ∀ bound, 0 < bound → (num < bound * den ↔ digits < bound * Nat.pow 10 k) := by
  have hten : 0 < Nat.pow 10 k := Nat.pow_pos (by decide)
  -- what is below the power of ten is below every bound, and so is zero
  have hzero (hsmall : digits < Nat.pow 10 k) (bound : Nat) (hbound : 0 < bound) :
      0 < bound * 1 ↔ digits < bound * Nat.pow 10 k := by
    have hle : Nat.pow 10 k ≤ bound * Nat.pow 10 k := Nat.le_mul_of_pos_left _ hbound
    omega
  by_cases hdigits : digits = 0
  · exact ⟨0, 1, by decide, by simp [ofDecimal?, hdigits], hzero (by omega)⟩
  have hexponent : ¬ -(k : Int) > 400 := by omega
  by_cases htiny : -(k : Int) + (digits.log2 : Int) < -400
  · have hsmall : digits < Nat.pow 10 k := by
      calc digits < Nat.pow 2 (digits.log2 + 1) := Nat.lt_log2_self
        _ ≤ Nat.pow 2 k := Nat.pow_le_pow_right (by decide) (by omega)
        _ ≤ Nat.pow 10 k := Nat.pow_le_pow_left (by decide) k
    exact ⟨0, 1, by decide, by simp [ofDecimal?, hdigits, htiny, hexponent], hzero hsmall⟩
  by_cases hwhole : k = 0
  · subst hwhole
    refine ⟨digits, 1, by decide, ?_, ?_⟩
    · have hpos : 0 ≤ -((0 : Nat) : Int) := by decide
      have hshift : digits * Nat.pow 10 (-((0 : Nat) : Int)).toNat = digits := Nat.mul_one digits
      simp only [ofDecimal?, if_neg hdigits, if_neg hexponent, if_neg htiny, if_pos hpos, hshift]
    · intro bound _
      rfl
  · refine ⟨digits, Nat.pow 10 k, hten, ?_, ?_⟩
    · have hneg : ¬ 0 ≤ -(k : Int) := by omega
      simp only [ofDecimal?, if_neg hdigits, if_neg hexponent, if_neg htiny, if_neg hneg,
        Int.neg_neg, Int.toNat_natCast]
    · intro bound _
      rfl

theorem ofDecimal?_eq_none_iff (negative : Bool) (digits k : Nat) :
    ofDecimal? negative digits (-(k : Int)) = none ↔ doubleLimit * Nat.pow 10 k ≤ digits := by
  obtain ⟨num, den, hden, hratio, hbound⟩ := exists_ratio negative digits k
  have hpos : 0 < doubleLimit := by
    unfold doubleLimit
    generalize 970 = e
    exact Nat.mul_pos (by decide) Nat.one_le_two_pow
  rw [hratio, roundRatio_eq_none_iff negative num hden, ← Nat.not_lt, hbound _ hpos, Nat.not_lt]

theorem exists_ofDecimal? (negative : Bool) {digits k : Nat}
    (h : digits < UInt64.size * Nat.pow 10 k) :
    ∃ d, ofDecimal? negative digits (-(k : Int)) = some d := by
  obtain ⟨num, den, hden, hratio, hbound⟩ := exists_ratio negative digits k
  rw [hratio]
  exact exists_roundRatio negative hden ((hbound UInt64.size (by decide)).2 h)

end Uplift.Double

namespace Uplift.Duration

open Double

theorem ofNanos?_eq_none_iff (n : Nat) : ofNanos? n = none ↔ durationLimit ≤ n := by
  simp [ofNanos?]

/-- Seconds in parts of a second, as far as `2 ^ 11` below `2 ^ 64`, are rounded to nanoseconds of a
    duration. -/
theorem roundDiv_nanos_lt {parts second : Nat}
    (h : parts ≤ (Nat.pow 2 53 - 1) * (second * Nat.pow 2 11)) :
    roundDiv (parts * nanosPerSecond) second < durationLimit := by
  have hparts : parts ≤ 9007199254740991 * (second * 2048) := h
  have hquot : parts * nanosPerSecond / second ≤ 9007199254740991 * 2048 * nanosPerSecond := by
    apply Nat.div_le_of_le_mul
    simp only [nanosPerSecond]
    omega
  have hround := roundDiv_le (parts * nanosPerSecond) second
  simp only [durationLimit, UInt64.size, nanosPerSecond] at hquot hround ⊢
  omega

theorem le_roundDiv_nanos {parts second : Nat} (hsecond : 0 < second)
    (h : Nat.pow 2 53 * (second * Nat.pow 2 11) ≤ parts) :
    durationLimit ≤ roundDiv (parts * nanosPerSecond) second := by
  have hparts : 9007199254740992 * (second * 2048) ≤ parts := h
  have hquot : durationLimit ≤ parts * nanosPerSecond / second := by
    rw [Nat.le_div_iff_mul_le hsecond]
    simp only [durationLimit, UInt64.size, nanosPerSecond]
    omega
  exact Nat.le_trans hquot (div_le_roundDiv _ _)

/-- Of the doubles that are not negative, exactly those below `2 ^ 64` are seconds of a duration. -/
theorem ofSeconds?_eq_none_iff (s : Double) :
    ofSeconds? s = none ↔ s.isNegative = true ∨ rankOfWords ≤ s.rank := by
  have hnanos : durationLimit ≤ roundDiv (s.units * nanosPerSecond) one ↔ rankOfWords ≤ s.rank := by
    constructor
    · intro hlimit
      apply Nat.le_of_not_lt
      intro hrank
      exact Nat.not_lt.2 hlimit (roundDiv_nanos_lt (unitsOfRank_one_le hrank))
    · intro hrank
      exact le_roundDiv_nanos units_one_pos (one_le_unitsOfRank hrank)
  by_cases hneg : s.isNegative = true
  · simp [ofSeconds?, hneg]
  · simp [ofSeconds?, hneg, ofNanos?_eq_none_iff, hnanos]

theorem rankOfWords_le_iff (s : Double) : rankOfWords ≤ s.rank ↔ UInt64.size * one ≤ s.units := by
  have hsecond := units_one_pos
  have hlong : rankOfWords ≤ s.rank → Nat.pow 2 53 * (one * Nat.pow 2 11) ≤ s.units :=
    fun hrank => one_le_unitsOfRank hrank
  have hshort : ¬ rankOfWords ≤ s.rank → s.units ≤ (Nat.pow 2 53 - 1) * (one * Nat.pow 2 11) :=
    fun hrank => unitsOfRank_one_le (Nat.lt_of_not_le hrank)
  generalize one = second at hsecond hlong hshort ⊢
  simp only [UInt64.size]
  by_cases hrank : rankOfWords ≤ s.rank
  · have hunits : 9007199254740992 * (second * 2048) ≤ s.units := hlong hrank
    simp only [hrank, true_iff]
    omega
  · have hunits : s.units ≤ 9007199254740991 * (second * 2048) := hshort hrank
    simp only [hrank, false_iff]
    omega

/-- Halfway between the last double that is seconds of a duration and `2 ^ 64`. -/
def decimalLimit : Nat := UInt64.size - Nat.pow 2 10

/-- A decimal number of seconds has a duration exactly if it is below the half before `2 ^ 64`. -/
theorem ofSeconds?_ofDecimal? {digits k : Nat} {s : Double}
    (h : ofDecimal? false digits (-(k : Int)) = some s) :
    ofSeconds? s = none ↔ decimalLimit * Nat.pow 10 k ≤ digits := by
  obtain ⟨num, den, hden, hratio, hbound⟩ := exists_ratio false digits k
  rw [hratio] at h
  have hsign : s.isNegative = false := by
    rw [isNegative, (roundRatio_eq_some h).1, Bool.false_and]
  have hrank : s.rank < rankOfWords ↔ digits < decimalLimit * Nat.pow 10 k :=
    (rank_lt_of_roundRatio hden h).trans (hbound _ (by decide))
  rw [ofSeconds?_eq_none_iff, hsign, ← Nat.not_lt, hrank, Nat.not_lt]
  simp

end Uplift.Duration
