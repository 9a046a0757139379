/-
Clocks whose readings can be shown.

* `Date.year_iff`: the days of the years from 1 to 9999.
* `WallTime.exists_moment_iff`: the times that have a date.
* `Binary64.overflow`, `Binary64.exists_ofInt_iff`: the integers beyond the floating-point
  numbers.
* `Capture.exists_elapsedMs_iff`: the entries since which the milliseconds are known.
-/
import Mathlib.Tactic.Common
import AccessLog.Exchange.View

namespace AccessLog

lemma not_exists_error_eq_ok {ε α : Type} (e : ε) :
    ¬∃ a, (Except.error e : Except ε α) = .ok a := by
  rintro ⟨a, same⟩
  cases same

/-! ### Dates -/

namespace Date

/-- The years of an era are counted from March; day `145731` begins the last. -/
lemma yearOfEra_bounds {d : Nat} (inEra : d < 146097) :
    let y := (d - d / 1460 + d / 36524 - d / 146096) / 365
    y ≤ 399 ∧ (y = 399 ↔ 145731 ≤ d) ∧ (y = 0 ↔ d < 365) := by
  intro y
  by_cases early : d < 144540
  · have whole : d / 146096 = 0 := by omega
    have centuries : d / 36524 ≤ 3 := by omega
    refine ⟨?_, ?_, ?_⟩ <;> omega
  · -- the leap day of the last year ends the era
    by_cases last : d = 146096
    · subst last
      decide
    have whole : d / 146096 = 0 := by omega
    have centuries : d / 36524 = 3 := by omega
    have leaps : d / 1460 = if d < 146000 then 99 else 100 := by split <;> omega
    simp only [y, whole, centuries, leaps]
    split <;> omega

/-- The year of a day: that of the era, with January and February in the next one. -/
lemma exists_year (days : Int) :
    ∃ y : Nat, (ofDays days).year = 400 * ((days + 719468) / 146097) + y ∧ y ≤ 400 ∧
      (y = 400 ↔ 146037 ≤ (days + 719468) % 146097) ∧
      (y = 0 ↔ (days + 719468) % 146097 < 306) := by
  obtain ⟨d, same⟩ : ∃ d : Nat, (d : Int) = (days + 719468) % 146097 :=
    ⟨_, Int.toNat_of_nonneg (Int.emod_nonneg _ (by decide))⟩
  have inEra : d < 146097 := by omega
  obtain ⟨bound, last, first⟩ := yearOfEra_bounds inEra
  have toNat : ((days + 719468) % 146097).toNat = d := by omega
  simp only [ofDays, toNat]
  rw [← same]
  generalize (d - d / 1460 + d / 36524 - d / 146096) / 365 = y at bound last first ⊢
  have winter (shifted : Nat) :
      (if shifted < 10 then shifted + 3 else shifted - 9) ≤ 2 ↔
        10 ≤ shifted ∧ shifted ≤ 11 := by
    split <;> omega
  simp only [winter]
  split
  · exact ⟨y + 1, by omega, by omega, by omega, by omega⟩
  · exact ⟨y, by omega, by omega, by omega, by omega⟩

/-- The days of the years from 1 to 9999. -/
lemma year_iff (days : Int) : (1 ≤ (ofDays days).year ∧ (ofDays days).year ≤ 9999) ↔
    -719162 ≤ days ∧ days ≤ 2932896 := by
  obtain ⟨y, year, bound, last, first⟩ := exists_year days
  rw [year]
  omega

end Date

/-- The time is a number of seconds within the years from 1 to 9999. -/
def WallTime.InYears (t : WallTime) : Prop :=
  ∃ i, t.instant = .ok i ∧ -62135596800 ≤ i.seconds ∧ i.seconds < 253402300800

lemma Instant.exists_moment_iff (i : Instant) :
    (∃ m, i.moment = .ok m) ↔ -62135596800 ≤ i.seconds ∧ i.seconds < 253402300800 := by
  have days : (-719162 ≤ i.seconds / 86400 ∧ i.seconds / 86400 ≤ 2932896) ↔
      -62135596800 ≤ i.seconds ∧ i.seconds < 253402300800 := by omega
  rw [← days, ← Date.year_iff, moment]
  generalize Date.ofDays (i.seconds / 86400) = date
  have top : maxYear = 2147485547 := rfl
  simp only [Bool.or_eq_true, decide_eq_true_eq]
  constructor
  · rintro ⟨m, made⟩
    split at made
    · cases made
    · split at made
      · cases made
      · omega
  · intro inside
    refine ⟨_, (if_neg ?_).trans (if_neg ?_)⟩ <;> omega

/-- **A time has a date** in the years from 1 to 9999. -/
lemma WallTime.exists_moment_iff (t : WallTime) : (∃ m, t.moment = .ok m) ↔ t.InYears := by
  rw [moment, InYears]
  cases t.instant with
  | error e =>
    refine iff_of_false (not_exists_error_eq_ok e) ?_
    rintro ⟨i, same, -⟩
    cases same
  | ok i =>
    refine (Instant.exists_moment_iff i).trans ⟨fun bounds => ⟨i, rfl, bounds⟩, ?_⟩
    rintro ⟨_, ⟨⟩, bounds⟩
    exact bounds

/-! ### Durations -/

/-- A quotient is rounded up from the middle between two whole numbers on, if the smaller of
them is odd. -/
lemma lt_roundDiv_iff {num half q : Nat} (pos : 0 < half) (odd : q % 2 = 1) :
    q < roundDiv num (2 * half) ↔ (2 * q + 1) * half ≤ num := by
  have split := Nat.div_add_mod num (2 * half)
  have rest : num % (2 * half) < 2 * half := Nat.mod_lt _ (by omega)
  simp only [roundDiv]
  generalize num / (2 * half) = w at split ⊢
  generalize num % (2 * half) = r at split rest ⊢
  have middle : (2 * q + 1) * half = 2 * half * q + half := by
    rw [Nat.add_mul, Nat.one_mul, Nat.mul_right_comm]
  rw [middle]
  rcases Nat.lt_trichotomy w q with below | rfl | above
  · have far : 2 * half * (w + 1) ≤ 2 * half * q := Nat.mul_le_mul_left _ below
    rw [Nat.mul_add, Nat.mul_one] at far
    split_ifs <;> omega
  · split_ifs <;> omega
  · have far : 2 * half * (q + 1) ≤ 2 * half * w := Nat.mul_le_mul_left _ above
    rw [Nat.mul_add, Nat.mul_one] at far
    split_ifs <;> omega

lemma roundDiv_le (num den : Nat) : roundDiv num den ≤ num / den + 1 := by
  simp only [roundDiv]
  split_ifs <;> omega

namespace Binary64

/-- The exponent of a whole number leaves it a mantissa of 53 bits. -/
lemma exponentFor_one {num : Nat} (nonzero : num ≠ 0) :
    exponentFor num 1 = (num.log2 : Int) - 52 := by
  have low : Nat.pow 2 num.log2 ≤ num := Nat.log2_self_le nonzero
  have enough : ¬(scaleDown num 1 ((num.log2 : Int) - 52)).1 <
      (scaleDown num 1 ((num.log2 : Int) - 52)).2 * Nat.pow 2 52 := by
    rw [Nat.not_lt, scaleDown]
    split
    · next large =>
      have parts : Nat.pow 2 num.log2 = Nat.pow 2 ((num.log2 : Int) - 52).toNat * Nat.pow 2 52 :=
        (congrArg (Nat.pow 2) (by omega)).trans (Nat.pow_add 2 _ _)
      rw [Nat.one_mul, ← parts]
      exact low
    · next small =>
      have parts : Nat.pow 2 52 = Nat.pow 2 num.log2 * Nat.pow 2 (-((num.log2 : Int) - 52)).toNat :=
        (congrArg (Nat.pow 2) (by omega)).trans (Nat.pow_add 2 _ _)
      rw [Nat.one_mul, parts]
      exact Nat.mul_le_mul_right _ low
  have zero : Nat.log2 1 = 0 := by decide
  simp only [exponentFor, zero, minExponent, Int.natCast_zero, Int.sub_zero, if_neg enough]
  omega

/-- The exponent of a whole number once its mantissa is rounded: one more than before if that
takes another bit. -/
def roundedExponent (num : Nat) : Int :=
  let e := (num.log2 : Int) - 52
  if roundDiv (scaleDown num 1 e).1 (scaleDown num 1 e).2 = Nat.pow 2 53 then e + 1 else e

/-- The middle between the largest multiple of `2 ^ (k + 1)` with a mantissa of 53 bits and the
power of two that follows. -/
def middle (k : Nat) : Nat :=
  (2 * (Nat.pow 2 53 - 1) + 1) * Nat.pow 2 k

lemma lt_roundedExponent_iff {num : Nat} (nonzero : num ≠ 0) (k : Nat) :
    (k : Int) + 1 < roundedExponent num ↔ middle k ≤ num := by
  have low : Nat.pow 2 num.log2 ≤ num := Nat.log2_self_le nonzero
  have high : num < Nat.pow 2 (num.log2 + 1) := Nat.lt_log2_self
  have bits : Nat.pow 2 53 = 9007199254740992 := rfl
  have up {a b : Nat} (le : a ≤ b) : Nat.pow 2 a ≤ Nat.pow 2 b :=
    Nat.pow_le_pow_right (by decide) le
  have positive : 0 < Nat.pow 2 k := Nat.two_pow_pos k
  have next : Nat.pow 2 (k + 1) = 2 * Nat.pow 2 k := Nat.pow_succ' (m := 2) (n := k)
  have whole : Nat.pow 2 (k + 53) = Nat.pow 2 53 * Nat.pow 2 k :=
    (Nat.pow_add 2 k 53).trans (Nat.mul_comm _ _)
  have twice : Nat.pow 2 (k + 54) = 2 * Nat.pow 2 (k + 53) :=
    Nat.pow_succ' (m := 2) (n := k + 53)
  rw [roundedExponent, middle]
  -- only between these two powers of two does the rounding decide
  rcases Nat.lt_trichotomy num.log2 (k + 53) with small | equal | large
  · have below := up (show num.log2 + 1 ≤ k + 53 from small)
    refine iff_of_false ?_ ?_
    · split <;> omega
    · rw [bits] at whole ⊢
      omega
  · have exponent : (num.log2 : Int) - 52 = (k + 1 : Nat) := by omega
    have fits : roundDiv num (2 * Nat.pow 2 k) ≤ Nat.pow 2 53 := by
      refine Nat.le_trans (roundDiv_le _ _) (Nat.div_lt_of_lt_mul ?_)
      rw [equal] at high
      change num < Nat.pow 2 (k + 54) at high
      rw [bits] at whole ⊢
      omega
    have rounded : Nat.pow 2 53 - 1 < roundDiv num (2 * Nat.pow 2 k) ↔
        (2 * (Nat.pow 2 53 - 1) + 1) * Nat.pow 2 k ≤ num := lt_roundDiv_iff positive rfl
    rw [exponent, scaleDown, if_pos (Int.natCast_nonneg _), Int.toNat_natCast, Nat.one_mul, next,
      ← rounded]
    dsimp only
    split <;> omega
  · have above := up (show k + 54 ≤ num.log2 from large)
    refine iff_of_true ?_ ?_
    · split <;> omega
    · rw [bits] at whole ⊢
      omega

lemma le_middle (k : Nat) : 2 * (Nat.pow 2 53 - 1) + 1 ≤ middle k :=
  Nat.le_mul_of_pos_right _ (Nat.two_pow_pos k)

lemma exists_ofRatio_one_iff {negative : Bool} {num : Nat} (nonzero : num ≠ 0) :
    (∃ negative', ofRatio negative num 1 = .inf negative') ↔
      maxExponent < roundedExponent num := by
  have infinite (m : Nat) (e : Int) : (∃ negative', (if maxExponent < e then inf negative
      else finite negative m e) = .inf negative') ↔ maxExponent < e := by
    split <;> simp [*]
  rw [ofRatio, if_neg nonzero, exponentFor_one nonzero, roundedExponent]
  by_cases carry : roundDiv (scaleDown num 1 ((num.log2 : Int) - 52)).1
      (scaleDown num 1 ((num.log2 : Int) - 52)).2 = Nat.pow 2 53
  · simp only [if_pos carry]
    exact infinite _ _
  · simp only [if_neg carry]
    exact infinite _ _

/-- The smallest whole number that is rounded to an infinity, `2 ^ 1024 - 2 ^ 970`. -/
def overflow : Nat := middle 970

/-- **The numbers end** where a whole number is nearer to the power of two behind them. -/
lemma exists_ofInt_iff {n : Int} :
    (∃ negative, ofInt n = .inf negative) ↔ overflow ≤ n.natAbs := by
  by_cases zero : n.natAbs = 0
  · have positive := le_middle 970
    rw [ofInt, ofRatio, if_pos zero, overflow]
    refine iff_of_false ?_ (by omega)
    rintro ⟨negative, same⟩
    cases same
  · rw [overflow, ← lt_roundedExponent_iff zero, ofInt, exists_ofRatio_one_iff zero]
    rfl

end Binary64

/-- The difference of two readings of the steady clock is in the range of floating-point
numbers. -/
def Capture.InRange (c : Capture) (clock : Clock) : Prop :=
  ∀ start ∈ c.startedAt, (clock.ticks - start).natAbs < Binary64.overflow

lemma Capture.exists_elapsedMs_iff (c : Capture) (clock : Clock) :
    (∃ ms, c.elapsedMs clock = .ok ms) ↔ c.InRange clock := by
  rw [elapsedMs, InRange]
  cases c.startedAt with
  | none => exact iff_of_true ⟨none, rfl⟩ fun start isStart => by cases isStart
  | some start =>
    simp only [Option.mem_some_iff, forall_eq']
    rw [← Nat.not_le, ← Binary64.exists_ofInt_iff, milliseconds]
    cases Binary64.ofInt (clock.ticks - start) with
    | inf negative =>
      exact iff_of_false (not_exists_error_eq_ok _) (not_not_intro ⟨negative, rfl⟩)
    | nan =>
      refine iff_of_true ⟨_, rfl⟩ ?_
      rintro ⟨negative, same⟩
      cases same
    | finite negative m e =>
      refine iff_of_true ⟨_, rfl⟩ ?_
      rintro ⟨negative, same⟩
      cases same

end AccessLog
