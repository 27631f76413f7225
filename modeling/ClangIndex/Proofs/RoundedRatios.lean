import ClangIndex.Number.Binary64
import Mathlib.Algebra.Order.Field.Power
import Mathlib.Algebra.Order.Floor.Semifield
import Mathlib.Data.Int.Log
import Mathlib.Data.Rat.Floor
import Mathlib.Tactic.FieldSimp
import Mathlib.Tactic.Linarith
import Mathlib.Tactic.NormNum
import Mathlib.Tactic.Positivity

/-!
Rounding to binary numbers, as a function of the rational number that is rounded. What a ratio or a
decimal number is rounded to depends on its value alone, and binary numbers stay as they are. So the
digits by which a number is shown read back, in whatever way they are written.
-/

namespace ClangIndex.Number.Binary64

/-- The mantissas and exponents of finite numbers: 53 bits, and fewer only at the least exponent. -/
structure Fits (m : ℕ) (e : ℤ) : Prop where
  lt : m < 2 ^ 53
  full : 2 ^ 52 ≤ m ∨ e = leastExponent
  least : leastExponent ≤ e
  greatest : e ≤ greatestExponent

def IsProper : Binary64 → Prop
  | .finite _ m e => Fits m e
  | _ => True

def nearest (x : ℚ) : ℕ :=
  if Int.fract x < 1 / 2 then ⌊x⌋₊ else if 1 / 2 < Int.fract x then ⌊x⌋₊ + 1 else ⌊x⌋₊ + ⌊x⌋₊ % 2

def exponentOf (x : ℚ) : ℤ := max (Int.log 2 x - 52) leastExponent

def rounded (negative : Bool) (x : ℚ) : Binary64 :=
  bounded negative (carry (nearest (x / 2 ^ exponentOf x)) (exponentOf x))

theorem nearest_natCast (m : ℕ) : nearest m = m := by simp [nearest]

theorem nearest_of_lt_half {x : ℚ} (pos : 0 ≤ x) (lt : x < 1 / 2) : nearest x = 0 := by
  have fract : Int.fract x = x := Int.fract_eq_self.mpr ⟨pos, by linarith⟩
  rw [nearest, fract, if_pos lt, Nat.floor_eq_zero.mpr (by linarith)]

theorem roundQuotient_eq (n : ℕ) {d : ℕ} (pos : 0 < d) : roundQuotient n d = nearest (n / d) := by
  have q : (0 : ℚ) < d := by exact_mod_cast pos
  have below : Int.fract ((n : ℚ) / d) < 1 / 2 ↔ 2 * (n % d) < d := by
    rw [Int.fract_div_natCast_eq_div_natCast_mod, div_lt_div_iff₀ q two_pos, one_mul, mul_comm]
    exact_mod_cast Iff.rfl
  have above : 1 / 2 < Int.fract ((n : ℚ) / d) ↔ d < 2 * (n % d) := by
    rw [Int.fract_div_natCast_eq_div_natCast_mod, div_lt_div_iff₀ two_pos q, one_mul,
      mul_comm _ (2 : ℚ)]
    exact_mod_cast Iff.rfl
  simp only [nearest, roundQuotient, below, above, Nat.floor_div_eq_div]

section

variable {num den : ℕ} (e : ℤ)

theorem scaled_pos (pos : 0 < den) : 0 < (scaled num den e).2 := by
  unfold scaled
  split
  · exact Nat.mul_pos pos (Nat.two_pow_pos _)
  · exact pos

theorem scaled_div :
    ((scaled num den e).1 : ℚ) / (scaled num den e).2 = num / den / 2 ^ e := by
  unfold scaled
  split
  case isTrue h =>
    lift e to ℕ using h
    simp [div_div]
  case isFalse h =>
    obtain ⟨k, rfl⟩ : ∃ k : ℕ, e = -k := ⟨(-e).toNat, by omega⟩
    rw [neg_neg, Int.toNat_natCast, Nat.pow_eq, Nat.cast_mul, Nat.cast_pow, Nat.cast_ofNat,
      zpow_neg, zpow_natCast, div_inv_eq_mul, mul_div_right_comm]

end

section

variable {num den : ℕ} (hn : 0 < num) (hd : 0 < den)

include hn hd

theorem ratio_pos : (0 : ℚ) < num / den := by positivity

theorem log_bounds :
    (num.log2 : ℤ) - den.log2 - 1 ≤ Int.log 2 ((num : ℚ) / den) ∧
      Int.log 2 ((num : ℚ) / den) < (num.log2 : ℤ) - den.log2 + 1 := by
  have x := ratio_pos hn hd
  have q : (0 : ℚ) < den := by exact_mod_cast hd
  have num_ge : (2 : ℚ) ^ (num.log2 : ℤ) ≤ num := by exact_mod_cast Nat.log2_self_le hn.ne'
  have num_lt : (num : ℚ) < 2 ^ (num.log2 + 1 : ℤ) := by exact_mod_cast Nat.lt_log2_self
  have den_ge : (2 : ℚ) ^ (den.log2 : ℤ) ≤ den := by exact_mod_cast Nat.log2_self_le hd.ne'
  have den_lt : (den : ℚ) < 2 ^ (den.log2 + 1 : ℤ) := by exact_mod_cast Nat.lt_log2_self
  constructor
  · rw [← Int.zpow_le_iff_le_log Nat.one_lt_two x, le_div_iff₀ q]
    calc ((2 : ℕ) : ℚ) ^ ((num.log2 : ℤ) - den.log2 - 1) * den
        ≤ 2 ^ ((num.log2 : ℤ) - den.log2 - 1) * 2 ^ (den.log2 + 1 : ℤ) := by
          push_cast; gcongr
      _ = 2 ^ (num.log2 : ℤ) := by rw [← zpow_add₀ two_ne_zero]; congr 1; ring
      _ ≤ num := num_ge
  · rw [← Int.lt_zpow_iff_log_lt Nat.one_lt_two x, div_lt_iff₀ q]
    calc (num : ℚ) < 2 ^ (num.log2 + 1 : ℤ) := num_lt
      _ = 2 ^ ((num.log2 : ℤ) - den.log2 + 1) * 2 ^ (den.log2 : ℤ) := by
          rw [← zpow_add₀ two_ne_zero]; congr 1; ring
      _ ≤ ((2 : ℕ) : ℚ) ^ ((num.log2 : ℤ) - den.log2 + 1) * den := by push_cast; gcongr

theorem scaled_lt_iff (e : ℤ) (k : ℕ) :
    (scaled num den e).1 < (scaled num den e).2 * Nat.pow 2 k ↔
      Int.log 2 ((num : ℚ) / den) < e + k := by
  have q : (0 : ℚ) < (scaled num den e).2 := by exact_mod_cast scaled_pos e hd
  have p : (0 : ℚ) < 2 ^ e := by positivity
  rw [← Int.lt_zpow_iff_log_lt Nat.one_lt_two (ratio_pos hn hd), Nat.cast_ofNat,
    zpow_add₀ two_ne_zero, ← div_lt_iff₀' p, ← scaled_div e, div_lt_iff₀' q, zpow_natCast]
  exact_mod_cast Iff.rfl

theorem exponent_eq : exponent num den = exponentOf (num / den) := by
  obtain ⟨low, high⟩ := log_bounds hn hd
  simp only [exponent, exponentOf, scaled_lt_iff hn hd]
  congr 1
  split <;> omega

theorem ofRatio_eq (negative : Bool) : ofRatio negative num den = rounded negative (num / den) := by
  simp only [ofRatio, rounded, exponent_eq hn hd]
  rw [if_neg (by omega), roundQuotient_eq _ (scaled_pos _ hd), scaled_div]

end

variable {m : ℕ} {e : ℤ} (negative : Bool)

theorem rounded_of_fits (h : Fits m e) (pos : 0 < m) :
    rounded negative (m * 2 ^ e) = .finite negative m e := by
  have p : (0 : ℚ) < 2 ^ e := by positivity
  have x : (0 : ℚ) < m * 2 ^ e := by positivity
  have below : Int.log 2 ((m : ℚ) * 2 ^ e) < 53 + e := by
    rw [← Int.lt_zpow_iff_log_lt Nat.one_lt_two x, Nat.cast_ofNat, zpow_add₀ two_ne_zero,
      mul_lt_mul_iff_left₀ p]
    exact_mod_cast h.lt
  have above : 2 ^ 52 ≤ m → 52 + e ≤ Int.log 2 ((m : ℚ) * 2 ^ e) := by
    intro full
    rw [← Int.zpow_le_iff_le_log Nat.one_lt_two x, Nat.cast_ofNat, zpow_add₀ two_ne_zero,
      mul_le_mul_iff_left₀ p]
    exact_mod_cast full
  have exponent : exponentOf ((m : ℚ) * 2 ^ e) = e := by
    have := h.least
    rcases h.full with full | rfl
    · have := above full
      simp only [exponentOf]
      omega
    · simp only [exponentOf]
      omega
  have lt := h.lt
  rw [rounded, exponent, mul_div_cancel_right₀ _ p.ne', nearest_natCast, carry, Nat.pow_eq,
    if_neg (by omega), bounded, if_neg (not_lt.mpr h.greatest)]

theorem rounded_of_ge {x : ℚ} (ge : 2 ^ (1024 : ℤ) ≤ x) :
    rounded negative x = .infinite negative := by
  have pos : 0 < x := lt_of_lt_of_le (by positivity) ge
  have log : 1024 ≤ Int.log 2 x := (Int.zpow_le_iff_le_log Nat.one_lt_two pos).mp ge
  have exponent : 972 ≤ exponentOf x := le_max_of_le_left (by omega)
  refine if_pos ?_
  unfold carry
  split <;> simp only [greatestExponent] <;> omega

theorem rounded_of_lt {x : ℚ} (pos : 0 < x) (lt : x < 2 ^ (leastExponent - 1)) :
    rounded negative x = zero negative := by
  have log : Int.log 2 x < leastExponent - 1 := (Int.lt_zpow_iff_log_lt Nat.one_lt_two pos).mp lt
  have exponent : exponentOf x = leastExponent := max_eq_right (by omega)
  have p : (0 : ℚ) < 2 ^ leastExponent := by positivity
  have small : x / 2 ^ leastExponent < 1 / 2 := by
    rw [div_lt_iff₀ p]
    exact lt.trans_eq (by rw [zpow_sub_one₀ two_ne_zero]; ring)
  rw [rounded, exponent, nearest_of_lt_half (by positivity) small]
  rfl

theorem two_zpow_le_ten_pow (k : ℕ) : (2 : ℚ) ^ (3 * k : ℤ) ≤ 10 ^ k := by
  rw [zpow_mul, zpow_natCast]
  gcongr
  norm_num

theorem ofDecimal_eq {digits : ℕ} (pos : 0 < digits) (power : ℤ) :
    ofDecimal negative digits power = rounded negative (digits * 10 ^ power) := by
  have q : (0 : ℚ) < digits := by exact_mod_cast pos
  have one_le : (1 : ℚ) ≤ digits := by exact_mod_cast pos
  have ten (k : ℕ) : 0 < Nat.pow 10 k := Nat.pow_pos (by decide)
  unfold ofDecimal
  rw [if_neg pos.ne']
  split
  case isTrue h =>
    lift power to ℕ using h
    rw [Int.toNat_natCast, zpow_natCast]
    split
    case isTrue large =>
      refine (rounded_of_ge negative ?_).symm
      calc (2 : ℚ) ^ (1024 : ℤ) ≤ 2 ^ (3 * power : ℤ) := zpow_le_zpow_right₀ one_le_two (by omega)
        _ ≤ 10 ^ power := two_zpow_le_ten_pow power
        _ ≤ digits * 10 ^ power := le_mul_of_one_le_left (by positivity) one_le
    case isFalse =>
      rw [ofRatio_eq (Nat.mul_pos pos (ten power)) one_pos]
      simp
  case isFalse h =>
    obtain ⟨k, rfl⟩ : ∃ k : ℕ, power = -k := ⟨(-power).toNat, by omega⟩
    rw [neg_neg, Int.toNat_natCast, zpow_neg, zpow_natCast, ← div_eq_mul_inv]
    split
    case isTrue small =>
      refine (rounded_of_lt negative (by positivity) ?_).symm
      have lt : (digits : ℚ) < 2 ^ (digits.log2 + 1 : ℤ) := by exact_mod_cast Nat.lt_log2_self
      calc (digits : ℚ) / 10 ^ k < 2 ^ (digits.log2 + 1 : ℤ) / 10 ^ k := by gcongr
        _ ≤ 2 ^ (digits.log2 + 1 : ℤ) / 2 ^ (3 * k : ℤ) := by
          gcongr
          exact two_zpow_le_ten_pow k
        _ = 2 ^ (digits.log2 + 1 - 3 * k : ℤ) := (zpow_sub₀ two_ne_zero _ _).symm
        _ ≤ 2 ^ (leastExponent - 1) :=
          zpow_le_zpow_right₀ one_le_two (by simp only [leastExponent]; omega)
    case isFalse =>
      rw [ofRatio_eq pos (ten k)]
      simp

theorem ofDecimal_shift {digits : ℕ} (pos : 0 < digits) (k : ℕ) (power : ℤ) :
    ofDecimal negative (digits * 10 ^ k) power = ofDecimal negative digits (power + k) := by
  rw [ofDecimal_eq _ pos, ofDecimal_eq _ (Nat.mul_pos pos (Nat.pow_pos (by decide))),
    zpow_add₀ (by norm_num)]
  congr 1
  push_cast
  rw [zpow_natCast]
  ring

theorem pos_of_ofDecimal {digits : ℕ} {power : ℤ} (pos : 0 < m)
    (h : ofDecimal negative digits power = .finite negative m e) : 0 < digits := by
  refine Nat.pos_of_ne_zero fun none => ?_
  rw [none, ofDecimal, if_pos rfl, zero, finite.injEq] at h
  omega

theorem ofDecimal_sign {digits : ℕ} {power : ℤ} (pos : 0 < digits)
    (h : ofDecimal false digits power = .finite false m e) :
    ofDecimal negative digits power = .finite negative m e := by
  rw [ofDecimal_eq _ pos, rounded, bounded] at h ⊢
  split at h
  · cases h
  · rename_i finite
    rw [if_neg finite]
    cases h
    rfl

theorem ofDecimal_of_neighbour {above : ℤ} {n digits : ℕ} {power : ℤ}
    (h : neighbour? m e above n = some (digits, power)) :
    ofDecimal false digits power = .finite false m e := by
  unfold neighbour? at h
  dsimp only at h
  generalize (if 0 ≤ above - n then _ else _ : ℕ × ℕ) = p at h
  simp only [Bool.and_eq_true, decide_eq_true_eq] at h
  split at h
  case isTrue low =>
    cases h
    exact low.1
  case isFalse =>
    split at h
    case isTrue high =>
      cases h
      exact high
    case isFalse => cases h

theorem ofDecimal_shortest (h : Fits m e) (pos : 0 < m) :
    0 < (shortest m e).1 ∧
      ofDecimal negative (shortest m e).1 (shortest m e).2 = .finite negative m e := by
  unfold shortest
  dsimp only
  split
  case h_1 d found =>
    obtain ⟨n, -, near⟩ := List.exists_of_findSome?_eq_some found
    have back := ofDecimal_of_neighbour near
    have digits := pos_of_ofDecimal false pos back
    exact ⟨digits, ofDecimal_sign negative digits back⟩
  case h_2 =>
    have exact := rounded_of_fits negative h pos
    split
    case isTrue whole =>
      lift e to ℕ using whole
      have digits : 0 < (ratio m e).1 := by simp [ratio, pos]
      refine ⟨digits, ?_⟩
      rw [ofDecimal_eq _ digits, ← exact]
      simp [ratio]
    case isFalse below =>
      obtain ⟨k, rfl⟩ : ∃ k : ℕ, e = -k := ⟨(-e).toNat, by omega⟩
      have digits : 0 < m * Nat.pow 5 (- -(k : ℤ)).toNat :=
        Nat.mul_pos pos (Nat.pow_pos (by decide))
      refine ⟨digits, ?_⟩
      rw [ofDecimal_eq _ digits, ← exact]
      congr 1
      simp only [neg_neg, Int.toNat_natCast, Nat.pow_eq, zpow_neg, zpow_natCast]
      push_cast
      rw [show (10 : ℚ) = 5 * 2 by norm_num, mul_pow]
      field_simp

end ClangIndex.Number.Binary64
