import ClangIndex.Json.Reader
import ClangIndex.Json.Writer
import ClangIndex.Proofs.RoundedRatios
import Mathlib.Data.List.TakeWhile
import Mathlib.Tactic.IntervalCases

namespace ClangIndex

open Number (Binary64)

namespace Json

def Digits (ds : List Char) : Prop := ∀ c ∈ ds, isDigit c = true

def DigitsEnd (s : List Char) : Prop := ∀ c ∈ s.head?, isDigit c = false

/-- Nothing comes next that would continue a number. -/
def NumberEnds (s : List Char) : Prop :=
  ∀ c ∈ s.head?, isDigit c = false ∧ c ≠ '.' ∧ c ≠ 'e' ∧ c ≠ 'E'

structure Whole (ds : List Char) : Prop where
  digits : Digits ds
  ne_nil : ds ≠ []
  first : ds = ['0'] ∨ ds.head? ≠ some '0'

section

variable {ds rest : List Char}

theorem NumberEnds.digitsEnd (h : NumberEnds rest) : DigitsEnd rest := fun c mem => (h c mem).1

theorem Digits.append {es : List Char} (h : Digits ds) (k : Digits es) : Digits (ds ++ es) :=
  List.forall_mem_append.mpr ⟨h, k⟩

theorem digits_zeros (n : ℕ) : Digits (Binary64.zeros n) := by
  intro c mem
  rw [List.eq_of_mem_replicate mem]
  rfl

theorem digits_toDigits (n : ℕ) : Digits (Nat.toDigits 10 n) := by
  intro c mem
  have digit := Nat.isDigit_of_mem_toDigits (by decide) (by decide) mem
  simpa [isDigit, Char.isDigit, Char.le_def] using digit

theorem takeWhile_digits (h : Digits ds) (k : DigitsEnd rest) :
    (ds ++ rest).takeWhile isDigit = ds := by
  rw [List.takeWhile_append_of_pos h]
  cases rest with
  | nil => simp
  | cons c r => simp [k c rfl]

theorem dropWhile_digits (h : Digits ds) (k : DigitsEnd rest) :
    (ds ++ rest).dropWhile isDigit = rest := by
  rw [List.dropWhile_append_of_pos h]
  cases rest with
  | nil => rfl
  | cons c r => simp [k c rfl]

theorem readWhole_append (h : Whole ds) (k : DigitsEnd rest) :
    readWhole (ds ++ rest) = (ds, rest) := by
  rcases h.first with rfl | first
  · rfl
  · obtain ⟨c, r, rfl⟩ := List.exists_cons_of_ne_nil h.ne_nil
    have other : c ≠ '0' := fun same => first (by rw [same]; rfl)
    have span : (((c :: r) ++ rest).takeWhile isDigit, ((c :: r) ++ rest).dropWhile isDigit) =
        (c :: r, rest) := by rw [takeWhile_digits h.digits k, dropWhile_digits h.digits k]
    simpa [readWhole, other] using span

end

section

variable (ds : List Char)

theorem digitsValue_eq : digitsValue ds = Nat.ofDigitChars 10 ds 0 := rfl

theorem digitsValue_toDigits (n : ℕ) : digitsValue (Nat.toDigits 10 n) = n :=
  Nat.ofDigitChars_ten_toDigits

theorem digitsValue_zeros_append (n : ℕ) :
    digitsValue (Binary64.zeros n ++ ds) = digitsValue ds := by
  simp only [digitsValue_eq, Binary64.zeros, Nat.ofDigitChars_append,
    Nat.ofDigitChars_replicate_zero, Nat.mul_zero]

theorem digitsValue_append_zeros (n : ℕ) :
    digitsValue (ds ++ Binary64.zeros n) = digitsValue ds * 10 ^ n := by
  simp only [digitsValue_eq, Binary64.zeros, Nat.ofDigitChars_append,
    Nat.ofDigitChars_replicate_zero, Nat.mul_comm]

end

theorem head_toDigits {n : ℕ} (pos : 0 < n) : (Nat.toDigits 10 n).head? ≠ some '0' := by
  induction n using Nat.strong_induction_on with
  | _ n ih =>
    by_cases small : n < 10
    · rw [Nat.toDigits_of_lt_base small]
      interval_cases n <;> decide
    · rw [Nat.toDigits_of_base_le (by decide) (by omega),
        List.head?_append_of_ne_nil _ Nat.toDigits_ne_nil]
      exact ih (n / 10) (by omega) (by omega)

theorem whole_toDigits (n : ℕ) : Whole (Nat.toDigits 10 n) where
  digits := digits_toDigits n
  ne_nil := Nat.toDigits_ne_nil
  first := by
    rcases n.eq_zero_or_pos with rfl | pos
    · exact .inl rfl
    · exact .inr (head_toDigits pos)

structure Decimal where
  whole : List Char
  fraction : List Char := []
  exponent : Option ℤ := none

namespace Decimal

def fractionText : List Char → List Char
  | [] => []
  | ds => '.' :: ds

theorem fractionText_of_ne_nil {ds : List Char} (h : ds ≠ []) : fractionText ds = '.' :: ds := by
  cases ds with
  | nil => exact absurd rfl h
  | cons => rfl

def exponentDigits (e : ℤ) : List Char :=
  Binary64.zeros (2 - (Nat.toDigits 10 e.natAbs).length) ++ Nat.toDigits 10 e.natAbs

def exponentText : Option ℤ → List Char
  | none => []
  | some e => 'e' :: (if e < 0 then '-' else '+') :: exponentDigits e

def text (d : Decimal) : List Char :=
  d.whole ++ fractionText d.fraction ++ exponentText d.exponent

def digits (d : Decimal) : ℕ := digitsValue (d.whole ++ d.fraction)

def power (d : Decimal) : ℤ := d.exponent.getD 0 - d.fraction.length

structure IsWritten (d : Decimal) : Prop where
  whole : Whole d.whole
  fraction : Digits d.fraction

def IsFloat (d : Decimal) : Prop := d.fraction ≠ [] ∨ d.exponent ≠ none

section

variable {ds rest : List Char} {e : ℤ}

theorem readFraction_append (h : Digits ds) (k : DigitsEnd rest) (point : rest.head? ≠ some '.') :
    (readFraction (fractionText ds ++ rest)).getD ([], fractionText ds ++ rest) = (ds, rest) := by
  cases ds with
  | nil =>
    cases rest with
    | nil => rfl
    | cons c r =>
      have other : c ≠ '.' := fun same => point (by rw [same]; rfl)
      simp [fractionText, readFraction, other]
  | cons c r =>
    have first : isDigit c = true := h c List.mem_cons_self
    have whole := takeWhile_digits h k
    have left := dropWhile_digits h k
    simp only [List.cons_append] at whole left
    simp [fractionText, readFraction, whole, left]

theorem readExponent_none (h : NumberEnds rest) : readExponent rest = none := by
  cases rest with
  | nil => rfl
  | cons c r =>
    obtain ⟨-, -, small, large⟩ := h c rfl
    simp [readExponent, small, large]

theorem digits_exponentDigits (e : ℤ) : Digits (exponentDigits e) :=
  (digits_zeros _).append (digits_toDigits _)

theorem readExponent_some (h : DigitsEnd rest) :
    readExponent (exponentText (some e) ++ rest) = some (e, rest) := by
  have digits := digits_exponentDigits e
  have taken := takeWhile_digits digits h
  have left := dropWhile_digits digits h
  have value : digitsValue (exponentDigits e) = e.natAbs := by
    rw [exponentDigits, digitsValue_zeros_append, digitsValue_toDigits]
  have nonempty : exponentDigits e ≠ [] := by simp [exponentDigits, Nat.toDigits_ne_nil]
  by_cases negative : e < 0
  · simp [exponentText, readExponent, negative, taken, left, value, nonempty, abs_of_neg negative]
  · simp [exponentText, readExponent, negative, taken, left, value, nonempty,
      abs_of_nonneg (not_lt.mp negative)]

theorem exponentText_ends (k : NumberEnds rest) (e : Option ℤ) :
    DigitsEnd (exponentText e ++ rest) ∧ (exponentText e ++ rest).head? ≠ some '.' := by
  cases e with
  | none => exact ⟨k.digitsEnd, fun point => (k '.' point).2.1 rfl⟩
  | some e => exact ⟨fun c first => by cases first; rfl, nofun⟩

theorem fractionText_ends (k : DigitsEnd rest) (ds : List Char) :
    DigitsEnd (fractionText ds ++ rest) := by
  cases ds with
  | nil => exact k
  | cons => exact fun c first => by cases first; rfl

theorem readExponent_append (k : NumberEnds rest) (e : Option ℤ) :
    readExponent (exponentText e ++ rest) = e.map (·, rest) := by
  cases e with
  | none => exact readExponent_none k
  | some e => exact readExponent_some k.digitsEnd

theorem readUnsigned_append {d : Decimal} (h : d.IsWritten) (k : NumberEnds rest)
    (negative : Bool) : readUnsigned negative (d.text ++ rest) =
      if d.fraction = [] ∧ d.exponent = none then
        some (.int (if negative then -digitsValue d.whole else digitsValue d.whole), rest)
      else some (.float (.ofDecimal negative d.digits d.power), rest) := by
  obtain ⟨ended, unpointed⟩ := exponentText_ends k d.exponent
  have whole := readWhole_append h.whole (fractionText_ends ended d.fraction)
  have fraction := readFraction_append h.fraction ended unpointed
  have exponent := readExponent_append k d.exponent
  have ne_nil : d.whole.isEmpty = false := by simpa using h.whole.ne_nil
  simp only [readUnsigned, text, List.append_assoc, whole, fraction, exponent, ne_nil]
  obtain ⟨w, fs, e⟩ := d
  cases e with
  | none => cases fs <;> simp [digits, power, exponentText]
  | some e => simp [digits, power]

end

end Decimal

/-- The digits of a positive number, without the zeros at its end. -/
structure Stripped (n : ℕ) (ds : List Char) (zeros : ℕ) : Prop where
  all : Nat.toDigits 10 n = ds ++ Binary64.zeros zeros
  value : n = digitsValue ds * 10 ^ zeros
  digits : Digits ds
  ne_nil : ds ≠ []
  first : ds.head? ≠ some '0'

theorem exists_stripped {n : ℕ} (pos : 0 < n) :
    ∃ zeros, Stripped n ((Nat.toDigits 10 n).reverse.dropWhile (· = '0')).reverse zeros := by
  obtain ⟨zeros, taken⟩ : ∃ zeros,
      (Nat.toDigits 10 n).reverse.takeWhile (· = '0') = List.replicate zeros '0' :=
    ⟨_, List.eq_replicate_of_mem fun c mem => by simpa using List.mem_takeWhile_imp mem⟩
  have halves := List.takeWhile_append_dropWhile (p := (· = '0')) (l := (Nat.toDigits 10 n).reverse)
  generalize (Nat.toDigits 10 n).reverse.dropWhile (· = '0') = left at halves ⊢
  have all : Nat.toDigits 10 n = left.reverse ++ Binary64.zeros zeros := by
    rw [← List.reverse_reverse (Nat.toDigits 10 n), ← halves, taken, List.reverse_append,
      List.reverse_replicate]
    rfl
  have value := digitsValue_toDigits n
  rw [all, digitsValue_append_zeros] at value
  have ne_nil : left.reverse ≠ [] := by
    intro none
    rw [none, digitsValue, List.foldl_nil, Nat.zero_mul] at value
    exact pos.ne value
  refine ⟨_, all, value.symm, fun c mem => digits_toDigits n c ?_, ne_nil, ?_⟩
  · rw [all]
    exact List.mem_append_left _ mem
  · have first := head_toDigits pos
    rwa [all, List.head?_append_of_ne_nil _ ne_nil] at first

/-- A text that is read as digits at a power of ten. -/
def Shows (n : ℕ) (power : ℤ) (s : List Char) : Prop :=
  ∃ d : Decimal, d.text = s ∧ d.IsWritten ∧ d.IsFloat ∧
    ∀ negative, Binary64.ofDecimal negative d.digits d.power = Binary64.ofDecimal negative n power

section

variable {n zeros : ℕ} {ds : List Char} {power : ℤ}

theorem Stripped.pos (h : Stripped n ds zeros) (pos : 0 < n) : 0 < digitsValue ds :=
  Nat.pos_of_mul_pos_right (h.value ▸ pos)

theorem Stripped.shows (h : Stripped n ds zeros) (pos : 0 < n) (d : Decimal) (k : ℕ)
    (written : d.IsWritten) (float : d.IsFloat) (digits : d.digits = digitsValue ds * 10 ^ k)
    (place : d.power + k = power + zeros) : Shows n power d.text := by
  refine ⟨d, rfl, written, float, fun negative => ?_⟩
  calc Binary64.ofDecimal negative d.digits d.power
      = .ofDecimal negative (digitsValue ds * 10 ^ k) d.power := by rw [digits]
    _ = .ofDecimal negative (digitsValue ds * 10 ^ zeros) power := by
        rw [Binary64.ofDecimal_shift _ (h.pos pos), place, Binary64.ofDecimal_shift _ (h.pos pos)]
    _ = .ofDecimal negative n power := by rw [← h.value]

theorem Stripped.whole_take (h : Stripped n ds zeros) {k : ℕ} (pos : 0 < k) :
    Whole (ds.take k) where
  digits c mem := h.digits c (List.mem_of_mem_take mem)
  ne_nil := by simp [h.ne_nil, pos.ne']
  first := by
    rw [List.head?_take, if_neg pos.ne']
    exact .inr h.first

theorem Stripped.whole_append (h : Stripped n ds zeros) (k : ℕ) :
    Whole (ds ++ Binary64.zeros k) where
  digits := h.digits.append (digits_zeros k)
  ne_nil := by simp [h.ne_nil]
  first := .inr (by rw [List.head?_append_of_ne_nil _ h.ne_nil]; exact h.first)

theorem Stripped.shows_below (h : Stripped n ds zeros) (pos : 0 < n) {k : ℕ}
    (place : power + (ds.length + zeros) = -k) :
    Shows n power ('0' :: '.' :: Binary64.zeros k ++ ds) := by
  have shown : Shows n power _ := h.shows pos
    { whole := ['0'], fraction := Binary64.zeros k ++ ds } 0
    ⟨⟨by simp [Digits, isDigit], nofun, .inl rfl⟩, (digits_zeros k).append h.digits⟩
    (.inl (by simp [h.ne_nil]))
    (by
      rw [Decimal.digits, pow_zero, mul_one, ← digitsValue_zeros_append ds k]
      exact digitsValue_zeros_append _ 1)
    (by simp [Decimal.power, Binary64.zeros]; omega)
  simpa [Decimal.text, Decimal.fractionText_of_ne_nil, h.ne_nil, Decimal.exponentText] using shown

theorem Stripped.shows_padded (h : Stripped n ds zeros) (pos : 0 < n) {k : ℕ}
    (place : power + zeros = k) : Shows n power (ds ++ Binary64.zeros k ++ ['.', '0']) := by
  have shown : Shows n power _ := h.shows pos
    { whole := ds ++ Binary64.zeros k, fraction := ['0'] } (k + 1)
    ⟨h.whole_append k, by simp [Digits, isDigit]⟩ (.inl nofun)
    (by
      have zero : ['0'] = Binary64.zeros 1 := rfl
      rw [Decimal.digits, zero, digitsValue_append_zeros, digitsValue_append_zeros, mul_assoc,
        ← pow_add])
    (by simp [Decimal.power]; omega)
  simpa [Decimal.text, Decimal.fractionText, Decimal.exponentText] using shown

theorem Stripped.shows_split (h : Stripped n ds zeros) (pos : 0 < n) {k : ℕ} (some_digit : 0 < k)
    (within : k ≤ ds.length) (e : Option ℤ) (float : k < ds.length ∨ e ≠ none)
    (place : e.getD 0 + k = power + (ds.length + zeros)) :
    Shows n power (ds.take k ++ Decimal.fractionText (ds.drop k) ++ Decimal.exponentText e) := by
  refine h.shows pos { whole := ds.take k, fraction := ds.drop k, exponent := e } 0
    ⟨h.whole_take some_digit, fun c mem => h.digits c (List.mem_of_mem_drop mem)⟩
    (float.imp_left fun lt => ?_) ?_ ?_
  · simpa using lt
  · simp [Decimal.digits]
  · simp [Decimal.power]
    omega

theorem shows_decimalText (pos : 0 < n) (power : ℤ) :
    Shows n power (Binary64.decimalText n power) := by
  obtain ⟨zeros, h⟩ := exists_stripped pos
  have length := congrArg List.length h.all
  have some_digit := List.length_pos_of_ne_nil h.ne_nil
  unfold Binary64.decimalText
  dsimp only
  generalize ((Nat.toDigits 10 n).reverse.dropWhile (· = '0')).reverse = ds at *
  simp only [List.length_append, Binary64.zeros, List.length_replicate] at length
  rw [length]
  split
  case isTrue positional =>
    split
    case isTrue below => exact h.shows_below pos (by omega)
    case isFalse above =>
      split
      case isTrue long => exact h.shows_padded pos (by omega)
      case isFalse inside =>
        have shown : Shows n power _ := h.shows_split pos
          (k := (power + (ds.length + zeros : ℕ)).toNat) (by omega) (by omega) none
          (.inl (by omega)) (by simp; omega)
        have ne_nil : ds.drop (power + (ds.length + zeros : ℕ)).toNat ≠ [] := by simp; omega
        rw [Decimal.fractionText_of_ne_nil ne_nil] at shown
        simpa [Decimal.exponentText] using shown
  case isFalse =>
    have shown : Shows n power _ := h.shows_split pos Nat.one_pos some_digit
      (some (power + (ds.length + zeros : ℕ) - 1)) (.inr nofun) (by simp)
    obtain ⟨c, r, rfl⟩ := List.exists_cons_of_ne_nil h.ne_nil
    cases r <;>
      simpa [Decimal.fractionText, Decimal.exponentText,
        Decimal.exponentDigits] using shown

end

/-- A text that is read as a value, whatever comes after it that does not continue a number. -/
def Reads (s : List Char) (v : Json) : Prop :=
  ∀ fuel rest, s.length ≤ fuel → NumberEnds rest → readValue fuel (s ++ rest) = some (v, rest)

theorem Reads.of_word {c : Char} {s : List Char} {v : Json}
    (h : ∀ fuel rest, readValue (fuel + 1) (c :: s ++ rest) = some (v, rest)) :
    Reads (c :: s) v := by
  intro fuel rest room _
  cases fuel with
  | zero => simp at room
  | succ fuel => exact h fuel rest

theorem readValue_digit {c : Char} (digit : isDigit c = true) (fuel : ℕ) (r : List Char) :
    readValue (fuel + 1) (c :: r) = readUnsigned false (c :: r) ∧
      readValue (fuel + 1) ('-' :: c :: r) = readUnsigned true (c :: r) := by
  have other (x : Char) (h : isDigit x = false) : c ≠ x := fun same => by
    rw [same, h] at digit
    cases digit
  have solid : isSpace c = false := by
    simp [isSpace, other ' ' rfl, other '\t' rfl, other '\n' rfl, other '\r' rfl]
  constructor
  · have here : skipSpace (c :: r) = c :: r := by simp [skipSpace, solid]
    rw [readValue, here]
    -- All that a value can begin with but a number, is no digit.
    split
    all_goals first | rfl | (rename_i same; cases same; cases digit)
  · have here : skipSpace ('-' :: c :: r) = '-' :: c :: r := rfl
    rw [readValue, here]
    -- Only three cases begin with a sign: the word for infinity, a number, and the last one.
    split
    all_goals try (rename_i same; cases same)
    · cases digit
    · rfl
    · rename_i sign
      exact absurd rfl (sign (c :: r))

theorem Decimal.IsWritten.readValue_text {d : Decimal} (h : d.IsWritten) (fuel : ℕ)
    (rest : List Char) :
    readValue (fuel + 1) (d.text ++ rest) = readUnsigned false (d.text ++ rest) ∧
      readValue (fuel + 1) ('-' :: (d.text ++ rest)) = readUnsigned true (d.text ++ rest) := by
  obtain ⟨c, r, whole⟩ := List.exists_cons_of_ne_nil h.whole.ne_nil
  have digit : isDigit c = true := h.whole.digits c (by simp [whole])
  simp only [text, whole, List.cons_append]
  exact readValue_digit digit fuel _

theorem Decimal.IsWritten.reads {d : Decimal} (h : d.IsWritten) {v : Bool → Json}
    (read : ∀ negative rest, NumberEnds rest →
      readUnsigned negative (d.text ++ rest) = some (v negative, rest)) (negative : Bool) :
    Reads (if negative then '-' :: d.text else d.text) (v negative) := by
  intro fuel rest room ends
  have some_char : 0 < (if negative then '-' :: d.text else d.text).length := by
    cases negative with
    | false =>
      have some_digit := List.length_pos_of_ne_nil h.whole.ne_nil
      simp only [Bool.false_eq_true, if_false, text, List.length_append]
      omega
    | true => exact Nat.succ_pos _
  obtain ⟨fuel, rfl⟩ : ∃ n, fuel = n + 1 := ⟨fuel - 1, by omega⟩
  obtain ⟨plain, signed⟩ := h.readValue_text fuel rest
  cases negative with
  | false => exact plain.trans (read false rest ends)
  | true => exact signed.trans (read true rest ends)

theorem reads_intChars (n : ℤ) : Reads (intChars n) (.int n) := by
  have written : Decimal.IsWritten { whole := Nat.toDigits 10 n.natAbs } :=
    ⟨whole_toDigits _, List.forall_mem_nil _⟩
  have text : Decimal.text { whole := Nat.toDigits 10 n.natAbs } = Nat.toDigits 10 n.natAbs := by
    simp [Decimal.text, Decimal.fractionText, Decimal.exponentText]
  have reads := written.reads
    (v := fun negative => .int (if negative then -n.natAbs else n.natAbs))
    (fun negative rest ends => by
      rw [Decimal.readUnsigned_append written ends, if_pos ⟨rfl, rfl⟩]
      simp [digitsValue_toDigits])
    (n < 0)
  simp only [text, decide_eq_true_eq] at reads
  have value : (if n < 0 then -(n.natAbs : ℤ) else n.natAbs) = n := by
    split <;> omega
  rwa [value] at reads

theorem Shows.reads {n : ℕ} {power : ℤ} {s : List Char} (h : Shows n power s) (negative : Bool) :
    Reads (if negative then '-' :: s else s) (.float (.ofDecimal negative n power)) := by
  obtain ⟨d, rfl, written, float, value⟩ := h
  refine written.reads (v := fun negative => .float (.ofDecimal negative n power)) ?_ negative
  intro negative rest ends
  have no_integer : ¬(d.fraction = [] ∧ d.exponent = none) := fun ⟨unpointed, plain⟩ =>
    float.elim (· unpointed) (· plain)
  rw [Decimal.readUnsigned_append written ends, if_neg no_integer, value]

theorem shows_zero : Shows 0 0 ['0', '.', '0'] :=
  ⟨{ whole := ['0'], fraction := ['0'] }, rfl,
    ⟨⟨by simp [Digits, isDigit], nofun, .inl rfl⟩, by simp [Digits, isDigit]⟩, .inl nofun,
    fun _ => rfl⟩

theorem reads_floatChars {x : Binary64} (h : x.IsProper) : Reads (floatChars x) (.float x) := by
  cases x with
  | nan => exact .of_word fun _ _ => rfl
  | infinite negative =>
    cases negative with
    | false => exact .of_word fun _ _ => rfl
    | true => exact .of_word fun _ _ => rfl
  | finite negative m e =>
    have fits : Binary64.Fits m e := h
    by_cases zero : m = 0
    · have least : e = Binary64.leastExponent := fits.full.resolve_left (by omega)
      have reads := shows_zero.reads negative
      subst zero least
      exact reads
    · have pos : 0 < m := Nat.pos_of_ne_zero zero
      obtain ⟨digits, back⟩ := Binary64.ofDecimal_shortest negative fits pos
      have reads := (shows_decimalText digits (Binary64.shortest m e).2).reads negative
      rw [back] at reads
      simpa [floatChars, Binary64.text, zero] using reads

end Json

end ClangIndex
