import ClangIndex.Proofs.WrittenNumbers

namespace ClangIndex.Text.Hex

theorem digits_succ {width n : ℕ} (pos : 0 < width) :
    digits (width + 1) n = digits width (n / 16) ++ [Nat.digitChar (n % 16)] := by
  by_cases small : n < 16
  · have none : n / 16 = 0 := by omega
    have rest : n % 16 = n := by omega
    obtain ⟨w, rfl⟩ : ∃ w, width = w + 1 := ⟨width - 1, by omega⟩
    simp [digits, Nat.toDigits_of_lt_base small, none, rest, List.replicate_succ']
  · have more := Nat.toDigits_of_base_le (b := 16) (by decide) (not_lt.mp small)
    simp [digits, more]

theorem digits_one {n : ℕ} (small : n < 16) : digits 1 n = [Nat.digitChar n] := by
  simp [digits, Nat.toDigits_of_lt_base small]

theorem digits_four {n : ℕ} (small : n < 0x10000) : digits 4 n =
    [Nat.digitChar (n / 16 / 16 / 16), Nat.digitChar (n / 16 / 16 % 16),
      Nat.digitChar (n / 16 % 16), Nat.digitChar (n % 16)] := by
  rw [digits_succ (by decide), digits_succ (by decide), digits_succ (by decide),
    digits_one (by omega)]
  rfl

end ClangIndex.Text.Hex

namespace ClangIndex.Json

open Text (Hex.digits)

theorem hexDigit_digitChar {n : ℕ} (small : n < 16) : hexDigit? (Nat.digitChar n) = some n := by
  have all : ∀ i : Fin 16, hexDigit? (Nat.digitChar i) = some (i : ℕ) := by decide
  exact all ⟨n, small⟩

theorem readUnit_digits {n : ℕ} (small : n < 0x10000) (r : List Char) :
    readUnit (Hex.digits 4 n ++ r) = some (n, r) := by
  rw [Text.Hex.digits_four small]
  have first : n / 16 / 16 / 16 < 16 := by omega
  have digit (k : ℕ) : hexDigit? (Nat.digitChar (k % 16)) = some (k % 16) :=
    hexDigit_digitChar (Nat.mod_lt _ (by decide))
  simp only [List.cons_append, List.nil_append, readUnit, hexDigit_digitChar first, digit,
    Option.bind_eq_bind, Option.bind_some, Option.pure_def, Option.some.injEq, Prod.mk.injEq,
    and_true]
  omega

theorem readCode_single {c : Char} (small : c.toNat < 0x10000) (r : List Char) :
    readCode (Hex.digits 4 c.toNat ++ r) = some (c, r) := by
  have valid : c.toNat < 0xD800 ∨ 0xDFFF < c.toNat ∧ c.toNat < 0x110000 := c.valid
  have lead : isLead c.toNat = false := by
    simp only [isLead, Bool.and_eq_false_iff, decide_eq_false_iff_not]
    omega
  have trail : isTrail c.toNat = false := by
    simp only [isTrail, Bool.and_eq_false_iff, decide_eq_false_iff_not]
    omega
  simp [readCode, readUnit_digits small, lead, trail, Char.ofNat_toNat]

theorem codeUnit_append (n : ℕ) (r : List Char) :
    codeUnit n ++ r = '\\' :: 'u' :: (Hex.digits 4 n ++ r) := rfl

theorem readCode_halves {m n k : ℕ} (lead : isLead m = true) (trail : isTrail n = true)
    (whole : 0x10000 + (m - 0xD800) * 0x400 + (n - 0xDC00) = k) (r : List Char) :
    readCode (Hex.digits 4 m ++ (codeUnit n ++ r)) = some (Char.ofNat k, r) := by
  have first : m < 0x10000 := by
    simp only [isLead, Bool.and_eq_true, decide_eq_true_eq] at lead
    omega
  have second : n < 0x10000 := by
    simp only [isTrail, Bool.and_eq_true, decide_eq_true_eq] at trail
    omega
  simp only [readCode, codeUnit, readUnit_digits first, readUnit_digits second, lead, trail,
    whole, Option.bind_eq_bind, Option.bind_some, Option.pure_def, if_true, List.cons_append,
    List.nil_append]

theorem readCode_pair {c : Char} (large : 0x10000 ≤ c.toNat) (r : List Char) :
    readCode (Hex.digits 4 (0xD800 + (c.toNat - 0x10000) / 0x400) ++
      (codeUnit (0xDC00 + (c.toNat - 0x10000) % 0x400) ++ r)) = some (c, r) := by
  have valid : c.toNat < 0xD800 ∨ 0xDFFF < c.toNat ∧ c.toNat < 0x110000 := c.valid
  have lead : isLead (0xD800 + (c.toNat - 0x10000) / 0x400) = true := by
    simp only [isLead, Bool.and_eq_true, decide_eq_true_eq]
    omega
  have trail : isTrail (0xDC00 + (c.toNat - 0x10000) % 0x400) = true := by
    simp only [isTrail, Bool.and_eq_true, decide_eq_true_eq]
    omega
  rw [readCode_halves lead trail (k := c.toNat) (by omega), Char.ofNat_toNat]

def onto (c : Char) (p : List Char × List Char) : List Char × List Char := (c :: p.1, p.2)

section

variable (fuel : ℕ) (t : List Char)

theorem readText_code {c : Char} {s t : List Char} (h : readCode s = some (c, t)) (fuel : ℕ) :
    readText (fuel + 1) ('\\' :: 'u' :: s) = (readText fuel t).map (onto c) := by
  simp only [readText, h, Option.bind_eq_bind, Option.bind_some]
  cases readText fuel t <;> rfl

theorem readText_short {e c : Char} (h : shortEscape? e = some c) :
    readText (fuel + 1) ('\\' :: e :: t) = (readText fuel t).map (onto c) := by
  have other : e ≠ 'u' := fun same => by
    rw [same] at h
    cases h
  simp only [readText, h, Option.bind_eq_bind, Option.bind_some]
  cases readText fuel t <;> rfl

theorem readText_plain {c : Char} (quote : c ≠ '"') (backslash : c ≠ '\\')
    (printable : 32 ≤ c.toNat) :
    readText (fuel + 1) (c :: t) = (readText fuel t).map (onto c) := by
  rw [readText, if_neg (not_lt.mpr printable)]
  · cases readText fuel t <;> rfl
  · exact quote
  · exact fun _ same _ => backslash same
  · exact fun _ _ same _ => backslash same

theorem readText_escapeChar (c : Char) :
    readText (fuel + 1) (escapeChar c ++ t) = (readText fuel t).map (onto c) := by
  unfold escapeChar
  split
  case isTrue quote =>
    subst quote
    exact readText_short fuel t rfl
  case isFalse quote =>
    split
    case isTrue backslash =>
      subst backslash
      exact readText_short fuel t rfl
    case isFalse backslash =>
      -- The short escapes of control characters.
      iterate 5
        split
        · subst_vars
          exact readText_short fuel t rfl
      dsimp only
      split
      case isTrue printable => exact readText_plain fuel t quote backslash printable.1
      case isFalse =>
        split
        case isTrue small =>
          rw [codeUnit_append]
          exact readText_code (readCode_single small t) fuel
        case isFalse large =>
          rw [List.append_assoc, codeUnit_append]
          exact readText_code (readCode_pair (not_lt.mp large) t) fuel

end

theorem escapeChar_ne_nil (c : Char) : escapeChar c ≠ [] := by
  intro none
  have read := readText_escapeChar 0 ['"'] c
  rw [none] at read
  cases read

theorem readText_quoted (s rest : List Char) {fuel : ℕ} (room : s.length < fuel) :
    readText fuel (s.flatMap escapeChar ++ '"' :: rest) = some (s, rest) := by
  obtain ⟨fuel, rfl⟩ : ∃ n, fuel = n + 1 := ⟨fuel - 1, by omega⟩
  induction s generalizing fuel with
  | nil => rfl
  | cons c r ih =>
    obtain ⟨fuel, rfl⟩ : ∃ n, fuel = n + 1 := ⟨fuel - 1, by rw [List.length_cons] at room; omega⟩
    rw [List.flatMap_cons, List.append_assoc, readText_escapeChar, ih fuel (by simpa using room)]
    rfl

theorem length_le_escaped (s : List Char) : s.length ≤ (s.flatMap escapeChar).length := by
  induction s with
  | nil => exact Nat.le_refl _
  | cons c r ih =>
    have some_char := List.length_pos_of_ne_nil (escapeChar_ne_nil c)
    rw [List.flatMap_cons, List.length_append, List.length_cons]
    omega

theorem readText_length (s : String) (rest : List Char) :
    readText (s.toList.flatMap escapeChar ++ '"' :: rest).length
      (s.toList.flatMap escapeChar ++ '"' :: rest) = some (s.toList, rest) := by
  refine readText_quoted s.toList rest ?_
  have := length_le_escaped s.toList
  rw [List.length_append, List.length_cons]
  omega

theorem quoted_append (s : String) (rest : List Char) :
    quoted s ++ rest = '"' :: (s.toList.flatMap escapeChar ++ '"' :: rest) := by
  simp [quoted]

theorem reads_quoted (s : String) : Reads (quoted s) (.text s) := by
  refine .of_word (s := s.toList.flatMap escapeChar ++ ['"']) fun fuel rest => ?_
  have here : skipSpace ('"' :: (s.toList.flatMap escapeChar ++ '"' :: rest)) =
      '"' :: (s.toList.flatMap escapeChar ++ '"' :: rest) := rfl
  rw [List.cons_append, List.append_assoc, List.singleton_append, readValue, here]
  simp only [readText_length, Option.map_some, String.ofList_toList]

end ClangIndex.Json
