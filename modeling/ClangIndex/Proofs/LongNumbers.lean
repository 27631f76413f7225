import ClangIndex.Proofs.EntryLines

namespace ClangIndex.Number

theorem writeInteger?_eq (n : Int) :
    writeInteger? n = if n.natAbs < 10 ^ mostDigits then some (toString n) else none := by
  have short : (toString n.natAbs).length ≤ mostDigits ↔ n.natAbs < 10 ^ mostDigits :=
    Nat.length_repr_le_iff (by decide)
  have text : (if n < 0 then "-" ++ toString n.natAbs else toString n.natAbs) = toString n := by
    cases n with
    | ofNat m => rfl
    | negSucc m => exact if_pos (Int.negSucc_lt_zero m)
  rw [writeInteger?, text, ← ite_not]
  simp only [Nat.not_lt, short]

end ClangIndex.Number

namespace ClangIndex.Yaml

def allOnes (n : Nat) : List Char := '0' :: 'x' :: List.replicate n 'f'

theorem isWord_allOnes (n : Nat) : IsWord (allOnes n) where
  start := ⟨_, _, rfl, by decide⟩
  all := by simp +decide [allOnes]

theorem ofPlain_allOnes (n : Nat) : ScalarType.ofPlain (allOnes (n + 1)) = .int := by
  have line : withoutLineEnd (allOnes (n + 1)) = allOnes (n + 1) := by
    refine if_neg fun last => ?_
    have mem := List.mem_of_getLast? last
    simp +decide [allOnes] at mem
  have words : (boolWords.any fun w => isSpellingOf w.1 (allOnes (n + 1))) = false := by
    simp +decide [boolWords, isSpellingOf, allOnes, capitalized]
  have float : isFloat (allOnes (n + 1)) = false := by
    rfl
  have int : isInt (allOnes (n + 1)) = true := by
    simp +decide [isInt, allOnes, unsigned]
  rw [ScalarType.ofPlain, line, ScalarType.ofWord, words, float, int]
  rfl

theorem readNaturalInBase_allOnes (n : Nat) :
    Number.readNaturalInBase 16 'x' (List.replicate (n + 1) 'f') = some (16 ^ (n + 1) - 1) := by
  have digit : Number.baseDigit? 16 'f' = some 15 := by decide
  have fold (m : Nat) (s : Nat) : (List.replicate m 'f').foldl
      (fun n? c => do return 16 * (← n?) + (← Number.baseDigit? 16 c)) (some s) =
        some (16 ^ m * (s + 1) - 1) := by
    induction m generalizing s with
    | zero => simp
    | succ m ih =>
      rw [List.replicate_succ, List.foldl_cons]
      refine (ih (16 * s + 15)).trans ?_
      rw [show 16 * s + 15 + 1 = 16 * (s + 1) by omega, ← Nat.mul_assoc, Nat.pow_succ]
  have whole := fold (n + 1) 0
  simpa [Number.readNaturalInBase, Number.withoutMark, List.replicate_succ] using whole

theorem trimmed_allOnes (n : Nat) :
    Number.trimmed (List.replicate (n + 1) 'f') = List.replicate (n + 1) 'f' := by
  have clear : (List.replicate (n + 1) 'f').dropWhile Number.isBlankAround =
      List.replicate (n + 1) 'f' := by
    rw [List.replicate_succ, List.dropWhile_cons_of_neg (by decide)]
  rw [Number.trimmed, clear, List.reverse_replicate, clear, List.reverse_replicate]

theorem readInt_allOnes (n : Nat) :
    readInt (allOnes (n + 1)) = .ok ((16 ^ (n + 1) - 1 : Nat) : Int) := by
  have gaps : withoutGaps (allOnes (n + 1)) = allOnes (n + 1) := by
    simp +decide [withoutGaps, allOnes]
  have read : Number.readInBase 16 'x' (List.replicate (n + 1) 'f') =
      some ((16 ^ (n + 1) - 1 : Nat) : Int) := by
    have digits := readNaturalInBase_allOnes n
    rw [Number.readInBase, trimmed_allOnes]
    rw [List.replicate_succ] at digits ⊢
    simp [digits]
  simp only [readInt, gaps]
  simp [allOnes, unsigned, read, isNegative]

theorem ofScalar_allOnes (n : Nat) :
    Datum.ofScalar (ScalarType.ofPlain (allOnes (n + 1))) (allOnes (n + 1)) =
      .ok (.int (16 ^ (n + 1) - 1 : Nat)) := by
  rw [ofPlain_allOnes, Datum.ofScalar, readInt_allOnes]
  rfl

end ClangIndex.Yaml
