import ClangIndex.Yaml.Source

namespace ClangIndex.Yaml

open Text (Utf8.encode)

theorem utf8EncodeChar_ascii {c : Char} (ascii : c.toNat < 128) :
    String.utf8EncodeChar c = [c.toUInt8] :=
  String.utf8EncodeChar_eq_singleton (Char.utf8Size_eq_one_iff.mpr (Nat.le_of_lt_succ ascii))

namespace Reader

theorem next?_ascii {c : Char} (ascii : c.toNat < 128) :
    Text.Utf8.Pending.next? .none c.toUInt8 = some ([c], .none) := by
  have byte : c.toUInt8.toNat = c.toNat := by
    rw [Char.toUInt8, UInt32.toNat_toUInt8]
    exact Nat.mod_eq_of_lt (Nat.lt_trans ascii (by decide))
  have small : c.toUInt8 < 0x80 := UInt8.lt_iff_toNat_lt.mpr (byte ▸ ascii)
  have known : c ≠ Text.Utf8.replacement := by
    rintro rfl
    exact absurd ascii (by decide)
  simp [Text.Utf8.Pending.next?, Text.Utf8.start, small, byte, known]

theorem decode_ascii {s : List Char} (ascii : ∀ c ∈ s, c.toNat < 128) :
    decode .none (Utf8.encode s) = some (s, .none) := by
  induction s with
  | nil => rfl
  | cons c s ih =>
    rw [List.forall_mem_cons] at ascii
    simp [utf8EncodeChar_ascii ascii.1, decode, next?_ascii ascii.1, ih ascii.2]

theorem length_encode_ascii {s : List Char} (ascii : ∀ c ∈ s, c.toNat < 128) :
    (Utf8.encode s).length = s.length := by
  induction s with
  | nil => rfl
  | cons c s ih =>
    rw [List.forall_mem_cons] at ascii
    simp [utf8EncodeChar_ascii ascii.1, ih ascii.2]

end Reader

theorem withPlainLines_of_no_return {s : List Char} (plain : '\r' ∉ s) : withPlainLines s = s := by
  fun_induction withPlainLines s with
  | case1 => simp at plain
  | case2 => simp at plain
  | case3 c r _ _ ih => rw [ih fun mem => plain (List.mem_cons_of_mem c mem)]
  | case4 => rfl

namespace Reader

theorem piece_end (n : Nat) (ready : List Char) (last : Nat × Nat)
    (short : ready.length < pieceLength) :
    piece (n + 1) { bytes := [], ready, last } = some (ready, { bytes := [], last }) := by
  have few : ¬pieceLength ≤ ready.length := Nat.not_le.mpr short
  simp [piece, finish, few, List.take_of_length_le (Nat.le_of_lt short),
    List.drop_of_length_le (Nat.le_of_lt short)]

theorem fill_ascii {s : List Char} (ascii : ∀ c ∈ s, c.toNat < 128) (plain : '\r' ∉ s)
    (short : s.length < pieceLength) (missing : Nat) :
    ∃ last, fill { bytes := Utf8.encode s } missing = some { bytes := [], ready := s, last } := by
  have whole : (Utf8.encode s).length ≤ amount { bytes := Utf8.encode s } missing := by
    rw [length_encode_ascii ascii]
    exact Nat.le_trans (Nat.le_trans (Nat.le_of_lt short) (by decide)) (Nat.le_max_left ..)
  have unheld : s.getLast? ≠ some '\r' := fun last => plain (List.mem_of_getLast? last)
  exact ⟨_, by simp [fill, List.take_of_length_le whole, List.drop_of_length_le whole,
    decode_ascii ascii, unheld, withPlainLines_of_no_return plain]; rfl⟩

end Reader

theorem Source.ofBytes_ascii {s : List Char} (some : s ≠ []) (ascii : ∀ c ∈ s, c.toNat < 128)
    (plain : '\r' ∉ s) (allowed : ∀ c ∈ s, isAllowed c = true)
    (short : s.length < Reader.pieceLength) : Source.ofBytes (Utf8.encode s) = ⟨s, none⟩ := by
  obtain ⟨last, filled⟩ := Reader.fill_ascii ascii plain short Reader.pieceLength
  have length : (Utf8.encode s).length = s.length := Reader.length_encode_ascii ascii
  have nonempty : Utf8.encode s ≠ [] := fun none =>
    some (List.length_eq_zero_iff.mp (length.symm.trans (congrArg List.length none)))
  obtain ⟨n, size⟩ := Nat.exists_eq_succ_of_ne_zero (mt List.length_eq_zero_iff.mp nonempty)
  have first : Reader.piece (n + 1 + 1) { bytes := Utf8.encode s } =
      Option.some (s, { bytes := [], last }) := by
    have full : ¬Reader.pieceLength ≤ 0 := by decide
    rw [Reader.piece]
    dsimp only [List.length_nil]
    rw [if_neg full, if_neg (by simpa using nonempty), Nat.sub_zero, filled]
    exact Reader.piece_end n s last short
  have none (n : Nat) : Reader.piece (n + 1) { bytes := [], last } =
      Option.some ([], { bytes := [], last }) := Reader.piece_end n [] last (by decide)
  have clear : s.find? (fun c => !isAllowed c) = Option.none := by
    simpa using allowed
  have rest (n : Nat) : Source.pieces (n + 1) { bytes := [], last } = ([], Option.none) := by
    simp only [Source.pieces, List.length_nil, none]
  simp only [Source.ofBytes, size, first, none, Option.bind_some, Option.map_some, List.append_nil,
    clear, rest]

end ClangIndex.Yaml
