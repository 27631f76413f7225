import ClangIndex.Text.Utf8
import Mathlib.Data.List.Basic
import Mathlib.Tactic.SplitIfs

/-!
Reading bytes as UTF-8, said by the bytes of characters alone: encoded characters are read as these,
and where none stands, the longest piece that begins one, or else one byte, is replaced.
-/

namespace ClangIndex.Text.Utf8

open String (utf8EncodeChar)

def units (n : Nat) : List Nat :=
  if n < 0x80 then [n]
  else if n < 0x800 then [0xC0 + n / 0x40, 0x80 + n % 0x40]
  else if n < 0x10000 then [0xE0 + n / 0x1000, 0x80 + n / 0x40 % 0x40, 0x80 + n % 0x40]
  else [0xF0 + n / 0x40000, 0x80 + n / 0x1000 % 0x40, 0x80 + n / 0x40 % 0x40, 0x80 + n % 0x40]

theorem toNat_lt (c : Char) : c.toNat < 0x110000 := by
  obtain h | h := c.valid
  · exact Nat.lt_trans h (by decide)
  · exact h.2

theorem toNat_ofNat_of_valid {n : Nat} (h : n < 0xD800 ∨ 0xDFFF < n ∧ n < 0x110000) :
    (Char.ofNat n).toNat = n := by
  rw [Char.ofNat, dif_pos (show n.isValidChar from h)]
  rfl

theorem eq_ofNat {c : Char} {n : Nat} (h : c.toNat = n) : c = Char.ofNat n := by
  rw [← h, Char.ofNat_toNat]

theorem map_toNat_encodeChar (c : Char) : (utf8EncodeChar c).map UInt8.toNat = units c.toNat := by
  have bound := toNat_lt c
  simp only [utf8EncodeChar, Char.toNat_val, units, ← Nat.lt_succ_iff, Nat.succ_eq_add_one,
    Nat.reduceAdd]
  split_ifs
  all_goals
    simp
    omega

theorem encodeChar_eq_iff {c : Char} {b : Bytes} :
    utf8EncodeChar c = b ↔ units c.toNat = b.map UInt8.toNat := by
  rw [← map_toNat_encodeChar]
  exact (List.map_injective_iff.mpr fun _ _ => UInt8.toNat_inj.mp).eq_iff.symm

theorem zero_mem_encodeChar_iff {c : Char} : 0 ∈ utf8EncodeChar c ↔ c = '\x00' := by
  have units_iff : 0 ∈ utf8EncodeChar c ↔ 0 ∈ units c.toNat := by
    rw [← map_toNat_encodeChar, List.mem_map]
    exact ⟨fun h => ⟨0, h, rfl⟩,
      fun ⟨x, h, e⟩ => UInt8.toNat_inj.mp (show x.toNat = (0 : UInt8).toNat from e) ▸ h⟩
  have zero_iff : c = '\x00' ↔ c.toNat = 0 := ⟨fun e => e ▸ rfl, eq_ofNat⟩
  rw [units_iff, zero_iff, units]
  split_ifs <;> simp <;> omega

theorem zero_mem_encode_iff {s : List Char} : 0 ∈ encode s ↔ '\x00' ∈ s := by
  simp [encode, zero_mem_encodeChar_iff]

theorem encodeChar_append_inj {c d : Char} {r t : Bytes}
    (h : utf8EncodeChar c ++ r = utf8EncodeChar d ++ t) : c = d ∧ r = t := by
  have read := congrArg (fun b : Bytes => b.toByteArray.utf8DecodeChar? 0) h
  simp only [List.toByteArray_append, ByteArray.utf8DecodeChar?_utf8EncodeChar_append,
    Option.some.injEq] at read
  subst read
  exact ⟨rfl, List.append_cancel_left h⟩

theorem eq_of_encodeChar_prefix {c d : Char} (h : utf8EncodeChar c <+: utf8EncodeChar d) :
    c = d := by
  obtain ⟨t, e⟩ := h
  exact (encodeChar_append_inj (e.trans (List.append_nil _).symm)).1

/-- The bytes with which a character is complete that has been begun. -/
inductive Completes : Pending → Bytes → Char → Prop
  | last {bits : Nat} {low high b : UInt8} (within : low ≤ b ∧ b ≤ high) :
    Completes (.some bits 1 low high) [b] (Char.ofNat (bits * 0x40 + b.toNat % 0x40))
  | more {bits n : Nat} {low high b : UInt8} {t : Bytes} {c : Char} (within : low ≤ b ∧ b ≤ high)
    (rest : Completes (.some (bits * 0x40 + b.toNat % 0x40) (n + 1) 0x80 0xBF) t c) :
    Completes (.some bits (n + 2) low high) (b :: t) c

section

variable {bits n : Nat} {low high b : UInt8} {t : Bytes} {c : Char}

theorem completes_one : Completes (.some bits 1 low high) t c ↔
    ∃ x, t = [x] ∧ (low ≤ x ∧ x ≤ high) ∧ c = Char.ofNat (bits * 0x40 + x.toNat % 0x40) := by
  constructor
  · rintro ⟨within⟩
    exact ⟨_, rfl, within, rfl⟩
  · rintro ⟨x, rfl, within, rfl⟩
    exact .last within

theorem completes_more : Completes (.some bits (n + 2) low high) t c ↔
    ∃ x r, t = x :: r ∧ (low ≤ x ∧ x ≤ high) ∧
      Completes (.some (bits * 0x40 + x.toNat % 0x40) (n + 1) 0x80 0xBF) r c := by
  constructor
  · rintro (_ | ⟨within, rest⟩)
    exact ⟨_, _, rfl, within, rest⟩
  · rintro ⟨x, r, rfl, within, rest⟩
    exact .more within rest

theorem Completes.within (h : Completes (.some bits n low high) (b :: t) c) :
    low ≤ b ∧ b ≤ high := by
  cases h with
  | last within => exact within
  | more within => exact within

theorem Completes.ne_nil (h : Completes (.some bits n low high) t c) : t ≠ [] := by
  cases h <;> exact List.cons_ne_nil _ _

theorem exists_completes (bits n : Nat) (within : low ≤ b ∧ b ≤ high) :
    ∃ t c, Completes (.some bits (n + 1) low high) (b :: t) c := by
  induction n generalizing bits low high b with
  | zero => exact ⟨[], _, .last within⟩
  | succ n ih =>
    have inside : (0x80 : UInt8) ≤ 0x80 ∧ (0x80 : UInt8) ≤ 0xBF := by decide
    obtain ⟨t, c, rest⟩ := ih (bits * 0x40 + b.toNat % 0x40) inside
    exact ⟨_, c, .more within rest⟩

end

section

variable {b low high : UInt8} (t : Bytes) (c : Char)

theorem encodeChar_eq_cons_iff_one (first : b.toNat < 0x80) :
    utf8EncodeChar c = b :: t ↔ t = [] ∧ c = Char.ofNat b.toNat := by
  simp only [encodeChar_eq_iff, units]
  constructor
  · intro e
    split_ifs at e <;> obtain ⟨lead, tail⟩ := List.cons.inj e
    · exact ⟨List.map_eq_nil_iff.mp tail.symm, eq_ofNat lead⟩
    all_goals omega
  · rintro ⟨rfl, rfl⟩
    rw [toNat_ofNat_of_valid (by omega), if_pos first]
    rfl

theorem encodeChar_eq_cons_iff_two (first : 0xC2 ≤ b.toNat ∧ b.toNat < 0xE0) :
    utf8EncodeChar c = b :: t ↔ Completes (.some (b.toNat % 0x20) 1 0x80 0xBF) t c := by
  have bound := toNat_lt c
  simp only [encodeChar_eq_iff, completes_one, UInt8.le_iff_toNat_le, UInt8.reduceToNat, units]
  constructor
  · intro e
    split_ifs at e <;> obtain ⟨lead, tail⟩ := List.cons.inj e
    · omega
    · obtain ⟨x, _, rfl, second, none⟩ := List.map_eq_cons_iff.mp tail.symm
      cases List.map_eq_nil_iff.mp none
      exact ⟨x, rfl, by omega, eq_ofNat (by omega)⟩
    all_goals omega
  · rintro ⟨x, rfl, second, rfl⟩
    rw [toNat_ofNat_of_valid (by omega), if_neg (by omega), if_pos (by omega)]
    simp
    omega

/-- The second byte keeps out what two bytes can say, and the codes that no character has. -/
theorem encodeChar_eq_cons_iff_three (first : 0xE0 ≤ b.toNat ∧ b.toNat < 0xF0)
    (least : low.toNat = if b.toNat = 0xE0 then 0xA0 else 0x80)
    (most : high.toNat = if b.toNat = 0xED then 0x9F else 0xBF) :
    utf8EncodeChar c = b :: t ↔ Completes (.some (b.toNat % 0x10) 2 low high) t c := by
  have bound := toNat_lt c
  have valid : c.toNat < 0xD800 ∨ 0xDFFF < c.toNat ∧ c.toNat < 0x110000 := c.valid
  simp only [encodeChar_eq_iff, completes_more, Nat.zero_add, completes_one,
    UInt8.le_iff_toNat_le, UInt8.reduceToNat, units]
  constructor
  · intro e
    split_ifs at e <;> obtain ⟨lead, tail⟩ := List.cons.inj e
    · omega
    · omega
    · obtain ⟨x, _, rfl, second, rest⟩ := List.map_eq_cons_iff.mp tail.symm
      obtain ⟨y, _, rfl, third, none⟩ := List.map_eq_cons_iff.mp rest
      cases List.map_eq_nil_iff.mp none
      refine ⟨x, [y], rfl, ?_, y, rfl, by omega, eq_ofNat (by omega)⟩
      split_ifs at least most <;> omega
    · omega
  · rintro ⟨x, _, rfl, second, y, rfl, third, rfl⟩
    split_ifs at least most
    all_goals
      rw [toNat_ofNat_of_valid (by omega), if_neg (by omega), if_neg (by omega),
        if_pos (by omega)]
      simp
      omega

/-- The second byte keeps out what three bytes can say, and what lies beyond the last code. -/
theorem encodeChar_eq_cons_iff_four (first : 0xF0 ≤ b.toNat ∧ b.toNat < 0xF5)
    (least : low.toNat = if b.toNat = 0xF0 then 0x90 else 0x80)
    (most : high.toNat = if b.toNat = 0xF4 then 0x8F else 0xBF) :
    utf8EncodeChar c = b :: t ↔ Completes (.some (b.toNat % 0x08) 3 low high) t c := by
  have bound := toNat_lt c
  simp only [encodeChar_eq_iff, completes_more, Nat.zero_add, completes_one,
    UInt8.le_iff_toNat_le, UInt8.reduceToNat, units]
  constructor
  · intro e
    split_ifs at e <;> obtain ⟨lead, tail⟩ := List.cons.inj e
    · omega
    · omega
    · omega
    · obtain ⟨x, _, rfl, second, rest⟩ := List.map_eq_cons_iff.mp tail.symm
      obtain ⟨y, _, rfl, third, rest⟩ := List.map_eq_cons_iff.mp rest
      obtain ⟨z, _, rfl, fourth, none⟩ := List.map_eq_cons_iff.mp rest
      cases List.map_eq_nil_iff.mp none
      refine ⟨x, [y, z], rfl, ?_, y, [z], rfl, by omega, z, rfl, by omega, eq_ofNat (by omega)⟩
      split_ifs at least most <;> omega
  · rintro ⟨x, _, rfl, second, y, _, rfl, third, z, rfl, fourth, rfl⟩
    split_ifs at least most
    all_goals
      rw [toNat_ofNat_of_valid (by omega), if_neg (by omega), if_neg (by omega),
        if_neg (by omega)]
      simp
      omega

theorem encodeChar_ne_cons (first : 0x80 ≤ b.toNat ∧ b.toNat < 0xC2 ∨ 0xF5 ≤ b.toNat) :
    utf8EncodeChar c ≠ b :: t := by
  have bound := toNat_lt c
  rw [Ne, encodeChar_eq_iff, units]
  intro e
  split_ifs at e <;> obtain ⟨lead, tail⟩ := List.cons.inj e <;> omega

end

/-- Where a character has been begun by some bytes: what is missing is what completes it. -/
structure Opened (p : Bytes) (q : Pending) : Prop where
  nonempty : p ≠ []
  missing : ∃ bits n low high, q = .some bits (n + 1) low high ∧ low ≤ high
  completes (t : Bytes) (c : Char) : utf8EncodeChar c = p ++ t ↔ Completes q t c

inductive Started (b : UInt8) : List Char × Pending → Prop
  | whole {c : Char} (one : ∀ t d, utf8EncodeChar d = b :: t ↔ t = [] ∧ d = c) :
    Started b ([c], .none)
  | opened {q : Pending} (opened : Opened [b] q) : Started b ([], q)
  | lost (lost : ∀ t c, utf8EncodeChar c ≠ b :: t) : Started b ([replacement], .none)

theorem started (b : UInt8) : Started b (start b) := by
  unfold start
  simp only [UInt8.lt_iff_toNat_lt, ← UInt8.toNat_inj, UInt8.reduceToNat]
  split
  · exact .whole fun t c => encodeChar_eq_cons_iff_one t c ‹_›
  split
  · exact .lost fun t c => encodeChar_ne_cons t c (by omega)
  split
  · exact .opened ⟨List.cons_ne_nil _ _, ⟨_, _, _, _, rfl, by decide⟩,
      fun t c => encodeChar_eq_cons_iff_two t c (by omega)⟩
  split
  · refine .opened ⟨List.cons_ne_nil _ _, ⟨_, _, _, _, rfl, ?_⟩, fun t c =>
      encodeChar_eq_cons_iff_three t c (by omega) (by split <;> rfl) (by split <;> rfl)⟩
    simp only [UInt8.le_iff_toNat_le, apply_ite UInt8.toNat, UInt8.reduceToNat]
    split_ifs <;> omega
  split
  · refine .opened ⟨List.cons_ne_nil _ _, ⟨_, _, _, _, rfl, ?_⟩, fun t c =>
      encodeChar_eq_cons_iff_four t c (by omega) (by split <;> rfl) (by split <;> rfl)⟩
    simp only [UInt8.le_iff_toNat_le, apply_ite UInt8.toNat, UInt8.reduceToNat]
    split_ifs <;> omega
  · exact .lost fun t c => encodeChar_ne_cons t c (by omega)

def Begins (p : Bytes) : Prop := ∃ c, p <+: utf8EncodeChar c

/-- The piece that is replaced at a place where no character stands: the longest that begins one, or
a single byte if none does. -/
structure Misfit (p r : Bytes) : Prop where
  unread (c : Char) : ¬utf8EncodeChar c <+: p ++ r
  piece : Begins p ∧ p ≠ [] ∨ p.length = 1
  longest (d : Bytes) : d <+: p ++ r → Begins d → d.length ≤ p.length

/-- What bytes are read as. -/
inductive Reads : Bytes → List Char → Prop
  | nil : Reads [] []
  | char {r : Bytes} {s : List Char} (c : Char) (rest : Reads r s) :
    Reads (utf8EncodeChar c ++ r) (c :: s)
  | misfit {p r : Bytes} {s : List Char} (here : Misfit p r) (rest : Reads r s) :
    Reads (p ++ r) (replacement :: s)

namespace Misfit

variable {p r p' r' : Bytes}

theorem ne_nil (h : Misfit p r) : p ≠ [] := by
  rintro rfl
  obtain ⟨-, ne⟩ | one := h.piece
  · exact ne rfl
  · exact Nat.noConfusion one

theorem length_le (h : Misfit p r) (h' : Misfit p' r') (e : p ++ r = p' ++ r') :
    p'.length ≤ p.length := by
  obtain ⟨begins, -⟩ | one := h'.piece
  · exact h.longest p' ⟨r', e.symm⟩ begins
  · rw [one]
    exact List.length_pos_iff.mpr h.ne_nil

theorem of_lost {b : UInt8} (lost : ∀ t c, utf8EncodeChar c ≠ b :: t) (r : Bytes) :
    Misfit [b] r where
  unread c := by
    rintro ⟨t, e⟩
    obtain ⟨x, u, whole⟩ := List.exists_cons_of_ne_nil (String.utf8EncodeChar_ne_nil (c := c))
    rw [whole] at e
    cases e
    exact lost u c whole
  piece := .inr rfl
  longest d here := by
    rintro ⟨c, t, e⟩
    cases d with
    | nil => exact Nat.zero_le _
    | cons x d =>
      obtain ⟨u, e'⟩ := here
      cases e'
      exact absurd e.symm (lost _ c)

end Misfit

theorem Reads.unique {b : Bytes} {s s' : List Char} (h : Reads b s) (h' : Reads b s') :
    s = s' := by
  induction h generalizing s' with
  | nil =>
    generalize e : [] = b at h'
    cases h' with
    | nil => rfl
    | char c => simp [String.utf8EncodeChar_ne_nil] at e
    | misfit here => simp [here.ne_nil] at e
  | @char r _ c _ ih =>
    generalize e : utf8EncodeChar c ++ r = b at h'
    cases h' with
    | nil => simp [String.utf8EncodeChar_ne_nil] at e
    | char d rest =>
      obtain ⟨rfl, rfl⟩ := encodeChar_append_inj e
      rw [ih rest]
    | misfit here => exact absurd ⟨r, e⟩ (here.unread c)
  | @misfit p r _ here _ ih =>
    generalize e : p ++ r = b at h'
    cases h' with
    | nil => simp [here.ne_nil] at e
    | char d => exact absurd ⟨_, e.symm⟩ (here.unread d)
    | misfit there rest =>
      have length := Nat.le_antisymm (there.length_le here e.symm) (here.length_le there e)
      rw [ih ((List.append_inj e length).2 ▸ rest)]

namespace Opened

variable {p r d : Bytes} {q : Pending} {b : UInt8} {c : Char} {bits n : Nat} {low high : UInt8}

theorem begins (opened : Opened p q) : Begins p := by
  obtain ⟨bits, n, low, high, rfl, ordered⟩ := opened.missing
  obtain ⟨t, c, completes⟩ := exists_completes bits n ⟨UInt8.le_refl low, ordered⟩
  exact ⟨c, low :: t, ((opened.completes _ _).mpr completes).symm⟩

theorem not_prefix (opened : Opened p q) (c : Char) : ¬utf8EncodeChar c <+: p := by
  intro inside
  obtain ⟨d, start⟩ := opened.begins
  cases eq_of_encodeChar_prefix (inside.trans start)
  have whole : utf8EncodeChar c = p ++ [] := by
    rw [List.append_nil, inside.eq_of_length_le start.length_le]
  obtain ⟨bits, n, low, high, rfl, -⟩ := opened.missing
  exact ((opened.completes [] c).mp whole).ne_nil rfl

def Broken (q : Pending) : Bytes → Prop
  | [] => True
  | b :: _ => ∀ t c, ¬Completes q (b :: t) c

theorem length_le (opened : Opened p q) (broken : Broken q r) (here : d <+: p ++ r)
    (start : d <+: utf8EncodeChar c) : d.length ≤ p.length := by
  cases r with
  | nil => exact (List.append_nil p ▸ here).length_le
  | cons b r =>
    refine Nat.le_of_not_lt fun longer => ?_
    have inside : p ++ [b] <+: d :=
      List.prefix_of_prefix_length_le ⟨r, by simp⟩ here (by simpa using Nat.succ_le_of_lt longer)
    obtain ⟨t, e⟩ := inside.trans start
    exact broken t c ((opened.completes (b :: t) c).mp (by simpa using e.symm))

theorem misfit (opened : Opened p q) (broken : Broken q r) : Misfit p r where
  unread c here := opened.not_prefix c <|
    List.prefix_of_prefix_length_le here (List.prefix_append p r)
      (opened.length_le broken here (List.prefix_refl _))
  piece := .inl ⟨opened.begins, opened.nonempty⟩
  longest _ here := fun ⟨_, start⟩ => opened.length_le broken here start

theorem next_within (opened : Opened p (.some bits (n + 1) low high))
    (within : low ≤ b ∧ b ≤ high) :
    (∃ c, next (.some bits (n + 1) low high) b = ([c], .none) ∧ utf8EncodeChar c = p ++ [b]) ∨
      ∃ q, next (.some bits (n + 1) low high) b = ([], q) ∧ Opened (p ++ [b]) q := by
  cases n with
  | zero =>
    exact .inl ⟨_, by simp [next, within], (opened.completes [b] _).mpr (.last within)⟩
  | succ n =>
    refine .inr ⟨.some (bits * 0x40 + b.toNat % 0x40) (n + 1) 0x80 0xBF, by simp [next, within],
      by simp, ⟨_, _, _, _, rfl, by decide⟩, fun t c => ?_⟩
    rw [List.append_assoc, List.singleton_append, opened.completes, completes_more]
    constructor
    · rintro ⟨_, _, e, -, rest⟩
      cases e
      exact rest
    · exact fun rest => ⟨b, t, rfl, within, rest⟩

theorem next_beyond (beyond : ¬(low ≤ b ∧ b ≤ high)) :
    next (.some bits n low high) b = (replacement :: (start b).1, (start b).2) := by
  simp [next, beyond]

end Opened

/-- By induction on the bytes that are left, with a character begun or none. -/
theorem reads_decodeFrom (r : Bytes) : Reads r (decodeFrom .none r) ∧
    ∀ p q, Opened p q → Reads (p ++ r) (decodeFrom q r) := by
  induction r with
  | nil =>
    refine ⟨.nil, fun p q opened => ?_⟩
    obtain ⟨bits, n, low, high, rfl, -⟩ := opened.missing
    exact .misfit (opened.misfit trivial) .nil
  | cons b r ih =>
    have anew : Reads (b :: r) (decodeFrom .none (b :: r)) := by
      rw [decodeFrom, next]
      have here := started b
      generalize start b = x at here
      cases here with
      | whole one =>
        rw [← List.singleton_append, ← (one [] _).mpr ⟨rfl, rfl⟩]
        exact .char _ ih.1
      | opened opened => exact ih.2 [b] _ opened
      | lost lost => exact .misfit (.of_lost lost r) ih.1
    refine ⟨anew, fun p q opened => ?_⟩
    obtain ⟨bits, n, low, high, rfl, -⟩ := opened.missing
    by_cases within : low ≤ b ∧ b ≤ high
    · obtain ⟨c, read, whole⟩ | ⟨q, read, longer⟩ := opened.next_within within
      · rw [decodeFrom, read, ← List.singleton_append (l := r), ← List.append_assoc, ← whole]
        exact .char c ih.1
      · rw [decodeFrom, read, ← List.singleton_append (l := r), ← List.append_assoc]
        exact ih.2 _ q longer
    · -- The byte is no part of the character, and is read once more from where none is begun.
      rw [decodeFrom, Opened.next_beyond within]
      exact .misfit (opened.misfit fun t c completes => within completes.within) anew

theorem reads_iff {b : Bytes} {s : List Char} : Reads b s ↔ decode b = s :=
  ⟨fun h => (reads_decodeFrom b).1.unique h, fun h => h ▸ (reads_decodeFrom b).1⟩

theorem reads_encode (s : List Char) : Reads (encode s) s := by
  induction s with
  | nil => exact .nil
  | cons c s ih => exact .char c ih

theorem decode_encode (s : List Char) : decode (encode s) = s := reads_iff.mp (reads_encode s)

theorem encode_decode_iff {b : Bytes} :
    encode (decode b) = b ↔ b.toByteArray.IsValidUTF8 := by
  constructor
  · exact fun e => ⟨decode b, congrArg List.toByteArray e.symm⟩
  · rintro ⟨s, e⟩
    cases List.toByteArray_inj.mp e
    exact congrArg encode (decode_encode s)

theorem Reads.zero_not_mem {b : Bytes} {s : List Char} (h : Reads b s) (none : 0 ∉ b) :
    '\x00' ∉ s := by
  induction h with
  | nil => exact List.not_mem_nil
  | char c _ ih =>
    rw [List.mem_append, not_or, zero_mem_encodeChar_iff] at none
    exact List.not_mem_cons_of_ne_of_not_mem (Ne.symm none.1) (ih none.2)
  | misfit _ _ ih =>
    rw [List.mem_append, not_or] at none
    exact List.not_mem_cons_of_ne_of_not_mem (by decide) (ih none.2)

end ClangIndex.Text.Utf8
