import ClangIndex.Proofs.JsonDocuments
import ClangIndex.Proofs.WrittenTexts
import Mathlib.Data.List.DropRight

namespace ClangIndex

theorem assign_of_new {α : Type} {k : String} {entries : List (String × α)}
    (new : k ∉ entries.map Prod.fst) (v : α) : assign k v entries = entries ++ [(k, v)] := by
  induction entries with
  | nil => rfl
  | cons e r ih =>
    rw [List.map_cons, List.mem_cons, not_or] at new
    rw [assign, if_neg (Ne.symm new.1), ih new.2, List.cons_append]

namespace Json

def Blank (s : List Char) : Prop := ∀ c ∈ s, isSpace c = true

section

variable {gap s : List Char}

theorem skipSpace_append (h : Blank gap) (s : List Char) : skipSpace (gap ++ s) = skipSpace s :=
  List.dropWhile_append_of_pos h

theorem skipSpace_skipSpace (s : List Char) : skipSpace (skipSpace s) = skipSpace s :=
  List.dropWhile_idempotent isSpace s

theorem blank_line (depth : ℕ) : Blank (line depth) := by
  intro c mem
  rcases List.mem_cons.mp mem with rfl | mem
  · rfl
  · rw [List.eq_of_mem_replicate mem]
    rfl

theorem numberEnds_blank (h : Blank gap) (k : NumberEnds s) : NumberEnds (gap ++ s) := by
  cases gap with
  | nil => exact k
  | cons c r =>
    intro d first
    cases first
    have space := h c List.mem_cons_self
    simp only [isSpace, Bool.or_eq_true, decide_eq_true_eq] at space
    obtain ((rfl | rfl) | rfl) | rfl := space <;> decide

theorem numberEnds_cons {c : Char} (h : isDigit c = false ∧ c ≠ '.' ∧ c ≠ 'e' ∧ c ≠ 'E')
    (s : List Char) : NumberEnds (c :: s) := by
  intro d first
  cases first
  exact h

variable (fuel : ℕ)

theorem readValue_skipSpace (s : List Char) : readValue fuel (skipSpace s) = readValue fuel s := by
  cases fuel with
  | zero => rfl
  | succ fuel => rw [readValue, readValue, skipSpace_skipSpace]

theorem readItems_skipSpace (s : List Char) : readItems fuel (skipSpace s) = readItems fuel s := by
  cases fuel with
  | zero => rfl
  | succ fuel => rw [readItems, readItems, readValue_skipSpace]

theorem readValue_append (h : Blank gap) (s : List Char) :
    readValue fuel (gap ++ s) = readValue fuel s := by
  rw [← readValue_skipSpace, skipSpace_append h, readValue_skipSpace]

theorem readItems_bracket (r : List Char) : readItems fuel (']' :: r) = none := by
  cases fuel with
  | zero => rfl
  | succ fuel =>
    cases fuel with
    | zero => rfl
    | succ fuel => rfl

end

def ReadsEntry (s : List Char) (e : String × Json) : Prop :=
  ∃ t, s = quoted e.1 ++ [':', ' '] ++ t ∧ Reads t e.2

def readFurther (fuel : ℕ) (entries : List (String × Json)) (s : List Char) :
    Option (Json × List Char) :=
  match skipSpace s with
  | ',' :: r => readObject fuel entries (skipSpace r)
  | '}' :: r => some (.object entries, r)
  | _ => none

theorem readObject_entry {fuel : ℕ} {acc : List (String × Json)} {e : String × Json}
    {t rest : List Char} (new : e.1 ∉ acc.map Prod.fst)
    (value : readValue fuel (t ++ rest) = some (e.2, rest)) :
    readObject (fuel + 1) acc (quoted e.1 ++ ':' :: ' ' :: (t ++ rest)) =
      readFurther fuel (acc ++ [e]) rest := by
  have blank : Blank [' '] := by simp [Blank, isSpace]
  have key (s : List Char) : skipSpace (':' :: s) = ':' :: s := rfl
  rw [quoted_append, readObject]
  simp only [readText_length, Option.bind_eq_bind, Option.bind_some, key]
  rw [← List.singleton_append, readValue_append fuel blank, value]
  simp only [Option.bind_some, String.ofList_toList, assign_of_new new]
  rfl

theorem skipSpace_separated {s : List Char} {e : String × Json} (h : ReadsEntry s e)
    (sep : List Char) (ts : List (List Char)) (rest : List Char) :
    skipSpace (separated sep (s :: ts) ++ rest) = separated sep (s :: ts) ++ rest := by
  obtain ⟨t, rfl, -⟩ := h
  cases ts <;> simp [separated, quoted, skipSpace, isSpace]

section

variable {gap after : List Char} (hg : Blank gap) (ha : Blank after)

include hg ha

theorem readItems_separated {ts : List (List Char)} {vs : List Json} (h : List.Forall₂ Reads ts vs)
    (some_item : ts ≠ []) {lead : List Char} (hl : Blank lead) (fuel : ℕ) (rest : List Char)
    (room : (lead ++ separated (',' :: gap) ts ++ after).length < fuel) :
    readItems fuel (lead ++ (separated (',' :: gap) ts ++ (after ++ ']' :: rest))) =
      some (.array vs, rest) := by
  -- An item is followed by a comma or by what closes the array: neither continues a number.
  induction h generalizing lead fuel with
  | nil => exact absurd rfl some_item
  | @cons t v ts vs read more ih =>
    obtain ⟨fuel, rfl⟩ : ∃ n, fuel = n + 1 := ⟨fuel - 1, by omega⟩
    cases more with
    | nil =>
      simp only [separated, List.length_append] at room
      have ends : NumberEnds (after ++ ']' :: rest) :=
        numberEnds_blank ha (numberEnds_cons (by decide) _)
      rw [readItems, separated, readValue_append _ hl, read fuel _ (by omega) ends]
      simp only [Option.bind_eq_bind, Option.bind_some, skipSpace_append ha]
      rfl
    | @cons u w us ws next others =>
      simp only [separated, List.length_append, List.length_cons] at room
      have ends (s : List Char) : NumberEnds (',' :: s) := numberEnds_cons (by decide) s
      have items := ih (List.cons_ne_nil _ _) hg fuel (by simp; omega)
      simp only [separated, List.append_assoc, List.cons_append] at items ⊢
      rw [readItems, readValue_append _ hl, read fuel _ (by omega) (ends _)]
      have comma (s : List Char) : skipSpace (',' :: s) = ',' :: s := rfl
      simp only [Option.bind_eq_bind, Option.bind_some, comma, items]
      rfl

theorem readObject_separated {ts : List (List Char)} {es : List (String × Json)}
    (h : List.Forall₂ ReadsEntry ts es) (some_entry : ts ≠ []) (acc : List (String × Json))
    (keys : ((acc ++ es).map Prod.fst).Nodup) (fuel : ℕ) (rest : List Char)
    (room : (separated (',' :: gap) ts ++ after).length < fuel) :
    readObject fuel acc (separated (',' :: gap) ts ++ (after ++ '}' :: rest)) =
      some (.object (acc ++ es), rest) := by
  induction h generalizing acc fuel with
  | nil => exact absurd rfl some_entry
  | @cons s e ts es entry more ih =>
    obtain ⟨fuel, rfl⟩ : ∃ n, fuel = n + 1 := ⟨fuel - 1, by omega⟩
    obtain ⟨t, rfl, read⟩ := entry
    have new : e.1 ∉ acc.map Prod.fst := by
      rw [List.map_append, List.nodup_append] at keys
      exact fun mem => keys.2.2 _ mem e.1 List.mem_cons_self rfl
    cases more with
    | nil =>
      simp only [separated, List.length_append] at room
      have ends : NumberEnds (after ++ '}' :: rest) :=
        numberEnds_blank ha (numberEnds_cons (by decide) _)
      have value := read fuel _ (by omega) ends
      simp only [separated, List.append_assoc, List.cons_append, List.nil_append]
      rw [readObject_entry new value, readFurther, skipSpace_append ha]
      rfl
    | @cons u f us fs next others =>
      simp only [separated, List.length_append, List.length_cons] at room
      have ends (s : List Char) : NumberEnds (',' :: s) := numberEnds_cons (by decide) s
      have entries := ih (List.cons_ne_nil _ _) (acc ++ [e]) (by simpa using keys) fuel
        (by simp; omega)
      have comma (s : List Char) : skipSpace (',' :: s) = ',' :: s := rfl
      have value := read fuel _ (by omega)
        (ends (gap ++ (separated (',' :: gap) (u :: us) ++ (after ++ '}' :: rest))))
      simp only [separated, List.append_assoc, List.cons_append, List.nil_append]
      simp only [readObject_entry new value, readFurther, comma, skipSpace_append hg,
        skipSpace_separated next, entries, List.append_assoc, List.singleton_append]

end

theorem indentedItems_eq (depth : ℕ) (xs : List Json) :
    indentedItems depth xs = xs.map (indented depth) := by
  induction xs with
  | nil => rfl
  | cons x r ih => rw [indentedItems, ih, List.map_cons]

theorem indentedEntries_eq (depth : ℕ) (es : List (String × Json)) :
    indentedEntries depth es = es.map fun e => quoted e.1 ++ [':', ' '] ++ indented depth e.2 := by
  induction es with
  | nil => rfl
  | cons e r ih => rw [indentedEntries, ih, List.map_cons]

theorem readValue_brace (fuel : ℕ) (r : List Char) :
    readValue (fuel + 1) ('{' :: r) = readObject fuel [] (skipSpace r) := rfl

theorem readValue_items {fuel : ℕ} {r : List Char} {ended : Json × List Char}
    (h : readItems fuel r = some ended) : readValue (fuel + 1) ('[' :: r) = some ended := by
  rw [← readItems_skipSpace] at h
  have here : skipSpace ('[' :: r) = '[' :: r := rfl
  simp only [readValue, here]
  split
  case h_1 close =>
    rw [close, readItems_bracket] at h
    cases h
  case h_2 => exact h

theorem reads_array {gap after : List Char} (hg : Blank gap) (ha : Blank after)
    {ts : List (List Char)} {vs : List Json} (h : List.Forall₂ Reads ts vs) (some_item : ts ≠ []) :
    Reads ('[' :: gap ++ separated (',' :: gap) ts ++ after ++ [']']) (.array vs) := by
  intro fuel rest room ends
  simp only [List.length_append, List.length_cons] at room
  obtain ⟨fuel, rfl⟩ : ∃ n, fuel = n + 1 := ⟨fuel - 1, by omega⟩
  have items := readItems_separated hg ha h some_item hg fuel rest
    (by simp only [List.length_append]; omega)
  simp only [List.append_assoc, List.cons_append, List.nil_append]
  exact readValue_items items

theorem reads_object {gap after : List Char} (hg : Blank gap) (ha : Blank after)
    {ts : List (List Char)} {es : List (String × Json)} (h : List.Forall₂ ReadsEntry ts es)
    (some_entry : ts ≠ []) (keys : (es.map Prod.fst).Nodup) :
    Reads ('{' :: gap ++ separated (',' :: gap) ts ++ after ++ ['}']) (.object es) := by
  intro fuel rest room ends
  simp only [List.length_append, List.length_cons] at room
  obtain ⟨fuel, rfl⟩ : ∃ n, fuel = n + 1 := ⟨fuel - 1, by omega⟩
  have entries := readObject_separated hg ha h some_entry [] keys fuel rest
    (by simp only [List.length_append]; omega)
  obtain ⟨s, ts, rfl⟩ := List.exists_cons_of_ne_nil some_entry
  obtain ⟨e, es', entry, -, rfl⟩ := List.forall₂_cons_left_iff.mp h
  simp only [List.append_assoc, List.cons_append, List.nil_append] at entries ⊢
  rw [readValue_brace, skipSpace_append hg, skipSpace_separated entry, entries]

theorem reads_no_entries : Reads ['{', '}'] (.object []) := by
  intro fuel rest room _
  obtain ⟨fuel, rfl⟩ : ∃ n, fuel = n + 2 := ⟨fuel - 2, by simp at room; omega⟩
  rfl

theorem reads_indented {v : Json} (h : v.WellFormed) (depth : ℕ) : Reads (indented depth v) v := by
  induction h generalizing depth with
  | @intro v formed _ _ items values =>
    cases v with
    | null => exact .of_word fun _ _ => rfl
    | bool b => cases b <;> exact .of_word fun _ _ => rfl
    | int n => exact reads_intChars n
    | float x => exact reads_floatChars (formed.number x rfl)
    | text s => exact reads_quoted s
    | array xs =>
      cases xs with
      | nil => exact .of_word fun _ _ => rfl
      | cons x r =>
        rw [indented, indentedItems_eq]
        refine reads_array (blank_line _) (blank_line _) ?_ (List.cons_ne_nil _ _)
        rw [List.forall₂_map_left_iff, List.forall₂_same]
        exact fun y mem => items y mem _
    | object es =>
      cases es with
      | nil => exact reads_no_entries
      | cons e r =>
        rw [indented, indentedEntries_eq]
        refine reads_object (blank_line _) (blank_line _) ?_ (List.cons_ne_nil _ _) formed.keys
        rw [List.forall₂_map_left_iff, List.forall₂_same]
        exact fun f mem => ⟨_, rfl, values f mem _⟩

theorem parse_indented_sorted {v : Json} (h : v.WellFormed) :
    parse (String.ofList (indented 0 (sorted v))) = some (sorted v) := by
  have read := reads_indented (wellFormed_sorted h) 0 ((indented 0 (sorted v)).length + 1) []
    (Nat.le_succ _) nofun
  rw [List.append_nil] at read
  simp only [parse, String.toList_ofList, read]
  rfl

theorem toList_of_writeInteger? {n : ℤ} {s : String} (h : Number.writeInteger? n = some s) :
    s.toList = intChars n := by
  unfold Number.writeInteger? at h
  by_cases long : Number.mostDigits < (toString n.natAbs).length
  · rw [if_pos long] at h
    cases h
  · rw [if_neg long, Option.some.injEq] at h
    rw [← h, intChars]
    split <;> simp

def Spells (ps : List (Option (List Char))) (text : List Char) : Prop :=
  ∃ ts : List (List Char), ts ≠ [] ∧ ps = ts.map some ∧ ts.flatten = text

namespace Spells

variable {ps qs : List (Option (List Char))} {s t : List Char}

theorem single (t : List Char) : Spells [some t] t :=
  ⟨[t], List.cons_ne_nil _ _, rfl, List.append_nil t⟩

theorem append (h : Spells ps s) (h' : Spells qs t) : Spells (ps ++ qs) (s ++ t) := by
  obtain ⟨ts, some_piece, rfl, rfl⟩ := h
  obtain ⟨us, -, rfl, rfl⟩ := h'
  exact ⟨ts ++ us, List.append_ne_nil_of_left_ne_nil some_piece _, List.map_append.symm,
    List.flatten_append⟩

theorem after (h : Spells ps t) (s : List Char) :
    Spells (ps.modifyHead (Option.map (s ++ ·))) (s ++ t) := by
  obtain ⟨ts, some_piece, rfl, rfl⟩ := h
  obtain ⟨u, us, rfl⟩ := List.exists_cons_of_ne_nil some_piece
  exact ⟨(s ++ u) :: us, List.cons_ne_nil _ _, rfl, List.append_assoc ..⟩

theorem all_isSome (h : Spells ps t) : ps.all Option.isSome = true := by
  obtain ⟨ts, -, rfl, -⟩ := h
  simp

theorem written_eq (h : Spells ps t) : written ps = t := by
  obtain ⟨ts, -, rfl, rfl⟩ := h
  have whole : (ts.map some).takeWhile Option.isSome = ts.map some :=
    List.takeWhile_eq_self_iff.mpr (by simp)
  rw [written, whole, List.flatMap_map]
  exact List.flatMap_id'

end Spells

theorem spells_itemPieces {depth : ℕ} {xs : List Json}
    (items : ∀ x ∈ xs, Spells (pieces depth x) (indented depth x)) (some_item : xs ≠ [])
    (before : List Char) : Spells (itemPieces depth before xs)
      (before ++ separated (',' :: line depth) (indentedItems depth xs)) := by
  induction xs generalizing before with
  | nil => exact absurd rfl some_item
  | cons x r ih =>
    obtain ⟨first, others⟩ := List.forall_mem_cons.mp items
    have here := first.after before
    cases r with
    | nil => simpa [itemPieces, indentedItems, separated] using here
    | cons y r =>
      have rest := here.append (ih others (List.cons_ne_nil _ _) (',' :: line depth))
      simpa [itemPieces, indentedItems, separated] using rest

theorem spells_entryPieces {depth : ℕ} {es : List (String × Json)}
    (values : ∀ e ∈ es, Spells (pieces depth e.2) (indented depth e.2)) (some_entry : es ≠ [])
    (before : List Char) : Spells (entryPieces depth before es)
      (before ++ separated (',' :: line depth) (indentedEntries depth es)) := by
  induction es generalizing before with
  | nil => exact absurd rfl some_entry
  | cons e r ih =>
    obtain ⟨k, v⟩ := e
    obtain ⟨first, others⟩ := List.forall_mem_cons.mp values
    have here := (Spells.single (before ++ quoted k ++ [':', ' '])).append first
    cases r with
    | nil => simpa [entryPieces, indentedEntries, separated] using here
    | cons f r =>
      have rest := here.append (ih others (List.cons_ne_nil _ _) (',' :: line depth))
      simpa [entryPieces, indentedEntries, separated] using rest

theorem spells_pieces {v : Json} (h : v.Writable) (depth : ℕ) :
    Spells (pieces depth v) (indented depth v) := by
  induction h generalizing depth with
  | @intro v number _ _ items values =>
    cases v with
    | int n =>
      obtain ⟨s, written⟩ := Option.isSome_iff_exists.mp (number n rfl)
      have piece : pieces depth (.int n) = [some (intChars n)] := by
        simp [pieces, atom?, written, toList_of_writeInteger? written]
      exact piece ▸ .single _
    | array xs =>
      cases xs with
      | nil => exact .single _
      | cons x r =>
        have rest := (spells_itemPieces (fun y (mem : y ∈ x :: r) => items y mem (depth + 1))
          (List.cons_ne_nil _ _) ('[' :: line (depth + 1))).append
            (.single (line depth ++ [']']))
        simpa [pieces, indented] using rest
    | object es =>
      cases es with
      | nil => exact .single _
      | cons e r =>
        have rest := (spells_entryPieces (fun f (mem : f ∈ e :: r) => values f mem (depth + 1))
          (List.cons_ne_nil _ _) ('{' :: line (depth + 1))).append
            (.single (line depth ++ ['}']))
        simpa [pieces, indented] using rest
    | _ => exact .single _

theorem all_itemPieces (depth : ℕ) (before : List Char) (xs : List Json) :
    (itemPieces depth before xs).all Option.isSome =
      xs.all fun x => (pieces depth x).all Option.isSome := by
  induction xs generalizing before with
  | nil => rfl
  | cons x r ih =>
    have first : ((pieces depth x).modifyHead (Option.map (before ++ ·))).all Option.isSome =
        (pieces depth x).all Option.isSome := by
      cases pieces depth x <;> simp
    rw [itemPieces, List.all_append, first, ih, List.all_cons]

theorem all_entryPieces (depth : ℕ) (before : List Char) (es : List (String × Json)) :
    (entryPieces depth before es).all Option.isSome =
      es.all fun e => (pieces depth e.2).all Option.isSome := by
  induction es generalizing before with
  | nil => rfl
  | cons e r ih =>
    obtain ⟨k, v⟩ := e
    rw [entryPieces, List.cons_append, List.all_cons, List.all_append, ih, List.all_cons]
    rfl

theorem all_pieces_iff {v : Json} (h : v.WellFormed) (depth : ℕ) :
    (pieces depth v).all Option.isSome = true ↔ v.Writable := by
  refine ⟨fun all => ?_, fun writable => (spells_pieces writable depth).all_isSome⟩
  induction h generalizing depth with
  | @intro v _ _ _ items values =>
    cases v with
    | int n =>
      refine .leaf (fun m same => ?_) rfl rfl
      cases same
      simpa [pieces, atom?] using all
    | array xs =>
      refine .array nofun fun x mem => items x mem (depth + 1) ?_
      cases xs with
      | nil => cases mem
      | cons y r =>
        rw [pieces, List.all_append, all_itemPieces, Bool.and_eq_true] at all
        exact List.all_eq_true.mp all.1 x mem
    | object es =>
      refine .object nofun fun e mem => values e mem (depth + 1) ?_
      cases es with
      | nil => cases mem
      | cons f r =>
        rw [pieces, List.all_append, all_entryPieces, Bool.and_eq_true] at all
        exact List.all_eq_true.mp all.1 e mem
    | _ => exact .leaf nofun rfl rfl

end Json

end ClangIndex
