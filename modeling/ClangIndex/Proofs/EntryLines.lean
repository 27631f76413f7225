import ClangIndex.Proofs.SourceBytes
import ClangIndex.Yaml.Document
import Mathlib

namespace ClangIndex.Yaml

open Scan (isNameChar)

variable {c d : Char}

theorem ne_of_isNameChar (h : isNameChar c = true) (other : isNameChar d = false) : c ≠ d := by
  rintro rfl
  cases h.symm.trans other

theorem isBreak_of_isNameChar (h : isNameChar c = true) : isBreak c = false := by
  simp (disch := decide) [isBreak, ne_of_isNameChar h]

theorem isBlankOrBreakOrEnd_of_isNameChar (h : isNameChar c = true) :
    isBlankOrBreakOrEnd c = false := by
  simp (disch := decide) [isBlankOrBreakOrEnd, isBreakOrEnd, isBreak_of_isNameChar h,
    ne_of_isNameChar h]

theorem toNat_of_isNameChar (h : isNameChar c = true) : 32 ≤ c.toNat ∧ c.toNat ≤ 126 := by
  have le (a b : Char) : a ≤ b ↔ a.toNat ≤ b.toNat := Iff.rfl
  simp only [isNameChar, Bool.or_eq_true, Bool.and_eq_true, decide_eq_true_eq, le] at h
  obtain (((⟨a, b⟩ | ⟨a, b⟩) | ⟨a, b⟩) | rfl) | rfl := h
  · exact ⟨Nat.le_trans (by decide) a, Nat.le_trans b (by decide)⟩
  · exact ⟨Nat.le_trans (by decide) a, Nat.le_trans b (by decide)⟩
  · exact ⟨Nat.le_trans (by decide) a, Nat.le_trans b (by decide)⟩
  · decide
  · decide

theorem isAllowed_of_isNameChar (h : isNameChar c = true) : isAllowed c = true := by
  have inside := toNat_of_isNameChar h
  simp [isAllowed, inside]

theorem isIndicator_of_isNameChar (h : isNameChar c = true) (start : c ≠ '-') :
    Scan.isIndicator c = false := by
  simp (disch := decide) [Scan.isIndicator, start, ne_of_isNameChar h]

/-- A word of such characters as names are made of. A dash at its start could be more than that. -/
structure IsWord (s : List Char) : Prop where
  start : ∃ c r, s = c :: r ∧ c ≠ '-'
  all : ∀ c ∈ s, isNameChar c = true

theorem Place.forward_of_isNameChar (h : isNameChar c = true) (r : List Char) (i l k : Nat) :
    Place.forward ⟨c :: r, i, l, k⟩ = ⟨r, i + 1, l, k + 1⟩ := by
  simp (disch := decide) [forward, isBreak_of_isNameChar h, ne_of_isNameChar h]

theorem Place.forwardBy_of_isNameChar {s : List Char} (all : ∀ c ∈ s, isNameChar c = true)
    (r : List Char) (i l k : Nat) :
    Place.forwardBy s.length ⟨s ++ r, i, l, k⟩ = ⟨r, i + s.length, l, k + s.length⟩ := by
  induction s generalizing i k with
  | nil => rfl
  | cons c s ih =>
    rw [List.forall_mem_cons] at all
    rw [List.length_cons, forwardBy, List.cons_append, forward_of_isNameChar all.1, ih all.2]
    simp only [Nat.add_assoc, Nat.add_comm 1]

namespace PlainScalar

theorem word_append {s r : List Char} (all : ∀ c ∈ s, isNameChar c = true)
    (ended : word false r = []) : word false (s ++ r) = s := by
  induction s with
  | nil => exact ended
  | cons c s ih =>
    rw [List.forall_mem_cons] at all
    have goesOn (next : Char) : ends false c next = false := by
      simp (disch := decide) [ends, isBlankOrBreakOrEnd_of_isNameChar all.1,
        ne_of_isNameChar all.1]
    simp [word, goesOn, ih all.2]

variable {s r : List Char}

theorem words_colon (word : IsWord s) (indent : Int) (n i l k : Nat) :
    words false indent (n + 1) [] false ⟨s ++ ':' :: ' ' :: r, i, l, k⟩ =
      (s, false, ⟨':' :: ' ' :: r, i + s.length, l, k + s.length⟩) := by
  obtain ⟨⟨c, t, rfl, -⟩, all⟩ := word
  have whole : PlainScalar.word false (c :: t ++ ':' :: ' ' :: r) = c :: t :=
    word_append all (by simp [PlainScalar.word, ends, isBlankOrBreakOrEnd])
  have mark : c ≠ '#' := ne_of_isNameChar (all c List.mem_cons_self) rfl
  rw [words]
  simp only [whole, Place.forwardBy_of_isNameChar all]
  simp [Place.peek, mark, spaces, Place.take, Place.skip, Place.skipOver, isBreak]

theorem words_end (word : IsWord s) (n i l k : Nat) :
    words false 1 (n + 1) [] false ⟨s ++ ['\n'], i, l, k⟩ =
      (s, true, ⟨[], i + s.length + 1, l + 1, 0⟩) := by
  obtain ⟨⟨c, t, rfl, -⟩, all⟩ := word
  have whole : PlainScalar.word false (c :: t ++ ['\n']) = c :: t := word_append all (by decide)
  have mark : c ≠ '#' := ne_of_isNameChar (all c List.mem_cons_self) rfl
  have ended (i l k : Nat) :
      spaces ⟨['\n'], i, l, k⟩ = ([' '], true, ⟨[], i + 1, l + 1, 0⟩) := rfl
  rw [words]
  simp only [whole, Place.forwardBy_of_isNameChar all, ended]
  simp [Place.peek, mark]

end PlainScalar

namespace Scan

theorem toNextToken_here (n : Nat) {s : Scan} (space : s.place.peek ≠ ' ')
    (comment : s.place.peek ≠ '#') (line : isBreak s.place.peek = false) :
    toNextToken (n + 1) s = s := by
  have here : s.place.skip (· = ' ') = s.place := by
    unfold Place.skip
    cases e : s.place.rest with
    | nil => rfl
    | cons c r =>
      have other : c ≠ ' ' := by simpa [Place.peek, e] using space
      simp [Place.skipOver, other]
  simp [toNextToken, here, comment, line]

theorem fetch_word {s : Scan} {r : List Char} (rest : s.place.rest = c :: r)
    (h : isNameChar c = true) (start : c ≠ '-') : s.fetch = s.plainScalar := by
  have plain : s.startsPlain = true := by
    simp [startsPlain, Place.peek, rest, isBlankOrBreakOrEnd_of_isNameChar h,
      isIndicator_of_isNameChar h start]
  simp (disch := decide) [fetch, Place.peek, Place.isMarker, rest, plain, start, ne_of_isNameChar h]

variable {k w : List Char}

def afterKey (k r : List Char) : Scan where
  place := ⟨r, k.length, 0, k.length⟩
  tokens := #[.plain k]
  allowKey := false
  keys := [(0, ⟨0, false, 0, 0, 0⟩)]

def afterColon (k r : List Char) : Scan where
  place := ⟨r, k.length + 1, 0, k.length + 1⟩
  tokens := #[.blockMappingStart, .key, .plain k, .value]
  allowKey := false
  indent := 0
  indents := [-1]

def afterValue (k w : List Char) : Scan where
  place := ⟨[], k.length + 2 + w.length + 1, 1, 0⟩
  tokens := #[.blockMappingStart, .key, .plain k, .value, .plain w]
  indent := 0
  indents := [-1]

theorem step_eq {s t u : Scan} (passed : s.toNextToken (s.place.rest.length + 1) = t)
    (kept : t.dropStale = .ok t) (unwound : t.unwind t.place.column = u) : s.step = u.fetch := by
  rw [step, passed, kept, ← unwound]
  rfl

theorem plainScalar_eq {s t : Scan} {text : List Char} {broken : Bool} {p : Place}
    (saved : s.saveKey = .ok t) (read : PlainScalar.words t.inFlow (t.indent + 1)
      (t.place.rest.length + 1) [] false t.place = (text, broken, p)) :
    s.plainScalar = .ok { t.push (.plain text) with allowKey := broken, place := p } := by
  simp only [plainScalar, saved, bind, Except.bind, read]
  rfl

theorem step_key (word : IsWord k) (r : List Char) :
    step { place := ⟨k ++ ':' :: ' ' :: r, 0, 0, 0⟩ } = .ok (afterKey k (':' :: ' ' :: r)) := by
  have read := PlainScalar.words_colon (r := r) word 0 (k ++ ':' :: ' ' :: r).length 0 0 0
  rw [Nat.zero_add] at read
  obtain ⟨⟨c, t, rfl, start⟩, all⟩ := word
  have first := all c List.mem_cons_self
  let s : Scan := { place := ⟨c :: t ++ ':' :: ' ' :: r, 0, 0, 0⟩ }
  have passed : s.toNextToken (s.place.rest.length + 1) = s :=
    toNextToken_here _ (ne_of_isNameChar first rfl) (ne_of_isNameChar first rfl)
      (isBreak_of_isNameChar first)
  have saved : s.saveKey = .ok { s with keys := [(0, ⟨0, false, 0, 0, 0⟩)] } := rfl
  rw [step_eq (u := s) passed rfl rfl, fetch_word rfl first start, plainScalar_eq saved read]
  rfl

theorem fetch_colon {s : Scan} {r : List Char} (rest : s.place.rest = ':' :: ' ' :: r) :
    s.fetch = s.fetchValue := by
  simp [fetch, Place.peek, Place.peekAt, Place.isMarker, rest, isBlankOrBreakOrEnd]

theorem step_colon (short : k.length ≤ 1024) (r : List Char) :
    step (afterKey k (':' :: ' ' :: r)) = .ok (afterColon k (' ' :: r)) := by
  let s := afterKey k (':' :: ' ' :: r)
  have fresh : ¬1024 < k.length := Nat.not_lt.mpr short
  have passed : s.toNextToken (s.place.rest.length + 1) = s :=
    toNextToken_here _ (show ':' ≠ ' ' by decide) (show ':' ≠ '#' by decide) rfl
  have kept : s.dropStale = .ok s := by
    simp [dropStale, isStale, s, afterKey, fresh]
  rw [step_eq passed kept rfl, fetch_colon rfl]
  rfl

theorem step_value (word : IsWord w) :
    step (afterColon k (' ' :: (w ++ ['\n']))) = .ok (afterValue k w) := by
  have read := PlainScalar.words_end word (w ++ ['\n']).length (k.length + 2) 0 (k.length + 2)
  obtain ⟨⟨c, t, rfl, start⟩, all⟩ := word
  have first := all c List.mem_cons_self
  let s := afterColon k (' ' :: (c :: t ++ ['\n']))
  let u : Scan := { s with place := ⟨c :: t ++ ['\n'], k.length + 2, 0, k.length + 2⟩ }
  have passed : s.toNextToken (s.place.rest.length + 1) = u := by
    have skipped : s.place.skip (· = ' ') = u.place := by
      have other : c ≠ ' ' := ne_of_isNameChar first rfl
      simp [s, u, afterColon, Place.skip, Place.skipOver, Place.forward, other, isBreak]
    have comment : u.place.peek ≠ '#' := ne_of_isNameChar first rfl
    have line : isBreak u.place.peek = false := isBreak_of_isNameChar first
    simp [toNextToken, skipped, comment, line]
    rfl
  have inside : u.unwind u.place.column = u := by
    have deep : ¬((k.length + 2 : Nat) : Int) < 0 := by omega
    change unwindFrom (k.length + 2 : Nat) [-1] u = u
    rw [unwindFrom]
    exact if_neg deep
  have saved : u.saveKey = .ok u := rfl
  rw [step_eq passed rfl inside, fetch_word rfl first start, plainScalar_eq saved read]
  rfl

theorem step_end : step (afterValue k w) = .ok {
    place := ⟨[], k.length + 2 + w.length + 1, 1, 0⟩
    tokens := #[.blockMappingStart, .key, .plain k, .value, .plain w, .blockEnd, .streamEnd]
    allowKey := false, finished := true } := by
  rfl

theorem run_step {source : Source} {s t : Scan} (n : Nat) (sound : source.fault = none)
    (goes : s.finished = false) (h : s.step = .ok t) : run source (n + 1) s = run source n t := by
  simp [run, goes, guardedStep, sound, h]

end Scan

def entryLine (k w : List Char) : List Char := k ++ ':' :: ' ' :: (w ++ ['\n'])

def entryTokens (k w : List Char) : List Token :=
  [.blockMappingStart, .key, .plain k, .value, .plain w, .blockEnd, .streamEnd]

def entryNodes (k w : List Char) : Array Node := #[.mapping none [(1, 2)], .plain k, .plain w]

variable {k w : List Char}

theorem forall_mem_entryLine {p : Char → Prop} (key : IsWord k) (value : IsWord w)
    (names : ∀ c, isNameChar c = true → p c) (colon : p ':') (space : p ' ') (line : p '\n') :
    ∀ c ∈ entryLine k w, p c := by
  intro c mem
  simp only [entryLine, List.mem_append, List.mem_cons, List.not_mem_nil, or_false] at mem
  obtain inKey | rfl | rfl | inValue | rfl := mem
  · exact names c (key.all c inKey)
  · exact colon
  · exact space
  · exact names c (value.all c inValue)
  · exact line

theorem Source.ofBytes_entryLine (key : IsWord k) (value : IsWord w)
    (short : (entryLine k w).length < Reader.pieceLength) :
    Source.ofBytes (Text.Utf8.encode (entryLine k w)) = ⟨entryLine k w, none⟩ := by
  have returns := forall_mem_entryLine (p := (· ≠ '\r')) key value
    (fun _ h => ne_of_isNameChar h rfl) (by decide) (by decide) (by decide)
  refine Source.ofBytes_ascii (by simp [entryLine]) ?_ (fun mem => returns _ mem rfl) ?_ short
  · exact forall_mem_entryLine key value
      (fun _ h => Nat.lt_of_le_of_lt (toNat_of_isNameChar h).2 (by decide))
      (by decide) (by decide) (by decide)
  · exact forall_mem_entryLine key value (fun _ h => isAllowed_of_isNameChar h) rfl rfl rfl

theorem Tokens.ofSource_entryLine (key : IsWord k) (value : IsWord w) (short : k.length ≤ 1024) :
    Tokens.ofSource ⟨entryLine k w, none⟩ = ⟨entryTokens k w, none⟩ := by
  let source : Source := ⟨entryLine k w, none⟩
  have length : source.text.length + 2 = k.length + w.length + 1 + 4 := by
    simp only [source, entryLine, List.length_append, List.length_cons, List.length_nil]
    omega
  have run : Scan.run source (source.text.length + 2) { place := ⟨entryLine k w, 0, 0, 0⟩ } =
      ((entryTokens k w).toArray, none) := by
    rw [length, entryLine, Scan.run_step _ rfl rfl (Scan.step_key key _),
      Scan.run_step _ rfl rfl (Scan.step_colon short _),
      Scan.run_step _ rfl rfl (Scan.step_value value), Scan.run_step _ rfl rfl Scan.step_end]
    rfl
  obtain ⟨⟨c, t, rfl, start⟩, all⟩ := key
  have unmarked : Place.peek ⟨entryLine (c :: t) w, 0, 0, 0⟩ ≠ '\uFEFF' :=
    ne_of_isNameChar (all c List.mem_cons_self) rfl
  have nonempty : (entryLine (c :: t) w).isEmpty = false := rfl
  simp only [source] at run
  simp [Tokens.ofSource, unmarked, nonempty, run]

theorem Tree.ofSource?_entryLine (key : IsWord k) (value : IsWord w) (short : k.length ≤ 1024) :
    Tree.ofSource? ⟨entryLine k w, none⟩ = .ok (some ⟨entryNodes k w, 0⟩) := by
  have read : (Read.document 29).run { tokens := entryTokens k w } = .ok (some 0, {
      tokens := [.streamEnd], handles := Read.defaultHandles, nodes := entryNodes k w }) := by
    cbv
  simp only [Tree.ofSource?, Tokens.ofSource_entryLine key value short]
  change (Read.document 29).run { tokens := entryTokens k w } >>= _ = _
  rw [read]
  rfl

namespace Build

theorem bind_ok {α β : Type} {m : Build α} {f : α → Build β} {a : α} {b u : Building}
    (h : m b = .ok (a, u)) : (m >>= f) b = f a u := by
  change (m b >>= fun r => f r.1 r.2) = _
  rw [h]
  rfl

theorem state_ok (b : Building) : (get : Build Building) b = .ok (b, b) := rfl

theorem node_ok {b : Building} {id : NodeId} {v : Node} (h : b.nodes.getD id .empty = v) :
    node id b = .ok (v, b) :=
  congrArg (fun v => Except.ok (v, b)) h

theorem datum_plain {s : List Char} {d : Datum} {b : Building} {id : NodeId}
    (new : b.read.find? (fun e => e.1 == id) = none) (node : b.nodes.getD id .empty = .plain s)
    (stands : Datum.ofScalar (ScalarType.ofPlain s) s = .ok d) :
    datum id b = .ok (d, { b with read := (id, d) :: b.read }) := by
  have made : fresh id b = .ok (d, b) := by
    rw [fresh, bind_ok (node_ok node)]
    change (liftM (Datum.ofScalar (ScalarType.ofPlain s) s) : Build Datum) b = _
    rw [stands]
    rfl
  rw [datum, bind_ok (state_ok b), new]
  exact bind_ok made

variable {x y : Datum} {b : Building}

theorem entriesOf_entry (nodes : b.nodes = entryNodes k w) :
    entriesOf 0 b = .ok ([(1, 2)], b) := by
  have own : node 0 b = .ok (.mapping none [(1, 2)], b) := node_ok (by rw [nodes]; rfl)
  rw [entriesOf, bind_ok own]
  rfl

theorem flatten_entry (stands : Datum.ofScalar (ScalarType.ofPlain k) k = .ok x) (n : Nat)
    (nodes : b.nodes = entryNodes k w) : flatten (n + 1) [] 0 b = .ok ((), b) := by
  have merges : isMergeKey (.plain k) = false := by
    have other : ScalarType.ofPlain k ≠ .merge := fun e => by
      rw [e] at stands
      cases stands
    simp [isMergeKey, typeOf, other]
  have defaults : isDefaultKey (.plain k) = false := by
    have other : ScalarType.ofPlain k ≠ .default := fun e => by
      rw [e] at stands
      cases stands
    simp [isDefaultKey, typeOf, other]
  have key : node 1 b = .ok (.plain k, b) := node_ok (by rw [nodes]; rfl)
  let es : List (NodeId × NodeId) := [(1, 2)]
  have marked : (es.mapM (fun e => do return (isMergeKey (← node e.1), e)) : Build _) b =
      .ok ([(false, (1, 2))], b) := by
    rw [List.mapM_cons, bind_assoc, bind_ok key, merges]
    rfl
  rw [flatten, if_neg (by decide), bind_ok (entriesOf_entry nodes), bind_ok marked]
  refine (bind_ok (a := PUnit.unit) (u := b) ?_).trans rfl
  change (forIn es PUnit.unit _ : Build PUnit) b = _
  rw [List.forIn_cons, bind_assoc, bind_ok key, defaults]
  rfl

theorem entriesData_entry (keyed : Datum.ofScalar (ScalarType.ofPlain k) k = .ok x)
    (valued : Datum.ofScalar (ScalarType.ofPlain w) w = .ok y) (hashable : x.isHashable = true)
    (nodes : b.nodes = entryNodes k w) (read : b.read = [(0, .map 0)]) :
    entriesData 0 b = .ok ([(x, y)], { b with read := [(2, y), (1, x), (0, .map 0)] }) := by
  have first : datum 1 b = .ok (x, { b with read := (1, x) :: b.read }) :=
    datum_plain (by rw [read]; rfl) (by rw [nodes]; rfl) keyed
  have second : datum 2 { b with read := (1, x) :: b.read } =
      .ok (y, { b with read := (2, y) :: (1, x) :: b.read }) :=
    datum_plain (by rw [read]; rfl) (by rw [nodes]; rfl) valued
  have added : addEntry [] (1, 2) b =
      .ok ([(x, y)], { b with read := (2, y) :: (1, x) :: b.read }) := by
    rw [addEntry, bind_ok first, hashable]
    exact bind_ok second
  rw [entriesData, bind_ok (state_ok b), bind_ok (flatten_entry keyed _ nodes),
    bind_ok (entriesOf_entry nodes), List.foldlM_cons, bind_ok added, read]
  rfl

theorem rounds_entry (keyed : Datum.ofScalar (ScalarType.ofPlain k) k = .ok x)
    (valued : Datum.ofScalar (ScalarType.ofPlain w) w = .ok y) (hashable : x.isHashable = true)
    (n : Nat) :
    ∃ u, rounds (n + 2) { nodes := entryNodes k w, read := [(0, .map 0)], waiting := [0] } =
      .ok ((), u) ∧ u.contents = [(0, .entries [(x, y)])] := by
  let b : Building := { nodes := entryNodes k w, read := [(0, .map 0)] }
  let u : Building := {
    nodes := entryNodes k w, read := [(2, y), (1, x), (0, .map 0)]
    contents := [(0, .entries [(x, y)])] }
  have filled : fill 0 b = .ok ((), u) := by
    rw [fill, bind_ok (node_ok (v := .mapping none [(1, 2)]) rfl)]
    change ((Contents.entries <$> entriesData 0) >>= _) b = _
    rw [map_eq_pure_bind, bind_assoc, bind_ok (entriesData_entry keyed valued hashable rfl rfl)]
    rfl
  refine ⟨u, ?_, rfl⟩
  rw [rounds, bind_ok (state_ok _)]
  refine (bind_ok (a := ()) (u := b) rfl).trans ?_
  refine (bind_ok (a := PUnit.unit) (u := u) ?_).trans rfl
  change (forIn ([0] : List NodeId) PUnit.unit _ : Build PUnit) b = _
  rw [List.forIn_cons, bind_assoc, bind_ok filled]
  rfl

end Build

theorem Document.ofSource_entryLine {x y : Datum} (key : IsWord k) (value : IsWord w)
    (short : k.length ≤ 1024) (keyed : Datum.ofScalar (ScalarType.ofPlain k) k = .ok x)
    (valued : Datum.ofScalar (ScalarType.ofPlain w) w = .ok y) (hashable : x.isHashable = true) :
    Document.ofSource ⟨entryLine k w, none⟩ =
      .ok { root := .map 0, contents := [(0, .entries [(x, y)])] } := by
  have given : Build.datum 0 { nodes := entryNodes k w } = .ok (.map 0,
      { nodes := entryNodes k w, read := [(0, .map 0)], waiting := [0] }) := rfl
  obtain ⟨u, read, contents⟩ := Build.rounds_entry keyed valued hashable 2
  rw [Document.ofSource, Tree.ofSource?_entryLine key value short]
  change ((do
    let d ← Build.datum 0
    Build.rounds 4
    return d : Build Datum) { nodes := entryNodes k w } >>= _) = _
  rw [Build.bind_ok given, Build.bind_ok read, ← contents]
  rfl

end ClangIndex.Yaml
