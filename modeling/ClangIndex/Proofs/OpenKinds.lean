import ClangIndex.Proofs.LongNumbers
import ClangIndex.Interface.Objects
import Mathlib

namespace ClangIndex

open Native (Argument Call Function Side)

namespace Enumeration

section

variable {e : Enumeration} {n : Int} {s : String}

def unknownName (n : Int) : String := "UNKNOWN_" ++ toString n

def nameFor (e : Enumeration) (n : Int) : String := (e.nameOf? n).getD (unknownName n)

/-- A number is declared, or it has no more digits than can be written. -/
def Nameable (e : Enumeration) (n : Int) : Prop :=
  (e.nameOf? n).isSome ∨ n.natAbs < 10 ^ Number.mostDigits

theorem unknownName?_eq (n : Int) :
    unknownName? n = if n.natAbs < 10 ^ Number.mostDigits then some (unknownName n) else none := by
  rw [unknownName?, Number.writeInteger?_eq]
  split <;> rfl

theorem nameFor?_of_nameable (isOpen : e.isOpen = true) (nameable : e.Nameable n) :
    e.nameFor? n = some (e.nameFor n) := by
  rw [nameFor?, if_pos isOpen, nameFor, unknownName?_eq]
  cases named : e.nameOf? n with
  | some s => rfl
  | none =>
    have short := nameable.resolve_left (by simp [named])
    rw [if_pos short]
    rfl

theorem nameFor?_of_not_nameable (unnameable : ¬e.Nameable n) : e.nameFor? n = none := by
  obtain ⟨undeclared, long⟩ := not_or.mp unnameable
  rw [nameFor?, unknownName?_eq, if_neg long, Option.not_isSome_iff_eq_none.mp undeclared]
  exact ite_self _

theorem unknownName_injective : Function.Injective unknownName := fun _ _ same =>
  Int.repr_injective ((String.append_right_inj "UNKNOWN_").mp same)

def bytes (s : String) : List UInt8 := s.toByteArray.data.toList

/-- A small number for a name. The declared names of an open enumeration all have different ones. -/
def mark (s : String) : Nat := (bytes s).foldl (fun k b => (256 * k + b.toNat) % 5925) 0

def marksDiffer (seen : Nat) : List Nat → Bool
  | [] => true
  | k :: ks => !seen.testBit k && marksDiffer (seen ||| 2 ^ k) ks

theorem nodup_of_marksDiffer {ks : List Nat} {seen : Nat} (differ : marksDiffer seen ks = true) :
    ks.Nodup ∧ ∀ k ∈ ks, seen.testBit k = false := by
  induction ks generalizing seen with
  | nil => simp
  | cons k ks ih =>
    simp only [marksDiffer, Bool.and_eq_true, Bool.not_eq_true'] at differ
    obtain ⟨nodup, unseen⟩ := ih differ.2
    have apart (j : Nat) (mem : j ∈ ks) : seen.testBit j = false ∧ k ≠ j := by
      simpa [Nat.testBit_or, Nat.testBit_two_pow] using unseen j mem
    constructor
    · exact List.nodup_cons.mpr ⟨fun mem => (apart k mem).2 rfl, nodup⟩
    · intro j mem
      cases List.mem_cons.mp mem with
      | inl same => exact same ▸ differ.1
      | inr mem => exact (apart j mem).1

theorem names_nodup (isOpen : e.isOpen = true) : (e.members.map (·.1)).Nodup := by
  -- To compare the names two by two would take the kernel long; each mark is looked at once.
  have differ : marksDiffer 0 ((e.members.map (·.1)).map mark) = true := by
    cases e with
    | cursorKind => decide +kernel
    | typeKind => decide +kernel
    | _ => cases isOpen
  exact .of_map mark (nodup_of_marksDiffer differ).1

theorem numbers_nodup (isOpen : e.isOpen = true) : (e.members.map (·.2)).Nodup := by
  have ascending : (e.members.map (·.2)).IsChain (· < ·) := by
    cases e with
    | cursorKind => decide +kernel
    | typeKind => decide +kernel
    | _ => cases isOpen
  exact (List.isChain_iff_pairwise.mp ascending).imp ne_of_lt

theorem ne_unknownName (isOpen : e.isOpen = true) {m : String × Int} (mem : m ∈ e.members)
    (n : Int) : m.1 ≠ unknownName n := by
  have known : ∀ m ∈ e.members, ¬bytes "UNKNOWN_" <+: bytes m.1 := by
    cases e with
    | cursorKind => decide +kernel
    | typeKind => decide +kernel
    | _ => cases isOpen
  intro same
  apply known m mem
  rw [same]
  exact ⟨bytes (toString n), by simp [bytes, unknownName]⟩

theorem mem_of_nameOf? (named : e.nameOf? n = some s) : (s, n) ∈ e.members := by
  obtain ⟨m, found, rfl⟩ := Option.map_eq_some_iff.mp named
  have same : m.2 = n := by simpa using List.find?_some found
  exact same ▸ List.mem_of_find?_eq_some found

theorem nameFor_injective (isOpen : e.isOpen = true) : Function.Injective e.nameFor := by
  intro a b same
  unfold nameFor at same
  cases first : e.nameOf? a with
  | none =>
    cases second : e.nameOf? b with
    | none => exact unknownName_injective (by simpa [first, second] using same)
    | some t =>
      have clash : t = unknownName a := by simpa [first, second] using same.symm
      exact absurd clash (ne_unknownName isOpen (mem_of_nameOf? second) a)
  | some s =>
    cases second : e.nameOf? b with
    | none =>
      have clash : s = unknownName b := by simpa [first, second] using same
      exact absurd clash (ne_unknownName isOpen (mem_of_nameOf? first) b)
    | some t =>
      have alike : s = t := by simpa [first, second] using same
      exact congrArg Prod.snd (List.inj_on_of_nodup_map (names_nodup isOpen)
        (mem_of_nameOf? first) (mem_of_nameOf? second) alike)

end

namespace Register

variable {e : Enumeration} {r : Register}

def after (earlier : List Int) (r : Register) : Register :=
  earlier.foldl (fun r n => (r.find n).2) r

/-- What the register of an open enumeration is at any time. -/
structure Keeps (e : Enumeration) (r : Register) : Prop where
  isOpen : r.isOpen = true
  declared : r.declared = e.register.declared
  named : ∀ m ∈ r.entries, m.name = e.nameFor m.number
  nameable : ∀ m ∈ r.entries, e.Nameable m.number
  numbers : (r.entries.map (·.number)).Nodup

theorem find_cases (r : Register) (n : Int) :
    (∃ m ∈ r.entries, m.number = n ∧ r.find n = (some m, r)) ∨
      (∀ m ∈ r.entries, m.number ≠ n) ∧
        ((∃ m, r.newEntry? n = some m ∧
            r.find n = (some m, { r with made := r.made ++ [m] })) ∨
          r.newEntry? n = none ∧ r.find n = (none, r)) := by
  cases found : r.entries.find? fun m => m.number == n with
  | some m =>
    have same : m.number = n := by simpa using List.find?_some found
    exact .inl ⟨m, List.mem_of_find?_eq_some found, same, by simp [find, found]⟩
  | none =>
    refine .inr ⟨by simpa using found, ?_⟩
    cases made : r.newEntry? n with
    | some m => exact .inl ⟨m, rfl, by simp [find, found, made]⟩
    | none => exact .inr ⟨rfl, by simp [find, found, made]⟩

theorem entries_concat (r : Register) (m : Entry) :
    ({ r with made := r.made ++ [m] } : Register).entries = r.entries ++ [m] :=
  (List.append_assoc ..).symm

theorem entries_prefix_find (r : Register) (n : Int) : r.entries <+: (r.find n).2.entries := by
  obtain ⟨m, -, -, found⟩ | ⟨-, ⟨m, -, made⟩ | ⟨-, none⟩⟩ := r.find_cases n
  · rw [found]
  · rw [made, entries_concat]
    exact List.prefix_append _ _
  · rw [none]

theorem entries_prefix_after (later : List Int) (r : Register) :
    r.entries <+: (r.after later).entries := by
  induction later generalizing r with
  | nil => exact List.prefix_rfl
  | cons n later ih => exact (r.entries_prefix_find n).trans (ih _)

theorem find_of_mem {m : Entry} (mem : m ∈ r.entries) : (r.find m.number).2 = r := by
  obtain ⟨k, -, -, found⟩ | ⟨absent, -⟩ := r.find_cases m.number
  · rw [found]
  · exact absurd rfl (absent m mem)

theorem declared_nameOf? {m : Entry} (mem : m ∈ e.register.declared) :
    (e.nameOf? m.number).isSome := by
  obtain ⟨d, there, rfl⟩ := List.mem_map.mp mem
  simpa [nameOf?, List.find?_isSome] using ⟨d.1, there⟩

theorem declared_nameFor (isOpen : e.isOpen = true) {m : Entry} (mem : m ∈ e.register.declared) :
    m.name = e.nameFor m.number := by
  obtain ⟨s, named⟩ := Option.isSome_iff_exists.mp (declared_nameOf? mem)
  obtain ⟨d, there, rfl⟩ := List.mem_map.mp mem
  have same := List.inj_on_of_nodup_map (numbers_nodup isOpen) (mem_of_nameOf? named) there rfl
  have alike : s = d.1 := congrArg Prod.fst same
  simp [nameFor, named, alike]

theorem nameOf?_of_absent {n : Int} (absent : ∀ m ∈ e.register.declared, m.number ≠ n) :
    e.nameOf? n = none := by
  have found : (e.register.declared.find? fun m => m.number == n) = none := by simpa using absent
  rwa [declared_find?, Option.map_eq_none_iff] at found

namespace Keeps

theorem register (isOpen : e.isOpen = true) : e.register.Keeps e where
  isOpen := isOpen
  declared := rfl
  named m mem := declared_nameFor isOpen (by simpa [entries, Enumeration.register] using mem)
  nameable m mem := .inl (declared_nameOf? (by simpa [entries, Enumeration.register] using mem))
  numbers := by
    simpa [entries, Enumeration.register, Function.comp_def] using numbers_nodup isOpen

theorem newEntry?_eq (kept : r.Keeps e) {n : Int} (absent : ∀ m ∈ r.entries, m.number ≠ n) :
    r.newEntry? n = (unknownName? n).map (⟨·, n⟩) ∧ e.nameOf? n = none :=
  ⟨if_pos kept.isOpen, nameOf?_of_absent fun m mem =>
    absent m (List.mem_append_left _ (kept.declared ▸ mem))⟩

theorem eq_of_newEntry? (kept : r.Keeps e) {n : Int} {m : Entry}
    (absent : ∀ m ∈ r.entries, m.number ≠ n) (made : r.newEntry? n = some m) :
    m = ⟨e.nameFor n, n⟩ ∧ e.Nameable n := by
  obtain ⟨new, unnamed⟩ := kept.newEntry?_eq absent
  rw [new, unknownName?_eq] at made
  split at made
  · cases made
    exact ⟨by simp [nameFor, unnamed], .inr ‹_›⟩
  · cases made

theorem not_nameable_of_newEntry? (kept : r.Keeps e) {n : Int}
    (absent : ∀ m ∈ r.entries, m.number ≠ n) (none : r.newEntry? n = none) : ¬e.Nameable n := by
  obtain ⟨new, unnamed⟩ := kept.newEntry?_eq absent
  rw [new, unknownName?_eq] at none
  split at none
  · cases none
  · exact not_or.mpr ⟨by simp [unnamed], ‹_›⟩

theorem find_eq (kept : r.Keeps e) {n : Int} (nameable : e.Nameable n) :
    (r.find n).1 = some ⟨e.nameFor n, n⟩ := by
  obtain ⟨m, mem, rfl, found⟩ | ⟨absent, ⟨m, new, made⟩ | ⟨none, -⟩⟩ := r.find_cases n
  · rw [found, ← kept.named m mem]
  · rw [made, (kept.eq_of_newEntry? absent new).1]
  · exact absurd nameable (kept.not_nameable_of_newEntry? absent none)

theorem find_of_not_nameable (kept : r.Keeps e) {n : Int} (unnameable : ¬e.Nameable n) :
    r.find n = (none, r) := by
  obtain ⟨m, mem, rfl, -⟩ | ⟨absent, ⟨m, new, -⟩ | ⟨-, missed⟩⟩ := r.find_cases n
  · exact absurd (kept.nameable m mem) unnameable
  · exact absurd (kept.eq_of_newEntry? absent new).2 unnameable
  · exact missed

theorem find (kept : r.Keeps e) (n : Int) : (r.find n).2.Keeps e := by
  obtain ⟨m, -, -, found⟩ | ⟨absent, ⟨m, new, made⟩ | ⟨-, missed⟩⟩ := r.find_cases n
  · rwa [found]
  · obtain ⟨rfl, nameable⟩ := kept.eq_of_newEntry? absent new
    have cases_ {p : Entry → Prop} (old : ∀ m ∈ r.entries, p m) (here : p ⟨e.nameFor n, n⟩) :
        ∀ m ∈ r.entries ++ [⟨e.nameFor n, n⟩], p m := by
      rw [List.forall_mem_append, List.forall_mem_singleton]
      exact ⟨old, here⟩
    rw [made]
    exact {
      isOpen := kept.isOpen
      declared := kept.declared
      named := r.entries_concat _ ▸ cases_ kept.named rfl
      nameable := r.entries_concat _ ▸ cases_ kept.nameable nameable
      numbers := by
        rw [entries_concat, List.map_append]
        exact List.nodup_append.mpr ⟨kept.numbers, List.nodup_singleton n, by simpa using absent⟩ }
  · rwa [missed]

theorem after (kept : r.Keeps e) (earlier : List Int) : (r.after earlier).Keeps e := by
  induction earlier generalizing r with
  | nil => exact kept
  | cons n earlier ih => exact ih (kept.find n)

theorem mem_find (kept : r.Keeps e) {n : Int} (nameable : e.Nameable n) :
    ⟨e.nameFor n, n⟩ ∈ (r.find n).2.entries := by
  obtain ⟨m, mem, rfl, found⟩ | ⟨absent, ⟨m, new, made⟩ | ⟨none, -⟩⟩ := r.find_cases n
  · rw [found, ← kept.named m mem]
    exact mem
  · rw [made, entries_concat, (kept.eq_of_newEntry? absent new).1]
    exact List.mem_append_right _ (List.mem_singleton_self _)
  · exact absurd nameable (kept.not_nameable_of_newEntry? absent none)

end Keeps

theorem mem_after (isOpen : e.isOpen = true) {earlier : List Int} {n : Int} (mem : n ∈ earlier)
    (nameable : e.Nameable n) : ⟨e.nameFor n, n⟩ ∈ (e.register.after earlier).entries := by
  obtain ⟨before, later, rfl⟩ := List.append_of_mem mem
  have split : e.register.after (before ++ n :: later) =
      (((e.register.after before).find n).2).after later := by simp [after]
  rw [split]
  have kept := (Keeps.register isOpen).after before
  exact (entries_prefix_after later _).subset (kept.mem_find nameable)

end Register

end Enumeration

theorem Member.name_eq {m : Member} (isOpen : m.kind.isOpen = true)
    (nameable : m.kind.Nameable m.number) : m.name = m.kind.nameFor m.number := by
  rw [name, Enumeration.register_find, Enumeration.nameFor?_of_nameable isOpen nameable]
  rfl

namespace Native.Function

variable {f : Function}

def kindTests : List (String × Function) := [
  ("is_declaration", .isDeclaration), ("is_reference", .isReference),
  ("is_expression", .isExpression), ("is_statement", .isStatement),
  ("is_attribute", .isAttribute), ("is_invalid", .isInvalid),
  ("is_translation_unit", .isTranslationUnit), ("is_preprocessing", .isPreprocessing),
  ("is_unexposed", .isUnexposed)]

theorem exec_test (side : Side) (w : World) (keeps : f.releases = false)
    (inputs : f.inputs = [.cursorKind]) (check : f.signature.check = some .truth) (m : Member)
    (low : -2 ^ 31 ≤ m.number) (high : m.number < 2 ^ 31) :
    let c : Call := ⟨f, [.int m.number]⟩
    ∃ v, ((Attribute.asksWith [] f (.member m) .plain keeps).call [] []).exec side w =
        (.ok (.bool ((side.answer w.calls c).number c != 0)), v) ∧ v.calls = c :: w.calls := by
  intro c
  have converted : Actual.convert w f.inputs [.value (.member m)] = some c.arguments := by
    rw [inputs]
    have fits := Value.wordArgument?_of_int32 low high
    simp [Actual.convert, Value.argument?, fits, c]
  have clear : Actual.obstacle w [.value (.member m)] = none := rfl
  let v : World := { w with dealings := Actual.dealing w c none [.value (.member m)] :: w.dealings }
  have made : (f.invoke [.value (.member m)]).exec side w =
      (.ok (c, side.answer w.calls c), v) := by
    change f.perform none [.value (.member m)] side w = (.ok (c, side.answer w.calls c), v)
    rw [perform, clear, converted]
  refine ⟨v, ?_, rfl⟩
  have asked : (f.call [.value (.member m)]).exec side w =
      (.ok (.bool ((side.answer w.calls c).number c != 0)), v) := by
    rw [call, Binding.exec_bind_ok made]
    simp only [check]
    rfl
  exact Binding.exec_bind_ok asked

end Native.Function

namespace Enumeration

open Native.Function (kindTests)

theorem lookup_kindTests (n : Int) : ∀ t ∈ kindTests, ∃ keeps,
    lookup t.1 (Interface.attributes (.member ⟨.cursorKind, n⟩)) =
        some (.asksWith [] t.2 (.member ⟨.cursorKind, n⟩) .plain keeps) ∧
      t.2.inputs = [.cursorKind] ∧ t.2.signature.result = some .uint32 ∧
      t.2.signature.check = some .truth := by
  simp only [kindTests, List.forall_mem_cons, List.not_mem_nil, false_imp_iff, implies_true]
  exact ⟨⟨rfl, rfl, rfl, rfl, rfl⟩, ⟨rfl, rfl, rfl, rfl, rfl⟩, ⟨rfl, rfl, rfl, rfl, rfl⟩,
    ⟨rfl, rfl, rfl, rfl, rfl⟩, ⟨rfl, rfl, rfl, rfl, rfl⟩, ⟨rfl, rfl, rfl, rfl, rfl⟩,
    ⟨rfl, rfl, rfl, rfl, rfl⟩, ⟨rfl, rfl, rfl, rfl, rfl⟩, ⟨rfl, rfl, rfl, rfl, rfl⟩, trivial⟩

theorem exec_memberOf {e : Enumeration} (isOpen : e.isOpen = true) {n : Int}
    (nameable : e.Nameable n) (side : Side) (w : World) :
    (Interface.memberOf e (.int n)).exec side w = (.ok ⟨e, n⟩, w) := by
  have hashed : (Interface.tryHash (.int n)).exec side w = (.ok (), w) := rfl
  have found : e.ofNumber? n = some ⟨e, n⟩ := by
    simp [ofNumber?_eq, nameFor?_of_nameable isOpen nameable]
  change (Interface.tryHash (.int n) >>= fun _ => _).exec side w = _
  rw [Binding.exec_bind_ok hashed]
  simp only [Value.numeric?, found]
  rfl

theorem exec_memberOf_of_not_nameable {e : Enumeration} {n : Int} (unnameable : ¬e.Nameable n)
    (side : Side) (w : World) :
    (Interface.memberOf e (.int n)).exec side w = (.error Failure.valueError, w) := by
  have hashed : (Interface.tryHash (.int n)).exec side w = (.ok (), w) := rfl
  have missed : e.ofNumber? n = none := by
    simp [ofNumber?_eq, nameFor?_of_not_nameable unnameable]
  have unwritten : Number.writeInteger? n = none := by
    rw [Number.writeInteger?_eq, if_neg (not_or.mp unnameable).2]
  have shown : (Value.int n).repr.exec side w = (.error Failure.valueError, w) := by
    change (Value.plainRepr (.int n)).exec side w = _
    simp only [Value.plainRepr, Value.literal?, unwritten]
    rfl
  change (Interface.tryHash (.int n) >>= fun _ => _).exec side w = _
  rw [Binding.exec_bind_ok hashed]
  simp only [Value.numeric?, missed]
  exact Binding.exec_bind_error shown

/-- Whatever was looked up before, an open enumeration has for a number one member: the declared
one, or else the one that is named after the number. Only a number with too many digits for a name
has none, which is an error. What the enumeration has stays, and is given again; names differ as the
numbers do; and its listing is that of the declaration. The kind of a cursor is the member for the
number that the native side gives, and each of its tests asks the native side about this number. -/
theorem open_kinds (e : Enumeration) (isOpen : e.isOpen = true) (earlier : List Int) :
    let r := e.register.after earlier
    (∀ n, e.Nameable n → (r.find n).1 = some ⟨(e.nameOf? n).getD (unknownName n), n⟩ ∧
      ((r.find n).2.entries.map (·.number)).count n = 1 ∧
      ∀ side w, (Interface.memberOf e (.int n)).exec side w = (.ok ⟨e, n⟩, w) ∧
        (Member.mk e n).name = (e.nameOf? n).getD (unknownName n)) ∧
    (∀ n, ¬e.Nameable n → r.find n = (none, r) ∧
      ∀ side w, (Interface.memberOf e (.int n)).exec side w = (.error Failure.valueError, w)) ∧
    (∀ n ∈ earlier, (r.find n).2 = r) ∧
    (∀ later, r.entries <+: (r.after later).entries ∧
      (r.after later).listing = e.register.listing) ∧
    (Function.Injective fun n => (e.nameOf? n).getD (unknownName n)) ∧
    ∀ (side : Side) (w : World) (c : Cursor) (k : Int), side.cursorKind c.symbol = k →
      -2 ^ 31 ≤ k → k < 2 ^ 31 → c.kind.exec side w = (.ok ⟨.cursorKind, k⟩, w) ∧
        ∀ t ∈ kindTests, ∃ a,
          lookup t.1 (Interface.attributes (.member ⟨.cursorKind, k⟩)) = some a ∧
          ∃ b v, (a.call [] []).exec side w = (.ok (.bool b), v) ∧
            v.calls = ⟨t.2, [.int k]⟩ :: w.calls := by
  intro r
  have kept := (Register.Keeps.register isOpen).after earlier
  refine ⟨fun n nameable => ⟨kept.find_eq nameable, ?_, fun side w =>
      ⟨exec_memberOf isOpen nameable side w, Member.name_eq isOpen nameable⟩⟩,
    fun n unnameable => ⟨kept.find_of_not_nameable unnameable,
      exec_memberOf_of_not_nameable unnameable⟩,
    fun n mem => ?_, fun later => ⟨?_, ?_⟩, nameFor_injective isOpen, ?_⟩
  · have mem := List.mem_map_of_mem (f := (·.number)) (kept.mem_find nameable)
    exact List.count_eq_one_of_mem (kept.find n).numbers mem
  · by_cases nameable : e.Nameable n
    · exact Register.find_of_mem (Register.mem_after isOpen mem nameable)
    · rw [kept.find_of_not_nameable nameable]
  · exact Register.entries_prefix_after later r
  · rw [Register.listing, (kept.after later).declared]
    rfl
  · rintro side w c k rfl low high
    have kind : c.kind.exec side w = (.ok ⟨.cursorKind, Number.Width.int32.wrap
      (side.cursorKind c.symbol)⟩, w) := rfl
    rw [Number.Width.wrap_int32 low high] at kind
    refine ⟨kind, fun t mem => ?_⟩
    obtain ⟨keeps, found, inputs, result, check⟩ := lookup_kindTests _ t mem
    obtain ⟨v, ran, calls⟩ := Native.Function.exec_test side w keeps inputs check
      ⟨.cursorKind, side.cursorKind c.symbol⟩ low high
    exact ⟨_, found, _, v, ran, calls⟩

theorem open_kinds_unknown_cursor :
    let r := cursorKind.register.after [-7, 999, -7]
    (r.find (-7)).1 = some ⟨"UNKNOWN_-7", -7⟩ ∧ (r.find 22).1 = some ⟨"NAMESPACE", 22⟩ ∧
      (r.find 999).2 = r ∧
      ∃ a, lookup "is_invalid" (Interface.attributes (.member ⟨.cursorKind, -7⟩)) = some a ∧
        ∃ b v, (a.call [] []).exec { cursorKind := fun _ => -7 } {} = (.ok (.bool b), v) ∧
          v.calls = [⟨.isInvalid, [.int (-7)]⟩] := by
  have all := open_kinds .cursorKind rfl [-7, 999, -7]
  have short : (-7 : Int).natAbs < 10 ^ Number.mostDigits :=
    Nat.lt_of_lt_of_le (by decide : 7 < 10 ^ 1) (Nat.pow_le_pow_right (by decide) (by decide))
  refine ⟨(all.1 (-7) (.inr short)).1, (all.1 22 (.inl rfl)).1,
    all.2.2.1 999 (by decide), ?_⟩
  have tests := all.2.2.2.2.2 { cursorKind := fun _ => -7 } {} ⟨"c", none⟩ (-7) rfl
    (by decide) (by decide)
  exact tests.2 ("is_invalid", .isInvalid) (by decide)

theorem natAbs_ten_pow (d : Nat) : ((10 : Int) ^ d).natAbs = 10 ^ d := Int.natAbs_pow 10 d

/-- The least number with too many digits for a name. -/
theorem open_kinds_overlong :
    ∃ n : Int, n = 10 ^ Number.mostDigits ∧ (cursorKind.register.find n).1 = none ∧
      (Interface.memberOf cursorKind (.int n)).exec {} {} = (.error Failure.valueError, {}) := by
  have small : ∀ m ∈ cursorKind.members, m.2 < 10 ^ 3 := by decide +kernel
  have large : (10 : Int) ^ 3 ≤ 10 ^ Number.mostDigits :=
    pow_le_pow_right₀ (by decide) (by decide)
  have undeclared : cursorKind.nameOf? (10 ^ Number.mostDigits) = none := by
    refine Option.map_eq_none_iff.mpr (List.find?_eq_none.mpr fun m mem => ?_)
    simpa using ((small m mem).trans_le large).ne
  have unnameable : ¬cursorKind.Nameable (10 ^ Number.mostDigits) := by
    refine not_or.mpr ⟨by simp [undeclared], ?_⟩
    rw [natAbs_ten_pow]
    exact Nat.lt_irrefl _
  refine ⟨_, rfl, ?_, exec_memberOf_of_not_nameable unnameable {} {}⟩
  rw [register_find, nameFor?_of_not_nameable unnameable]
  rfl

end Enumeration

end ClangIndex
