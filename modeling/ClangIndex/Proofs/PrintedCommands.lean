import ClangIndex.Proofs.Transcripts
import Mathlib.Algebra.Ring.Parity

namespace ClangIndex

namespace Text.Quoted

def listing (ss : List String) : String := ", ".intercalate (ss.map quoteText)

def onFirst (c : Char) : List (List Char) → List (List Char)
  | [] => []
  | s :: ss => (c :: s) :: ss

def readOn : List Char → Option (List (List Char))
  | [] => none
  | ['"'] => some [[]]
  | '"' :: ',' :: ' ' :: '"' :: r => (readOn r).map ([] :: ·)
  | '"' :: _ => none
  | '\\' :: '"' :: r => (readOn r).map (onFirst '"')
  | '\\' :: '\\' :: r => (readOn r).map (onFirst '\\')
  | '\\' :: _ => none
  | c :: r => (readOn r).map (onFirst c)

def readTexts : List Char → Option (List (List Char))
  | [] => some []
  | '"' :: r => readOn r
  | _ => none

def readListing? (t : String) : Option (List String) :=
  (readTexts t.toList).map (·.map String.ofList)

def writeOn (s : List Char) : List (List Char) → List Char
  | [] => escape s ++ ['"']
  | t :: ss => escape s ++ '"' :: ',' :: ' ' :: '"' :: writeOn t ss

def writeTexts : List (List Char) → List Char
  | [] => []
  | s :: ss => '"' :: writeOn s ss

theorem writeOn_cons {c : Char} (s : List Char) (ss : List (List Char)) :
    writeOn (c :: s) ss =
      if c = '"' ∨ c = '\\' then '\\' :: c :: writeOn s ss else c :: writeOn s ss := by
  cases ss <;> by_cases h : c = '"' ∨ c = '\\' <;> simp [writeOn, escape, h]

theorem writeTexts_eq (ss : List (List Char)) :
    writeTexts ss = [',', ' '].intercalate (ss.map quote) := by
  cases ss with
  | nil => rfl
  | cons s ss =>
    induction ss generalizing s with
    | nil => simp [writeTexts, writeOn, quote]
    | cons t ss ih =>
      rw [List.map_cons, List.map_cons, List.intercalate_cons_cons, ← List.map_cons, ← ih t]
      simp [writeTexts, writeOn, quote]

theorem toList_listing (ss : List String) :
    (listing ss).toList = writeTexts (ss.map String.toList) := by
  rw [listing, String.toList_intercalate, writeTexts_eq]
  simp [quoteText, Function.comp_def]

theorem readOn_cons_of_plain {c : Char} (plain : ¬(c = '"' ∨ c = '\\')) (r : List Char) :
    readOn (c :: r) = (readOn r).map (onFirst c) := by
  obtain ⟨notQuote, notSlash⟩ := not_or.mp plain
  rw [readOn]
  all_goals simp [notQuote, notSlash]

theorem readOn_writeOn_cons (c : Char) (s : List Char) (ss : List (List Char)) :
    readOn (writeOn (c :: s) ss) = (readOn (writeOn s ss)).map (onFirst c) := by
  rw [writeOn_cons]
  by_cases h : c = '"' ∨ c = '\\'
  · obtain rfl | rfl := h <;> rw [if_pos (by simp), readOn]
  · rw [if_neg h, readOn_cons_of_plain h]

theorem readOn_writeOn (s : List Char) (ss : List (List Char)) :
    readOn (writeOn s ss) = some (s :: ss) := by
  induction ss generalizing s with
  | nil =>
    induction s with
    | nil => rfl
    | cons c s ih => rw [readOn_writeOn_cons, ih]; rfl
  | cons t ss ih =>
    induction s with
    | nil => rw [writeOn, escape, List.nil_append, readOn, ih]; rfl
    | cons c s again => rw [readOn_writeOn_cons, again]; rfl

theorem exists_writeOn_of_map {r : List Char} {f : List (List Char) → List (List Char)}
    {ss : List (List Char)}
    (ih : ∀ {us}, readOn r = some us → ∃ t ts, us = t :: ts ∧ r = writeOn t ts)
    (h : (readOn r).map f = some ss) : ∃ t ts, ss = f (t :: ts) ∧ r = writeOn t ts := by
  obtain ⟨us, read, rfl⟩ := Option.map_eq_some_iff.mp h
  obtain ⟨t, ts, rfl, written⟩ := ih read
  exact ⟨t, ts, rfl, written⟩

theorem eq_writeOn_of_readOn {r : List Char} {ss : List (List Char)} (h : readOn r = some ss) :
    ∃ t ts, ss = t :: ts ∧ r = writeOn t ts := by
  fun_induction readOn r generalizing ss with
  | case1 => cases h
  | case2 =>
    cases h
    exact ⟨[], [], rfl, rfl⟩
  | case3 r ih =>
    obtain ⟨t, ts, rfl, rfl⟩ := exists_writeOn_of_map ih h
    exact ⟨[], t :: ts, rfl, rfl⟩
  | case4 => cases h
  | case5 r ih =>
    obtain ⟨t, ts, rfl, rfl⟩ := exists_writeOn_of_map ih h
    exact ⟨'"' :: t, ts, rfl, by rw [writeOn_cons]; rfl⟩
  | case6 r ih =>
    obtain ⟨t, ts, rfl, rfl⟩ := exists_writeOn_of_map ih h
    exact ⟨'\\' :: t, ts, rfl, by rw [writeOn_cons]; rfl⟩
  | case7 => cases h
  | case8 c r _ _ notQuote _ _ notSlash ih =>
    obtain ⟨t, ts, rfl, rfl⟩ := exists_writeOn_of_map ih h
    exact ⟨c :: t, ts, rfl, by rw [writeOn_cons, if_neg (not_or.mpr ⟨notQuote, notSlash⟩)]⟩

theorem readTexts_iff {r : List Char} {ss : List (List Char)} :
    readTexts r = some ss ↔ r = writeTexts ss := by
  constructor
  · intro h
    unfold readTexts at h
    split at h
    · cases h; rfl
    · obtain ⟨t, ts, rfl, rfl⟩ := eq_writeOn_of_readOn h; rfl
    · cases h
  · rintro rfl
    cases ss with
    | nil => rfl
    | cons s ss => exact readOn_writeOn s ss

theorem readListing?_iff {t : String} {ss : List String} :
    readListing? t = some ss ↔ t = listing ss := by
  rw [← String.toList_inj, toList_listing, ← readTexts_iff, readListing?, Option.map_eq_some_iff]
  constructor
  · rintro ⟨us, read, rfl⟩
    simpa [Function.comp_def] using read
  · exact fun read => ⟨_, read, by simp [Function.comp_def]⟩

def slashes (s : List Char) : Nat := (s.reverse.takeWhile (· = '\\')).length

theorem slashes_after {c : Char} (ne : c ≠ '\\') (before s : List Char) :
    slashes (before ++ c :: s) = slashes s := by
  unfold slashes
  rw [List.reverse_append, List.reverse_cons, List.append_assoc, List.singleton_append,
    List.takeWhile_append, List.takeWhile_cons_of_neg (by simpa using ne)]
  split
  · rename_i all
    rw [List.append_nil, all]
  · rfl

theorem odd_slashes_pair_iff (s : List Char) :
    Odd (slashes ('\\' :: '\\' :: s)) ↔ Odd (slashes s) := by
  unfold slashes
  rw [List.reverse_cons, List.reverse_cons, List.append_assoc, List.takeWhile_append]
  split
  · rename_i all
    simp [all, Nat.odd_add]
  · rfl

/-- By induction on the text: what is written for a character is passed as a whole. -/
theorem odd_slashes_of_escape {s before after : List Char}
    (h : escape s = before ++ '"' :: after) : Odd (slashes before) := by
  induction s generalizing before with
  | nil => simp [escape] at h
  | cons c s ih =>
    rw [escape] at h
    split at h
    · rename_i special
      match before with
      | [] => simp at h
      | [x] =>
        obtain ⟨rfl, -⟩ := List.cons.inj h
        decide
      | x :: y :: before =>
        obtain ⟨rfl, next⟩ := List.cons.inj h
        obtain ⟨rfl, rest⟩ := List.cons.inj next
        obtain rfl | rfl := special
        · exact slashes_after (show '"' ≠ '\\' by decide) ['\\'] before ▸ ih rest
        · exact (odd_slashes_pair_iff before).mpr (ih rest)
    · rename_i plain
      cases before with
      | nil => exact absurd (.inl (List.cons.inj h).1) plain
      | cons x before =>
        obtain ⟨rfl, rest⟩ := List.cons.inj h
        exact slashes_after (fun e => plain (.inr e)) [] before ▸ ih rest

theorem odd_slashes_of_quote {s before after : List Char} (h : quote s = before ++ '"' :: after)
    (opened : before ≠ []) (closed : after ≠ []) : Odd (slashes before) := by
  obtain ⟨x, before, rfl⟩ := List.exists_cons_of_ne_nil opened
  obtain ⟨inner, last, rfl⟩ := List.eq_nil_or_concat after |>.resolve_left closed
  obtain ⟨rfl, rest⟩ := List.cons.inj h
  have ends : escape s ++ ['"'] = (before ++ '"' :: inner) ++ [last] := by simpa using rest
  have inside : escape s = before ++ '"' :: inner := (List.append_inj' ends rfl).1
  exact slashes_after (show '"' ≠ '\\' by decide) [] before ▸ odd_slashes_of_escape inside

def slashed (d : Char) (s : List Char) : List Char :=
  s.flatMap fun c => if c = d then ['\\', c] else [c]

theorem escape_eq_slashed (s : List Char) : escape s = slashed '"' (slashed '\\' s) := by
  induction s with
  | nil => rfl
  | cons c s ih =>
    rw [escape, ih]
    by_cases slash : c = '\\'
    · subst slash
      simp [slashed]
    · by_cases quote : c = '"' <;> simp [slashed, slash, quote]

end Text.Quoted

open Native (Side)
open Text.Quoted (quote listing readListing? readListing?_iff slashes slashed odd_slashes_of_quote
  escape_eq_slashed)

/-- More was printed on the way from one state to another, and these lines are among it, in their
order. -/
def World.Prints (w v : World) (lines : List String) : Prop :=
  (lines.reverse ++ w.printed).Sublist v.printed

namespace World.Prints

variable {u v w : World} {lines lines' : List String}

theorem of_same (same : v.printed = w.printed) : w.Prints v [] := by
  rw [Prints, same]
  exact .refl _

theorem trans (h : w.Prints u lines) (k : u.Prints v lines') : w.Prints v (lines ++ lines') := by
  have next := (List.Sublist.append_left h lines'.reverse).trans k
  rwa [← List.append_assoc, ← List.reverse_append] at next

theorem sublist (h : w.Prints v lines) (sub : lines'.Sublist lines) : w.Prints v lines' :=
  (List.Sublist.append_right sub.reverse _).trans h

end World.Prints

namespace Binding

variable {α : Type} {m : Binding α} {side : Side} {v w : World} {r : Except Failure α}

theorem Mute.prints (h : m.Mute) (e : m.exec side w = (r, v)) : w.Prints v [] :=
  .of_same (by rw [← h side w, e])

theorem prints_print {s : String} {r : Except Failure Unit}
    (e : (print s).exec side w = (r, v)) : w.Prints v [s ++ "\n"] := by
  cases e
  exact .refl _

theorem prints_mapM {α β : Type} {g : α → Binding β} {line : β → String} {xs : List α}
    {side : Side} {v w : World} {ys : List β}
    (each : ∀ x u v y, (g x).exec side u = (.ok y, v) → u.Prints v [line y])
    (e : (xs.mapM g).exec side w = (.ok ys, v)) : w.Prints v (ys.map line) := by
  induction xs generalizing w ys with
  | nil =>
    cases e
    exact .of_same rfl
  | cons x r ih =>
    rw [List.mapM_cons] at e
    obtain ⟨y, u, first, e⟩ := exec_bind_cases e
    obtain ⟨ys, u', others, e⟩ := exec_bind_cases e
    cases e
    exact (each x w u y first).trans (ih others)

theorem exec_of_releasing {h : Handle} {a : α} (e : (releasing h m).exec side w = (.ok a, v)) :
    ∃ u, m.exec side w = (.ok a, u) ∧ u.Prints v [] := by
  cases inner : m.exec side w with
  | mk r u =>
    have same := printed_of_releasing inner e
    have attempted : (attempt m).exec side w = (.ok (m.exec side w).1, (m.exec side w).2) := rfl
    rw [releasing, andFinally, exec_bind_ok attempted, inner] at e
    cases r with
    | ok b =>
      obtain ⟨_, _, -, e⟩ := exec_bind_cases e
      cases e
      exact ⟨u, rfl, .of_same same⟩
    | error x =>
      obtain ⟨_, _, -, e⟩ := exec_bind_cases e
      cases e

end Binding

theorem Handle.mute_symbol (h : Handle) : h.symbol.Mute :=
  h.within_symbol (R := fun w v => v.printed = w.printed) (fun _ => rfl)
    fun first next => next.trans first

theorem Value.mute_ensureWithin (i : Value) {size : Binding Nat} (h : size.Mute) :
    (i.ensureWithin size).Mute :=
  i.within_ensureWithin (R := fun w v => v.printed = w.printed) (fun _ => rfl)
    (fun first next => next.trans first) h

namespace CompileCommands

theorem mute_size (h : Handle) : (size h).Mute := by
  unfold size
  refine .bind h.mute_symbol fun s => ?_
  cases s with
  | none => exact .pure _
  | some s => exact .bind .number fun _ => .pure _

theorem mute_command (h : Handle) (i : Value) : (command h i).Mute := by
  refine .bind (i.mute_ensureWithin (mute_size h)) fun _ => .bind .handle fun s => ?_
  cases s with
  | none => exact .throw _
  | some s => exact .bind .create fun _ => .pure _

end CompileCommands

namespace Tool.DatabaseDump

def argumentsLine (c : Command) : String :=
  "::  args= \x7b" ++ listing c.arguments ++ "\x7d" ++ "\n"

theorem mute_arguments (command : Handle) : (CompileCommand.arguments command).Mute :=
  .bind .number fun _ => .mapM fun _ _ => .text

theorem mute_directoryOf (command : Handle) : (directoryOf command).Mute := Binding.Mute.text

theorem prints_printCommand {i : Nat} {last : Bool} {command : Handle} {side : Side}
    {w v : World} {c : Command} (h : (printCommand i last command).exec side w = (.ok c, v)) :
    w.Prints v [argumentsLine c] := by
  obtain ⟨arguments, w₁, asked, h⟩ := Binding.exec_bind_cases h
  obtain ⟨_, w₂, heading, h⟩ := Binding.exec_bind_cases h
  obtain ⟨d, w₃, told, h⟩ := Binding.exec_bind_cases h
  obtain ⟨_, w₄, directory, h⟩ := Binding.exec_bind_cases h
  obtain ⟨_, w₅, count, h⟩ := Binding.exec_bind_cases h
  obtain ⟨_, w₆, line, h⟩ := Binding.exec_bind_cases h
  have before : w.Prints w₅ [] := by
    have first := ((mute_arguments command).prints asked).trans (Binding.prints_print heading)
    have second := ((mute_directoryOf command).prints told).trans (Binding.prints_print directory)
    exact ((first.trans second).trans (Binding.prints_print count)).sublist (List.nil_sublist _)
  have upTo := before.trans (Binding.prints_print line)
  have ending {u x : World} {c : Command}
      (h : (do return ⟨← directoryOf command, arguments⟩ : Binding Command).exec side u =
        (.ok c, x)) : c.arguments = arguments ∧ u.Prints x [] := by
    obtain ⟨d, y, asked, h⟩ := Binding.exec_bind_cases h
    cases h
    exact ⟨rfl, (mute_directoryOf command).prints asked⟩
  cases last with
  | true =>
    obtain ⟨rfl, after⟩ := ending h
    exact upTo.trans after
  | false =>
    obtain ⟨_, w₇, blank, h⟩ := Binding.exec_bind_cases h
    obtain ⟨rfl, after⟩ := ending h
    refine (upTo.trans ((Binding.prints_print blank).trans after)).sublist ?_
    exact List.singleton_sublist.mpr List.mem_cons_self

theorem prints_printCommands {commands : Handle} {side : Side} {w v : World}
    {cs : List Command} (h : (printCommands commands).exec side w = (.ok cs, v)) :
    w.Prints v (cs.map argumentsLine) := by
  obtain ⟨count, w₁, sized, h⟩ := Binding.exec_bind_cases h
  obtain ⟨_, w₂, heading, h⟩ := Binding.exec_bind_cases h
  obtain ⟨n, w₃, again, h⟩ := Binding.exec_bind_cases h
  have first := ((CompileCommands.mute_size commands).prints sized).trans
    (Binding.prints_print heading)
  have before := first.trans ((CompileCommands.mute_size commands).prints again)
  have each : w₃.Prints v (cs.map argumentsLine) := by
    refine Binding.prints_mapM (fun i u x c h => ?_) h
    obtain ⟨command, y, taken, h⟩ := Binding.exec_bind_cases h
    have quiet := (CompileCommands.mute_command commands (.int i)).prints taken
    split at h
    · exact quiet.trans (prints_printCommand h)
    · cases h
  exact (before.trans each).sublist (List.sublist_append_right _ _)

theorem prints_dump {files : Files.Tree} {directory : String} {side : Side} {w v : World}
    {s : Summary} (h : (dump files directory).exec side w = (.ok s, v)) :
    ∃ u : World, u.Prints v (s.commands.map argumentsLine) := by
  unfold dump at h
  dsimp only at h
  split at h
  · cases h
  · obtain ⟨database, w₁, -, h⟩ := Binding.exec_bind_cases h
    obtain ⟨commands, w₂, released, h⟩ := Binding.exec_bind_cases h
    cases h
    obtain ⟨u, inner, closed⟩ := Binding.exec_of_releasing released
    obtain ⟨commands', w₃, -, inner⟩ := Binding.exec_bind_cases inner
    obtain ⟨u', run, closed'⟩ := Binding.exec_of_releasing inner
    refine ⟨w₃, ?_⟩
    simpa using ((prints_printCommands run).trans closed').trans closed

/-- What is printed for the arguments of a command can be read back, and no other text is read in the
same way. A run prints such a line for each command, in order. -/
theorem arguments_read_back :
    (∀ (t : String) (ss : List String), readListing? t = some ss ↔ t = listing ss) ∧
      Function.Injective listing ∧
      (∀ s before after : List Char, quote s = before ++ '"' :: after →
        before ≠ [] → after ≠ [] → Odd (slashes before)) ∧
      (∀ s : List Char, quote s = '"' :: slashed '"' (slashed '\\' s) ++ ['"']) ∧
      ∀ (files : Files.Tree) (directory : String) (side : Side) (w v : World) (s : Summary),
        (dump files directory).exec side w = (.ok s, v) →
          (s.commands.map argumentsLine).reverse.Sublist v.printed := by
  refine ⟨fun t ss => readListing?_iff, fun ss ts same => ?_,
    fun s before after => odd_slashes_of_quote, fun s => by rw [quote, escape_eq_slashed],
    fun files directory side w v s ran => ?_⟩
  · have read := readListing?_iff.mpr same
    rw [readListing?_iff.mpr rfl] at read
    exact Option.some.inj read
  · obtain ⟨u, printed⟩ := prints_dump ran
    exact (List.sublist_append_left _ _).trans printed

def quoting : Side where
  answer _ c := match c.function with
    | .compilationDatabaseFromDirectory => { result := .handle (some "database") }
    | .compilationDatabaseGetAllCompileCommands => { result := .handle (some "commands") }
    | .compileCommandsGetSize => { result := .int 1 }
    | .compileCommandsGetCommand => { result := .handle (some "command") }
    | .compileCommandGetNumArgs => { result := .int 3 }
    | .compileCommandGetArg =>
      let middle := c.arguments.contains (.int 1)
      { result := .text (some (if middle then Text.utf8 "\", \"\\" else [])) }
    | _ => {}

def quotedFiles : Files.Tree where
  entries := [(["d".toList, databaseFile.toList], .file [])]

theorem arguments_read_back_quoting :
    readListing? "\"\", \"\\\", \\\"\\\\\", \"\"" = some ["", "\", \"\\", ""] ∧
      listing ["", ""] ≠ listing ["\", \""] ∧
      Odd (slashes ['"', '\\', '\\', '\\']) ∧
      quote ['\\', '"'] = '"' :: slashed '"' (slashed '\\' ['\\', '"']) ++ ['"'] ∧
      argumentsLine ⟨"", ["", "\", \"\\", ""]⟩ ∈
        ((dump quotedFiles "d").exec quoting {}).2.printed := by
  obtain ⟨read, differs, odd, slash, printed⟩ := arguments_read_back
  have arguments : ((dump quotedFiles "d").exec quoting {}).1.toOption.map
      (·.commands.map argumentsLine) = some [argumentsLine ⟨"", ["", "\", \"\\", ""]⟩] := by
    decide +kernel
  refine ⟨(read _ _).mpr (by decide), differs.ne (by decide),
    odd ['\\', '"'] _ ['"'] rfl (by decide) (by decide), slash _, ?_⟩
  cases ran : (dump quotedFiles "d").exec quoting {} with
  | mk r v =>
    rw [ran] at arguments
    cases r with
    | error e => cases arguments
    | ok s =>
      have lines := printed _ _ _ _ _ _ ran
      have same : s.commands.map argumentsLine = _ := Option.some.inj arguments
      rw [same] at lines
      exact List.singleton_sublist.mp lines

end Tool.DatabaseDump

end ClangIndex
