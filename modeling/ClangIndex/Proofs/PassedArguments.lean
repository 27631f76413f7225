import ClangIndex.Tool.UnitDump
import Mathlib.Data.List.Induction
import Mathlib.Data.List.TakeWhile

namespace ClangIndex.Tool

structure Operand where
  text : String
  bare : text.toList.head? ≠ some '-'

theorem Operand.ne_divider (w : Operand) : w.text ≠ divider := by
  intro same
  apply w.bare
  rw [same]
  rfl

theorem Operand.ofWord (w : Operand) : Argument.ofWord w.text = .word w.text := if_neg w.ne_divider

namespace Grammar

variable {g : Grammar} {acc : Given} {ws : List (String × Word)} {s : Switch} {name : String}

theorem classify_operand (w : Operand) : g.classify w.text = .ok .plain := by
  unfold classify
  split
  · rename_i starts
    exact absurd (congrArg List.head? starts) w.bare
  · rfl

theorem classifyAll_cons {w : String} {k : Word} {vs : List String} (other : w ≠ divider)
    (read : g.classify w = .ok k) (rest : g.classifyAll vs = .ok ws) :
    g.classifyAll (w :: vs) = .ok ((w, k) :: ws) := by
  rw [classifyAll, if_neg other, read, rest]
  rfl

def afterDivider (xs : List String) : List (String × Word) :=
  (divider, .divider) :: xs.map fun x => (x, .plain)

theorem classifyAll_divider (xs : List String) :
    g.classifyAll (divider :: xs) = .ok (afterDivider xs) := rfl

theorem all_isPositional_afterDivider (xs : List String) :
    (afterDivider xs).all isPositional = true := by
  simp [afterDivider, isPositional]

theorem erase_afterDivider (xs : List String) : (wordsOf (afterDivider xs)).erase divider = xs := by
  simp [wordsOf, afterDivider, Function.comp_def]

theorem takePositionals_afterDivider (many : g.positionals = .many)
    (untaken : acc.positionals = none) (xs : List String) :
    g.takePositionals acc (afterDivider xs) = ({ acc with positionals := some xs }, []) := by
  have all : (afterDivider xs).takeWhile isPositional = afterDivider xs :=
    List.takeWhile_eq_self_iff.mpr (List.all_eq_true.mp (all_isPositional_afterDivider xs))
  have taken : positionalWords g.positionals (afterDivider xs) = some (afterDivider xs) := by
    rw [many, positionalWords, all]
  unfold takePositionals
  rw [untaken, taken]
  simp [erase_afterDivider]

theorem consume_afterDivider (many : g.positionals = .many) (untaken : acc.positionals = none)
    (n : Nat) (xs : List String) :
    g.consume (n + 1) acc (afterDivider xs) = .ok { acc with positionals := some xs } := by
  have taken := takePositionals_afterDivider many untaken xs
  have all := all_isPositional_afterDivider xs
  rw [afterDivider] at taken all ⊢
  simp [consume, taken, all, wordsOf]

theorem consume_flag (flag : s.kind = .flag) (n : Nat) :
    g.consume (n + 1) acc ((name, .switch s none) :: ws) =
      g.consume n { acc with flags := s :: acc.flags } ws := by
  have taken : g.takeSwitch acc name s none ws =
      .ok ({ acc with flags := s :: acc.flags }, ws) := by
    simp [takeSwitch, raise, flag]
  rw [consume, taken]
  rfl

theorem consume_value (value : s.kind = .value) (n : Nat) (w : Operand) :
    g.consume (n + 1) acc ((name, .switch s none) :: (w.text, .plain) :: ws) =
      g.consume n { acc with values := (s, .word w.text) :: acc.values } ws := by
  have taken : g.takeSwitch acc name s none ((w.text, .plain) :: ws) =
      .ok ({ acc with values := (s, .word w.text) :: acc.values }, ws) := by
    simp [takeSwitch, raise, value, setValue, w.ofWord]
  rw [consume, taken]
  rfl

theorem read_of_consume {words : List String} {given : Given} (many : g.positionals = .many)
    (classified : g.classifyAll words = .ok ws)
    (consumed : g.consume (words.length + 1) {} ws = .ok given) (extras : given.extras = []) :
    g.read words = .ok given := by
  rw [read, classified]
  change (g.consume _ _ _ >>= _) = _
  rw [consumed, many]
  change (if given.extras.isEmpty then _ else _) = _
  rw [extras]
  rfl

end Grammar

namespace UnitDump

inductive Choice
  | file (f : Operand)
  | report (d : Operand)
  | verbose

namespace Choice

def words : Choice → List String
  | .file f => ["--fname", f.text]
  | .report d => ["--report-dir", d.text]
  | .verbose => ["--verbose"]

def file? : Choice → Option String
  | .file f => some f.text
  | _ => none

def report? : Choice → Option String
  | .report d => some d.text
  | _ => none

def isVerbose : Choice → Bool
  | .verbose => true
  | _ => false

def classified : Choice → List (String × Word)
  | .file f => [("--fname", .switch Switches.file none), (f.text, .plain)]
  | .report d => [("--report-dir", .switch Switches.report none), (d.text, .plain)]
  | .verbose => [("--verbose", .switch Switches.verbose none)]

def record (acc : Given) : Choice → Given
  | .file f => { acc with values := (Switches.file, .word f.text) :: acc.values }
  | .report d => { acc with values := (Switches.report, .word d.text) :: acc.values }
  | .verbose => { acc with flags := Switches.verbose :: acc.flags }

variable {acc : Given} {ws : List (String × Word)}

theorem classifyAll_words (c : Choice) {vs : List String}
    (rest : grammar.classifyAll vs = .ok ws) :
    grammar.classifyAll (c.words ++ vs) = .ok (c.classified ++ ws) := by
  cases c with
  | file f =>
    have value := Grammar.classifyAll_cons f.ne_divider (Grammar.classify_operand f) rest
    exact Grammar.classifyAll_cons (by decide) (by decide +kernel) value
  | report d =>
    have value := Grammar.classifyAll_cons d.ne_divider (Grammar.classify_operand d) rest
    exact Grammar.classifyAll_cons (by decide) (by decide +kernel) value
  | verbose => exact Grammar.classifyAll_cons (by decide) (by decide +kernel) rest

theorem consume_classified (c : Choice) (n : Nat) :
    grammar.consume (n + 1) acc (c.classified ++ ws) = grammar.consume n (c.record acc) ws := by
  cases c with
  | file f => exact Grammar.consume_value rfl n f
  | report d => exact Grammar.consume_value rfl n d
  | verbose => exact Grammar.consume_flag rfl n

theorem classifyAll_choices (cs : List Choice) (xs : List String) :
    grammar.classifyAll (cs.flatMap words ++ divider :: xs) =
      .ok (cs.flatMap classified ++ Grammar.afterDivider xs) := by
  induction cs with
  | nil => exact Grammar.classifyAll_divider xs
  | cons c cs ih =>
    rw [List.flatMap_cons, List.flatMap_cons, List.append_assoc, List.append_assoc]
    exact c.classifyAll_words ih

/-- By induction on the switches: each is taken by a step of its own. -/
theorem consume_choices (cs : List Choice) (n : Nat) :
    grammar.consume (cs.length + n) acc (cs.flatMap classified ++ ws) =
      grammar.consume n (cs.foldl record acc) ws := by
  induction cs generalizing acc with
  | nil => simp
  | cons c cs ih =>
    rw [List.flatMap_cons, List.append_assoc, List.length_cons, Nat.succ_add, consume_classified]
    exact ih

theorem exists_length_words (cs : List Choice) (vs : List String) :
    ∃ n, (cs.flatMap words ++ vs).length = cs.length + n := by
  have enough : cs.length ≤ (cs.flatMap words ++ vs).length := by
    induction cs with
    | nil => exact Nat.zero_le _
    | cons c cs ih =>
      have one : 1 ≤ c.words.length := by cases c <;> exact Nat.le_add_left 1 _
      simp only [List.flatMap_cons, List.length_append, List.length_cons] at ih ⊢
      omega
  exact Nat.exists_eq_add_of_le enough

/-- What the switches of a command line come to; the last one counts. -/
structure Recorded (cs : List Choice) (g : Given) : Prop where
  file : g.value? Switches.file = (cs.filterMap file?).getLast?.map .word
  report : g.value? Switches.report = (cs.filterMap report?).getLast?.map .word
  verbose : g.has Switches.verbose = cs.any isVerbose
  positionals : g.positionals = none
  extras : g.extras = []

theorem Recorded.record {cs : List Choice} {g : Given} (h : Recorded cs g) (c : Choice) :
    Recorded (cs ++ [c]) (c.record g) := by
  obtain ⟨file, report, verbose, positionals, extras⟩ := h
  cases c with
  | file f =>
    refine ⟨?_, ?_, ?_, positionals, extras⟩
    · simp [file?, Given.value?, Choice.record]
    · simpa [report?, Given.value?, Choice.record, Switches.file, Switches.report] using report
    · simpa [isVerbose, Given.has, Choice.record] using verbose
  | report d =>
    refine ⟨?_, ?_, ?_, positionals, extras⟩
    · simpa [file?, Given.value?, Choice.record, Switches.file, Switches.report] using file
    · simp [report?, Given.value?, Choice.record]
    · simpa [isVerbose, Given.has, Choice.record] using verbose
  | verbose =>
    refine ⟨?_, ?_, ?_, positionals, extras⟩
    · simpa [file?, Given.value?, Choice.record] using file
    · simpa [report?, Given.value?, Choice.record] using report
    · simp [isVerbose, Given.has, Choice.record]

theorem recorded_foldl (cs : List Choice) : Recorded cs (cs.foldl record {}) := by
  induction cs using List.reverseRecOn with
  | nil => exact ⟨rfl, rfl, rfl, rfl, rfl⟩
  | append_singleton cs c ih =>
    rw [List.foldl_append]
    exact ih.record c

theorem Recorded.ofGiven {cs : List Choice} {g : Given} (h : Recorded cs g) (xs : List String) :
    Options.ofGiven { g with positionals := some xs } = {
      file := .word ((cs.filterMap file?).getLast?.getD "")
      reportDirectory := (cs.filterMap report?).getLast?.map .word
      verbose := cs.any isVerbose
      arguments := xs } := by
  change Options.mk ((g.value? Switches.file).getD (.word "")) (g.value? Switches.report)
    (g.has Switches.verbose) xs = _
  rw [h.file, h.report, h.verbose, Option.getD_map]

end Choice

/-- The words after the divider are passed on as they are, in any number and whatever they look
like. The switches before it may be repeated and stand in any order. -/
theorem arguments_pass_through (cs : List Choice) (xs : List String) :
    Options.read (cs.flatMap Choice.words ++ divider :: xs) = .ok {
      file := .word ((cs.filterMap Choice.file?).getLast?.getD "")
      reportDirectory := (cs.filterMap Choice.report?).getLast?.map .word
      verbose := cs.any Choice.isVerbose
      arguments := xs } := by
  have recorded := Choice.recorded_foldl cs
  have classified := Choice.classifyAll_choices cs xs
  obtain ⟨n, fuel⟩ := Choice.exists_length_words cs (divider :: xs)
  have consumed : grammar.consume ((cs.flatMap Choice.words ++ divider :: xs).length + 1) {}
      (cs.flatMap Choice.classified ++ Grammar.afterDivider xs) =
        .ok { cs.foldl Choice.record {} with positionals := some xs } := by
    rw [fuel, Nat.add_assoc, Choice.consume_choices,
      Grammar.consume_afterDivider rfl recorded.positionals]
  rw [Options.read, Grammar.read_of_consume rfl classified consumed recorded.extras]
  exact congrArg Except.ok (recorded.ofGiven xs)

example :
    Options.read ["--fname", "a", "--verbose", "--fname", "b c", "--", "--", "--help", "", "-x"] =
      .ok { file := .word "b c", verbose := true, arguments := ["--", "--help", "", "-x"] } := by
  decide +kernel

end UnitDump

end ClangIndex.Tool
