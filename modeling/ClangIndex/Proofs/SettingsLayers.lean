import ClangIndex.Proofs.LibraryLoading
import ClangIndex.Proofs.LongNumbers
import ClangIndex.Proofs.SettingsReading

namespace ClangIndex.Library

open Yaml (Datum Document)

namespace Settings

def Spells (s : String) (b : Bool) : Prop := normalWord s ∈ if b then yesWords else noWords

def Says (d : Document) (v : Datum) (b : Bool) : Prop :=
  ∃ s, (v.text? <|> d.literal v) = some s ∧ Spells s b

theorem bool?_eq_some_iff {s : String} {b : Bool} : bool? s = some b ↔ Spells s b := by
  have apart : ∀ w ∈ noWords, w ∉ yesWords := by decide
  by_cases yes : normalWord s ∈ yesWords
  · have no : normalWord s ∉ noWords := fun no => apart _ no yes
    cases b <;> simp [bool?, Spells, yes, no]
  · by_cases no : normalWord s ∈ noWords <;> cases b <;> simp [bool?, Spells, yes, no]

theorem spelled?_eq_some_iff {d : Document} {v : Datum} {b : Bool} :
    spelled? d v = some b ↔ Says d v b := by
  cases v with
  | bool c =>
    have itself : bool? (Text.Literal.ofBool c) = some c := by cases c <;> decide +kernel
    have written : d.literal (.bool c) = some (Text.Literal.ofBool c) := rfl
    simp [Says, spelled?, Datum.text?, written, ← bool?_eq_some_iff, itself]
  | text s =>
    have written : (d.literal (.text s)).isSome := rfl
    obtain ⟨w, written⟩ := Option.isSome_iff_exists.mp written
    simp [Says, spelled?, Datum.text?, written, bool?_eq_some_iff]
  | _ => simp [Says, spelled?, Datum.text?, Option.bind_eq_some_iff, bool?_eq_some_iff]

/-- The first of several layers that says a yes or a no decides. If none does, it is a yes. -/
inductive Decides : List (Bool → Prop) → Bool → Prop
  | unsaid : Decides [] true
  | said {layer : Bool → Prop} {b : Bool} (h : layer b) (later : List (Bool → Prop)) :
      Decides (layer :: later) b
  | silent {layer : Bool → Prop} {b : Bool} {later : List (Bool → Prop)} (h : ∀ c, ¬layer c)
      (decided : Decides later b) : Decides (layer :: later) b

theorem Decides.getD {layer : Bool → Prop} {answer : Option Bool} {b : Bool}
    {later : List (Bool → Prop)} (answers : ∀ c, answer = some c ↔ layer c)
    (decided : Decides later b) : Decides (layer :: later) (answer.getD b) := by
  cases answer with
  | none => exact .silent (fun c said => nomatch (answers c).mpr said) decided
  | some c => exact .said ((answers c).mp rfl) later

def TextUnder (d : Document) (k : Key) : Prop :=
  ∀ v, under? d k = some v → d.truthy v = true → v.text?.isSome

/-- A document whose keys are texts, like the file and the path in it. -/
structure Textual (d : Document) : Prop where
  keyed : Keyed d
  file : TextUnder d .libraryFile
  path : TextUnder d .libraryPath

theorem TextUnder.named {d : Document} {k : Key} (h : TextUnder d k) : Named d k := by
  intro v e truthy
  have text := h v e truthy
  cases v with
  | text s => exact text
  | _ => cases text

theorem TextUnder.name?_eq {d : Document} {k : Key} (h : TextUnder d k) :
    name? d k = (nonEmpty ((under? d k).bind Datum.text?)).map .text := by
  unfold name?
  cases e : under? d k with
  | none => rfl
  | some v =>
    have text := h v e
    cases v with
    | text s => cases s <;> simp [Document.truthy, named?, Datum.text?, nonEmpty, Option.filter]
    | _ =>
      simp only [Option.bind_some]
      split
      · cases text ‹_›
      · rfl

/-- Settings taken from their layers: what was set goes before the environment, and the environment
before the document. Of texts the first that is not empty is taken. -/
structure Layered (env : Environment) (l : Loader) (d : Document) (r : Settings) : Prop where
  file : r.libraryFile = (first? [l.libraryFile, lookup Variable.libraryFile env,
    (under? d .libraryFile).bind Datum.text?]).map .text
  path : r.libraryPath = (first? [l.libraryPath, lookup Variable.libraryPath env,
    (under? d .libraryPath).bind Datum.text?]).map .text
  check : Decides [(l.compatibilityCheck = some ·),
    fun b => ∃ s, lookup Variable.compatibilityCheck env = some s ∧ Spells s b,
    fun b => ∃ v, under? d .compatibilityCheck = some v ∧ Says d v b] r.compatibilityCheck

theorem map_first?_cons (a : Option String) (xs : List (Option String)) :
    (first? (a :: xs)).map Name.text = preferred a ((first? xs).map .text) := by
  rw [first?_cons, preferred]
  cases nonEmpty a <;> rfl

theorem layered_override (env : Environment) (l : Loader) {d : Document} (textual : Textual d) :
    Layered env l d (l.override (underEnvironment env (ofDocument d))) where
  file := by
    rw [map_first?_cons, map_first?_cons, first?_singleton, ← textual.file.name?_eq]
    rfl
  path := by
    rw [map_first?_cons, map_first?_cons, first?_singleton, ← textual.path.name?_eq]
    rfl
  check := by
    refine .getD (fun _ => .rfl) (.getD (fun b => ?_) (.getD (fun b => ?_) .unsaid))
    · simp only [Option.bind_eq_some_iff, bool?_eq_some_iff]
    · simp only [check?, Option.bind_eq_some_iff, spelled?_eq_some_iff]

end Settings

namespace Loader

open Settings (InForce Textual Layered Shown)

variable {s : Surroundings} {d : Document}

theorem exec_settings_of_lenient (lenient : Settings.strictIn? s.environment ≠ some true)
    (l : Loader) : (exec settings s l).1 =
      (Settings.load s.environment s.machine.files none (some false)).exec.1.map l.override := by
  have mode : (Settings.strictIn? s.environment).getD false = false := by
    cases e : Settings.strictIn? s.environment with
    | none => rfl
    | some strict =>
      cases strict with
      | false => rfl
      | true => exact absurd e lenient
  have loads : Settings.load s.environment s.machine.files none none =
      Settings.load s.environment s.machine.files none (some false) := by
    rw [← mode]
    rfl
  obtain ⟨records, read⟩ := exec_settings s l
  rw [read, Surroundings.settingsOver, loads]

theorem settings_of_shown (lenient : Settings.strictIn? s.environment ≠ some true)
    (inForce : InForce s.environment s.machine.files none d) (textual : Textual d)
    (shown : Shown d) (l : Loader) :
    ∃ r, (exec settings s l).1 = .ok r ∧ Layered s.environment l d r := by
  have usable : Settings.Usable d :=
    ⟨textual.keyed, textual.file.named, textual.path.named, shown⟩
  have loaded := (Settings.yields_load inForce usable).exec
  refine ⟨_, ?_, Settings.layered_override s.environment l textual⟩
  rw [exec_settings_of_lenient lenient, loaded]
  rfl

theorem settings_of_unshown {x : Document.Unshown}
    (lenient : Settings.strictIn? s.environment ≠ some true)
    (inForce : InForce s.environment s.machine.files none d) (textual : Textual d)
    (unshown : Settings.CheckUnshown d x) (l : Loader) :
    (exec settings s l).1 = .error (Settings.Answer.unshown x) := by
  have failed := (Settings.yields_load_unshown inForce textual.keyed textual.file.named
    textual.path.named unshown).exec
  rw [exec_settings_of_lenient lenient, failed]
  rfl

/-- In lenient mode the settings are taken from their layers, field by field. Only a compatibility
check in the file that cannot be written out prevents that: it is an error, whatever the other
layers say. -/
theorem settings_layered (l : Loader) (lenient : Settings.strictIn? s.environment ≠ some true)
    (inForce : InForce s.environment s.machine.files none d) (textual : Textual d) :
    (Shown d → ∃ r, (exec settings s l).1 = .ok r ∧ Layered s.environment l d r) ∧
      (¬Shown d → ∃ x, Settings.CheckUnshown d x ∧
        (exec settings s l).1 = .error (Settings.Answer.unshown x)) := by
  refine ⟨fun shown => settings_of_shown lenient inForce textual shown l, fun unshown => ?_⟩
  obtain ⟨x, unshown⟩ := Settings.exists_unshown unshown
  exact ⟨x, unshown, settings_of_unshown lenient inForce textual unshown l⟩

def halfWritten : Text.Bytes :=
  Text.utf8 "library_file: a.so\nlibrary_path:\ncompatibility_check: off\n"

def halfSet : Surroundings where
  machine.files.entries := [(["c.yml".toList], .file halfWritten)]
  environment := [(Variable.config, "c.yml"), (Variable.libraryFile, ""),
    (Variable.libraryPath, "lib"), (Variable.compatibilityCheck, "perhaps")]

def halfSaid : Document where
  root := .map 0
  contents := [(0, .entries [
    (.text (Yaml.codes "library_file".toList), .text (Yaml.codes "a.so".toList)),
    (.text (Yaml.codes "library_path".toList), .null),
    (.text (Yaml.codes "compatibility_check".toList), .bool false)])]

theorem settings_layered_halfSet :
    Settings.strictIn? halfSet.environment ≠ some true ∧
      InForce halfSet.environment halfSet.machine.files none halfSaid ∧ Textual halfSaid ∧
      Shown halfSaid ∧
      Layered halfSet.environment {} halfSaid
        { libraryFile := "a.so", libraryPath := "lib", compatibilityCheck := false } := by
  have ok {ε α : Type} {r : Except ε α} {a : α} (h : r.toOption = some a) : r = .ok a := by
    cases r with
    | error e => cases h
    | ok b => exact congrArg _ (Option.some.inj h)
  have lenient : Settings.strictIn? halfSet.environment ≠ some true := by decide +kernel
  have inForce : InForce halfSet.environment halfSet.machine.files none halfSaid :=
    show Settings.FileGives halfSet.machine.files "c.yml" halfSaid from
      .document (b := halfWritten) (ok (by decide +kernel)) (ok (by decide +kernel))
  have textual : Textual halfSaid := by
    refine ⟨show ∀ e ∈ Settings.listed halfSaid, _ by decide +kernel, fun v e _ => ?_,
      fun v e truthy => ?_⟩
    · cases e
      rfl
    · cases e
      cases truthy
  have shown : Shown halfSaid := by
    intro v e
    cases e
    rfl
  obtain ⟨r, given, layered⟩ := (settings_layered {} lenient inForce textual).1 shown
  have computed : (exec settings halfSet {}).1.toOption =
      some { libraryFile := "a.so", libraryPath := "lib", compatibilityCheck := false } := by
    decide +kernel
  rw [given] at computed
  cases computed
  exact ⟨lenient, inForce, textual, shown, layered⟩

def checkName : List Char := "compatibility_check".toList

def overlong (n : Nat) : Surroundings where
  machine.files.entries := [(["c.yml".toList],
    .file (Text.Utf8.encode (Yaml.entryLine checkName (Yaml.allOnes n))))]
  environment := [(Variable.config, "c.yml")]

def overlongSaid (n : Nat) : Document where
  root := .map 0
  contents := [(0, .entries [(.text (Yaml.codes checkName), .int (16 ^ n - 1 : Nat))])]

theorem inForce_overlong {n : Nat} (short : n < 4000) :
    InForce (overlong (n + 1)).environment (overlong (n + 1)).machine.files none
      (overlongSaid (n + 1)) := by
  have all : checkName.all Yaml.Scan.isNameChar = true := by decide +kernel
  have key : Yaml.IsWord checkName := ⟨⟨'c', _, rfl, by decide⟩, List.all_eq_true.mp all⟩
  have value := Yaml.isWord_allOnes (n + 1)
  have named : Datum.ofScalar (Yaml.ScalarType.ofPlain checkName) checkName =
      .ok (.text (Yaml.codes checkName)) := by
    rw [show Yaml.ScalarType.ofPlain checkName = .text by decide +kernel]
    rfl
  have length : (Yaml.entryLine checkName (Yaml.allOnes (n + 1))).length <
      Yaml.Reader.pieceLength := by
    have name : checkName.length = 19 := by decide
    simp only [Yaml.entryLine, Yaml.allOnes, List.length_append, List.length_cons,
      List.length_replicate, List.length_nil, name]
    exact Nat.lt_of_le_of_lt (by omega : _ ≤ 4025) (by decide)
  have read : Document.ofSource (.ofBytes (Text.Utf8.encode
      (Yaml.entryLine checkName (Yaml.allOnes (n + 1))))) = .ok (overlongSaid (n + 1)) := by
    rw [Yaml.Source.ofBytes_entryLine key value length]
    exact Document.ofSource_entryLine key value (by decide) named (Yaml.ofScalar_allOnes n) rfl
  show Settings.FileGives (overlong (n + 1)).machine.files "c.yml" _
  exact .document rfl read

theorem textual_overlongSaid (n : Nat) : Textual (overlongSaid n) := by
  refine ⟨?_, fun v e => ?_, fun v e => ?_⟩
  · exact List.forall_mem_singleton.mpr rfl
  · cases e
  · cases e

theorem unshown_overlongSaid {n : Nat} (long : 10 ^ Number.mostDigits ≤ 16 ^ n - 1) :
    Settings.CheckUnshown (overlongSaid n) .manyDigits := by
  have unwritten : Number.writeInteger? (16 ^ n - 1 : Nat) = none := by
    rw [Number.writeInteger?_eq, Int.natAbs_natCast, if_neg (Nat.not_lt.mpr long)]
  refine ⟨.int (16 ^ n - 1 : Nat), rfl, ?_⟩
  change (Number.writeInteger? (16 ^ n - 1 : Nat)).elim _ _ = _
  rw [unwritten]
  rfl

/-- With a number of 4302 digits in the file there are no settings at all, whatever else is set. -/
theorem settings_hidden_overlong :
    Settings.strictIn? (overlong 3572).environment ≠ some true ∧
      InForce (overlong 3572).environment (overlong 3572).machine.files none (overlongSaid 3572) ∧
      Textual (overlongSaid 3572) ∧ ∀ l r, (exec settings (overlong 3572) l).1 ≠ .ok r := by
  have lenient : Settings.strictIn? (overlong 3572).environment ≠ some true := nofun
  have inForce := inForce_overlong (n := 3571) (by decide)
  have textual := textual_overlongSaid 3572
  have unshown := unshown_overlongSaid (n := 3572) (by decide +kernel)
  refine ⟨lenient, inForce, textual, fun l r given => ?_⟩
  cases (settings_of_unshown lenient inForce textual unshown l).symm.trans given

end Loader

end ClangIndex.Library
