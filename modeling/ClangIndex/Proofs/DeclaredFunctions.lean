import ClangIndex.Library.Registration
import Mathlib.Data.List.TakeWhile

namespace ClangIndex.Library

variable {T C α : Type}

def Declaration.last? (part : Declaration T C → Option α) (name : String)
    (table : List (Declaration T C)) : Option α :=
  ((table.filter fun d => d.name = name).filterMap part).getLast?

theorem Declaration.last?_cons (part : Declaration T C → Option α) (name : String)
    (d : Declaration T C) (table : List (Declaration T C)) :
    last? part name (d :: table) =
      (last? part name table <|> if d.name = name then part d else none) := by
  by_cases same : d.name = name
  · cases given : part d <;> simp [last?, same, given, List.getLast?_cons]
  · simp [last?, same]

theorem Declaration.last?_filter (has : String → Bool) (part : Declaration T C → Option α)
    (name : String) (table : List (Declaration T C)) :
    last? part name (table.filter fun d => has d.name) =
      if has name then last? part name table else none := by
  induction table with
  | nil => simp [last?]
  | cons d table ih =>
    rw [last?_cons]
    by_cases same : d.name = name
    · subst same
      cases there : has d.name <;> simp_all [last?_cons]
    · cases there : has d.name <;> simp [there, ih, last?_cons, same]

namespace Prototype

def given (name : String) (table : List (Declaration T C)) (p : Prototype T C) :
    Prototype T C where
  parameters := Declaration.last? (·.parameters) name table <|> p.parameters
  result := Declaration.last? (·.result) name table <|> p.result
  check := Declaration.last? (·.check) name table <|> p.check

@[simp]
theorem given_nil (name : String) (p : Prototype T C) : p.given name [] = p := rfl

theorem given_cons (name : String) (d : Declaration T C) (table : List (Declaration T C))
    (p : Prototype T C) :
    p.given name (d :: table) = (if d.name = name then p.update d else p).given name table := by
  by_cases same : d.name = name <;>
    simp [given, update, Declaration.last?_cons, same, Option.or_assoc]

end Prototype

theorem Prototype.given_filter (has : String → Bool) (name : String)
    (table : List (Declaration T C)) (p : Prototype T C) :
    p.given name (table.filter fun d => has d.name) =
      if has name then p.given name table else p := by
  cases there : has name <;> simp [given, Declaration.last?_filter, there]

namespace Prototypes

theorem of_declare (d : Declaration T C) (ps : Prototypes T C) (name : String) :
    (ps.declare d).of name = if d.name = name then (ps.of name).update d else ps.of name := by
  by_cases same : d.name = name
  · subst same
    simp [declare, of, lookup_assign_self]
  · simp [declare, of, lookup_assign_other (Ne.symm same), same]

def declareAll (table : List (Declaration T C)) (ps : Prototypes T C) : Prototypes T C :=
  table.foldl (fun ps d => ps.declare d) ps

theorem of_declareAll (table : List (Declaration T C)) (ps : Prototypes T C) (name : String) :
    (ps.declareAll table).of name = (ps.of name).given name table := by
  induction table generalizing ps with
  | nil => rfl
  | cons d table ih =>
    rw [declareAll, List.foldl_cons, Prototype.given_cons, ← of_declare]
    exact ih (ps.declare d)

end Prototypes

namespace Registration

variable (has : String → Bool)

def applied (lenient : Bool) (table : List (Declaration T C)) : List (Declaration T C) :=
  if lenient then table.filter fun d => has d.name else table.takeWhile fun d => has d.name

theorem foldl_ended (lenient : Bool) (table : List (Declaration T C)) {r : Registration T C}
    {name : String} (ended : r.missing = some name) : table.foldl (step has lenient) r = r := by
  induction table with
  | nil => rfl
  | cons d table ih =>
    have same : step has lenient r d = r := by simp [step, ended]
    rwa [List.foldl_cons, same]

theorem foldl_going (lenient : Bool) (table : List (Declaration T C)) {r : Registration T C}
    (going : r.missing = none) :
    table.foldl (step has lenient) r = {
      prototypes := r.prototypes.declareAll (applied has lenient table)
      count := r.count + (applied has lenient table).length
      skipped := r.skipped ++
        if lenient then (table.filter fun d => !has d.name).map (·.name) else []
      missing := if lenient then none else (table.find? fun d => !has d.name).map (·.name) } := by
  induction table generalizing r with
  | nil => cases lenient <;> simp [applied, Prototypes.declareAll, ← going]
  | cons d table ih =>
    rw [List.foldl_cons]
    cases there : has d.name with
    | true =>
      rw [ih (by simp [step, going, there])]
      cases lenient <;> simp [step, applied, Prototypes.declareAll, going, there] <;> omega
    | false =>
      cases lenient with
      | true =>
        rw [ih (by simp [step, going, there])]
        simp [step, applied, going, there]
      | false =>
        have ended : (step has false r d).missing = some d.name := by simp [step, going, there]
        rw [foldl_ended has false table ended]
        simp [step, applied, Prototypes.declareAll, going, there]

theorem ofTable_eq (lenient : Bool) (table : List (Declaration T C)) (before : Prototypes T C) :
    ofTable has lenient table before = {
      prototypes := before.declareAll (applied has lenient table)
      count := (applied has lenient table).length
      skipped := if lenient then (table.filter fun d => !has d.name).map (·.name) else []
      missing := if lenient then none else (table.find? fun d => !has d.name).map (·.name) } := by
  simpa [ofTable] using foldl_going has lenient table (r := { prototypes := before }) rfl

theorem outcome_of_missing_none {r : Registration T C} (whole : r.missing = none)
    (library : String) : r.outcome library = .ok r.count := by
  simp [outcome, failure?, whole]

/-- A registration that skips what is missing gives the number of entries whose symbol is there, and
leaves each function with what the last entry for it says in each part. One that does not skip is the
same where nothing is missing. Else it fails at the first symbol that is, and what was declared is
what the entries before it say. -/
theorem ofTable_declares (library : String) (table : List (Declaration T C))
    (before : Prototypes T C) :
    let lenient := ofTable has true table before
    let strict := ofTable has false table before
    lenient.outcome library = .ok (table.countP fun d => has d.name) ∧
      (∀ name, lenient.prototypes.of name =
        if has name then (before.of name).given name table else before.of name) ∧
      match table.find? fun d => !has d.name with
      | none => strict = lenient
      | some d =>
        (∃ e, strict.outcome library = .error e ∧ e.class? = some .library ∧
          e.message? = some (library ++ ": undefined symbol: " ++ d.name ++
            ". Please ensure that the bindings are compatible with your libclang version.")) ∧
        ∀ name, strict.prototypes.of name =
          (before.of name).given name (table.takeWhile fun d => has d.name) := by
  intro lenient strict
  have loose := ofTable_eq has true table before
  have tight := ofTable_eq has false table before
  refine ⟨?_, fun name => ?_, ?_⟩
  · have whole : lenient.missing = none := by simp [lenient, loose]
    rw [outcome_of_missing_none whole]
    simp [lenient, loose, applied, List.countP_eq_length_filter]
  · simp [lenient, loose, Prototypes.of_declareAll, applied, Prototype.given_filter]
  · cases first : table.find? fun d => !has d.name with
    | none =>
      have all : ∀ d ∈ table, has d.name = true := by simpa using first
      have skips : applied has true table = table := List.filter_eq_self.mpr all
      have stops : applied has false table = table := List.takeWhile_eq_self_iff.mpr all
      have nothing : table.filter (fun d => !has d.name) = [] := by simpa using all
      simp [strict, lenient, loose, tight, first, skips, stops, nothing]
    | some d =>
      refine ⟨⟨.symbolMissing (library ++ ": undefined symbol: " ++ d.name), ?_, rfl, ?_⟩, ?_⟩
      · simp [strict, tight, outcome, failure?, first]
      · simp [Failure.message?, String.append_assoc]
      · intro name
        simp [strict, tight, applied, Prototypes.of_declareAll]

example :
    let table : List (Declaration String String) :=
      [⟨"a", some ["int"], some (some "int"), none⟩, ⟨"b", some [], none, none⟩,
        ⟨"a", some [], none, some "checked"⟩]
    (ofTable (· ≠ "b") false table).prototypes = [("a", ⟨["int"], some (some "int"), none⟩)] ∧
      (ofTable (· ≠ "b") true table).prototypes =
        [("a", ⟨some [], some (some "int"), some "checked"⟩)] := by
  decide

end Registration

end ClangIndex.Library
