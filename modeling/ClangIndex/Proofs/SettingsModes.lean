import ClangIndex.Library.Settings
import ClangIndex.Proofs.FailingRuns

/-!
The two modes of reading the settings. They go together up to the first problem: there the strict
mode ends with it, and the lenient mode warns of it and goes on.
-/

namespace ClangIndex.Library

open Yaml (Datum Document)

namespace Reporting

variable {α β : Type} {m : Reporting α} {f : α → Reporting β} {rs : List Log.Record}

theorem run_bind_ok {a : α} {ss : List Log.Record} (h : m.run rs = (.ok a, ss)) :
    (m >>= f).run rs = (f a).run ss :=
  FailingRun.bind_ok h

theorem run_bind_error {e : Failure} {ss : List Log.Record} (h : m.run rs = (.error e, ss)) :
    (m >>= f).run rs = (.error e, ss) :=
  FailingRun.bind_error h

def Quiet (rs : List Log.Record) : Prop := ∀ r ∈ rs, r.level ≠ .warning

def warning (p : Problem) (remedy : String) : Log.Record :=
  ⟨.warning, Settings.logger, p.message ++ "; " ++ remedy, {}⟩

/-- How a computation goes in strict and in lenient mode, after the same records: the same way
without a warning, or apart from the first problem on. -/
inductive Parting (strict lenient : Reporting α) (rs : List Log.Record) : Prop
  | together (r : Except Failure α) (quiet : List Log.Record) (noWarning : Quiet quiet)
      (foreign : ∀ m, r ≠ .error (.invalidSettings m))
      (strictly : strict.run rs = (r, rs ++ quiet)) (leniently : lenient.run rs = (r, rs ++ quiet))
  | apart (p : Problem) (remedy : String) (quiet later : List Log.Record) (noWarning : Quiet quiet)
      (r : Except Failure α)
      (strictly : strict.run rs = (.error (.invalidSettings p.message), rs ++ quiet))
      (leniently : lenient.run rs = (r, rs ++ (quiet ++ warning p remedy :: later)))

theorem Parting.appends {strict lenient : Reporting α} (h : Parting strict lenient rs) :
    ∃ r more, lenient.run rs = (r, rs ++ more) := by
  cases h with
  | together r quiet _ _ _ leniently => exact ⟨r, quiet, leniently⟩
  | apart p remedy quiet later _ r _ leniently => exact ⟨r, _, leniently⟩

def Parts (m : Bool → Reporting α) : Prop := ∀ rs, Parting (m true) (m false) rs

namespace Parts

protected theorem pure (a : α) : Parts fun _ => (pure a : Reporting α) := fun rs =>
  .together (.ok a) [] (List.forall_mem_nil _) nofun (by rw [List.append_nil]; rfl)
    (by rw [List.append_nil]; rfl)

protected theorem throw {e : Failure} (foreign : ∀ m, e ≠ .invalidSettings m) :
    Parts fun _ => (throw e : Reporting α) := fun rs =>
  .together (.error e) [] (List.forall_mem_nil _) (fun m h => foreign m (Except.error.inj h))
    (by rw [List.append_nil]; rfl) (by rw [List.append_nil]; rfl)

theorem record {level : Log.Level} (quiet : level ≠ .warning) (logger message : String) :
    Parts fun _ => Reporting.record ⟨level, logger, message, {}⟩ := fun _ =>
  .together (.ok ()) _ (List.forall_mem_singleton.mpr quiet) nofun rfl rfl

theorem object (p : Problem) (remedy : String) :
    Parts fun strict => Settings.object strict p remedy := fun rs =>
  .apart p remedy [] [] (List.forall_mem_nil _) (.ok ()) (by rw [List.append_nil]; rfl) rfl

protected theorem bind {m : Bool → Reporting α} {f : Bool → α → Reporting β} (h : Parts m)
    (k : ∀ a, Parts fun strict => f strict a) : Parts fun strict => m strict >>= f strict := by
  intro rs
  cases h rs with
  | together r quiet noWarning foreign strictly leniently =>
    cases r with
    | error e =>
      exact .together (.error e) quiet noWarning (fun m h => foreign m (by rw [Except.error.inj h]))
        (run_bind_error strictly) (run_bind_error leniently)
    | ok a =>
      have strictly := run_bind_ok (f := f true) strictly
      have leniently := run_bind_ok (f := f false) leniently
      cases k a (rs ++ quiet) with
      | together r quiet' noWarning' foreign' strictly' leniently' =>
        refine .together r (quiet ++ quiet') (List.forall_mem_append.mpr ⟨noWarning, noWarning'⟩)
          foreign' ?_ ?_
        · rw [strictly, strictly', List.append_assoc]
        · rw [leniently, leniently', List.append_assoc]
      | apart p remedy quiet' later noWarning' r strictly' leniently' =>
        refine .apart p remedy (quiet ++ quiet') later
          (List.forall_mem_append.mpr ⟨noWarning, noWarning'⟩) r ?_ ?_
        · rw [strictly, strictly', List.append_assoc]
        · rw [leniently, leniently', List.append_assoc, List.append_assoc]
  | apart p remedy quiet later noWarning r strictly leniently =>
    -- The strict mode has ended; the lenient one only adds records to those before.
    cases r with
    | error e =>
      exact .apart p remedy quiet later noWarning (.error e) (run_bind_error strictly)
        (run_bind_error leniently)
    | ok a =>
      obtain ⟨r, more, goesOn⟩ := (k a (rs ++ (quiet ++ warning p remedy :: later))).appends
      refine .apart p remedy quiet (later ++ more) noWarning r (run_bind_error strictly) ?_
      rw [run_bind_ok leniently, goesOn]
      simp

end Parts

end Reporting

namespace Settings

open Reporting (Parts)

theorem failure_ne_invalidSettings (e : Files.PathFault) (m : String) :
    e.failure ≠ .invalidSettings m := by
  cases e <;> nofun

theorem refusal_ne_invalidSettings (r : Yaml.Refusal) (m : String) :
    refusal r ≠ .invalidSettings m := by
  unfold refusal
  split <;> nofun

theorem unshown_ne_invalidSettings (x : Document.Unshown) (m : String) :
    Answer.unshown x ≠ .invalidSettings m := by
  cases x <;> nofun

theorem parts_payload (files : Files.Tree) (path : String) : Parts (payload files path) := by
  have ended (p : Problem) :
      Parts fun strict => object strict p continuing >>= fun _ => pure ({} : Document) :=
    (Parts.object p continuing).bind fun _ => .pure _
  unfold payload
  split
  · exact ended _
  · exact .throw (failure_ne_invalidSettings _)
  · split
    · exact .pure _
    · rename_i f _
      cases f.isOfText with
      | true => exact ended _
      | false => exact .throw (refusal_ne_invalidSettings _)
    · exact .throw (refusal_ne_invalidSettings _)

theorem parts_entries (d : Document) : Parts (entries d) := by
  unfold entries
  split
  · exact .pure _
  · split
    · exact .throw nofun
    · exact .pure _
    · exact (Parts.object _ _).bind fun _ => .pure _
  · exact (Parts.object _ _).bind fun _ => .pure _

theorem parts_nameOf (d : Document) (es : List (Datum × Datum)) (k : Key) :
    Parts fun _ => nameOf d es k := by
  unfold nameOf
  split
  · exact .pure _
  · split
    · exact .pure _
    · split
      · exact .pure _
      · exact .throw nofun

theorem parts_readBool (answer : Answer) (key : String) (fallback : Bool) :
    Parts fun strict => readBool answer key strict fallback := by
  unfold readBool
  split
  · exact .pure _
  · split
    · exact .pure _
    · exact (Parts.object _ _).bind fun _ => .pure _

theorem parts_ofFile (files : Files.Tree) (path : String) : Parts (ofFile files path) := by
  refine (parts_payload files path).bind fun d => (parts_entries d).bind fun es => ?_
  refine (parts_nameOf d es _).bind fun _ => (parts_nameOf d es _).bind fun _ => ?_
  split
  · exact .pure _
  · rename_i v _
    have answered : Parts fun _ => (liftM (Answer.ofDatum d v) : Reporting Answer) := by
      unfold Answer.ofDatum
      split
      · exact .pure _
      · exact .throw (unshown_ne_invalidSettings _)
      · exact .pure _
    exact answered.bind fun _ => (parts_readBool _ _ _).bind fun _ => .pure _

theorem parts_withEnvironment (env : Environment) (s : Settings) :
    Parts fun strict => withEnvironment env strict s := by
  unfold withEnvironment
  split
  · exact .pure _
  · exact (parts_readBool _ _ _).bind fun _ => .pure _

theorem parts_load (env : Environment) (files : Files.Tree) (path : Option String) :
    Parts fun strict => load env files path (some strict) := by
  have rest (s : Settings) : Parts fun strict =>
      withEnvironment env strict s >>= fun s => do
        Reporting.record ⟨.debug, logger, "Resolved library config: " ++ s.shown, {}⟩
        return s :=
    (parts_withEnvironment env s).bind fun _ => (Parts.record (by decide) _ _).bind fun _ => .pure _
  unfold load
  dsimp only [Option.getD_some]
  split
  · exact rest _
  · exact (parts_ofFile files _).bind rest

/-- The strict mode ends in a problem exactly if the lenient one warns, and the first warning says
what the problem is. Without a warning the two modes come to the same. -/
theorem strict_agrees_with_lenient (env : Environment) (files : Files.Tree)
    (path : Option String) :
    let strict := (load env files path (some true)).exec
    let lenient := (load env files path (some false)).exec
    ((∃ m, strict.1 = .error (.invalidSettings m)) ↔ ∃ r ∈ lenient.2, r.level = .warning) ∧
    (∀ m, strict.1 = .error (.invalidSettings m) →
      ∃ r rest, lenient.2.find? (fun r => r.level = .warning) = some r ∧ r.message = m ++ rest) ∧
    ((∀ r ∈ lenient.2, r.level ≠ .warning) → strict = lenient) := by
  dsimp only [Reporting.exec]
  cases parts_load env files path [] with
  | together r quiet noWarning foreign strictly leniently =>
    rw [strictly, leniently]
    refine ⟨iff_of_false (fun ⟨m, e⟩ => foreign m e) fun ⟨r, mem, level⟩ => ?_,
      fun m e => absurd e (foreign m), fun _ => rfl⟩
    exact noWarning r mem level
  | apart p remedy quiet later noWarning r strictly leniently =>
    rw [strictly, leniently, List.nil_append, List.nil_append]
    have warned : Reporting.warning p remedy ∈ quiet ++ Reporting.warning p remedy :: later :=
      List.mem_append_right _ List.mem_cons_self
    refine ⟨iff_of_true ⟨_, rfl⟩ ⟨_, warned, rfl⟩, fun m e => ?_,
      fun none => absurd rfl (none _ warned)⟩
    cases e
    refine ⟨Reporting.warning p remedy, "; " ++ remedy, ?_, String.append_assoc⟩
    have first : quiet.find? (fun r => r.level = .warning) = none :=
      List.find?_eq_none.mpr fun r mem => by simpa using noWarning r mem
    rw [List.find?_append, first]
    rfl

end Settings

end ClangIndex.Library
