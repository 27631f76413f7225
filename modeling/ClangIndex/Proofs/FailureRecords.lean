import ClangIndex.Proofs.FailureCodes

namespace ClangIndex

open Native (Function Side)
open Marshal (UnsavedFile)
open Binding (Consults)

def Fails {α : Type} (c : ErrorClass) (r : Except Failure α) : Prop :=
  ∃ e, r = .error e ∧ e.class? = some c

def Warned (written : List Log.Record) : Prop := ∃ r ∈ written, r.level = .warning

section

variable {α β : Type} {c : ErrorClass} {e : Failure}

theorem fails_error_iff : Fails c (.error e : Except Failure α) ↔ e.class? = some c :=
  ⟨fun ⟨_, same, cls⟩ => by cases same; exact cls, fun cls => ⟨e, rfl, cls⟩⟩

theorem fails_map_iff {g : α → β} {r : Except Failure α} : Fails c (r.map g) ↔ Fails c r := by
  cases r with
  | ok a => exact iff_of_false (fun ⟨_, same, _⟩ => nomatch same) (fun ⟨_, same, _⟩ => nomatch same)
  | error e => exact fails_error_iff.trans fails_error_iff.symm

theorem not_fails_of_plain (reports : c.reports = true) (plain : e.reports = false) :
    ¬Fails c (.error e : Except Failure α) := by
  intro fails
  simp [Failure.reports, fails_error_iff.mp fails, reports] at plain

end

namespace Binding

variable {α β : Type} {p : Function → Prop} {c : ErrorClass} {warned : Prop} {m : Binding α}
  {g : α → Binding β}

/-- An operation that writes a warning just when it ends in an error of a class, where such errors
are warned of. -/
def Warns (c : ErrorClass) (warned : Prop) (m : Binding α) : Prop :=
  ∀ side w, ∃ written, (m.exec side w).2.records = written ++ w.records ∧
    (Warned written ↔ Fails c (m.exec side w).1 ∧ warned)

namespace Warns

theorem of_consults (reports : c.reports = true) (h : Consults p m) : Warns c warned m := by
  refine fun side w => ⟨[], h.records side w, iff_of_false (by simp [Warned]) ?_⟩
  rintro ⟨⟨e, failed, cls⟩, -⟩
  exact not_fails_of_plain (α := α) reports (h.plain side w e failed) ⟨e, rfl, cls⟩

theorem afterResult (reports : c.reports = true) (h : Consults p m)
    (k : ∀ a side w v, m.exec side w = (.ok a, v) → Warns c warned (g a)) :
    Warns c warned (m >>= g) := by
  intro side w
  have same := h.records side w
  cases e : m.exec side w with
  | mk r v =>
    rw [e] at same
    dsimp only at same
    cases r with
    | ok a =>
      rw [exec_bind_ok e, ← same]
      exact k a side w v e side v
    | error x =>
      have plain := h.plain side w x (congrArg Prod.fst e)
      rw [exec_bind_error e]
      exact ⟨[], same, iff_of_false (by simp [Warned]) fun fails =>
        not_fails_of_plain reports plain fails.1⟩

theorem after (reports : c.reports = true) (h : Consults p m) (k : ∀ a, Warns c warned (g a)) :
    Warns c warned (m >>= g) := afterResult reports h fun a _ _ _ _ => k a

theorem noting {level : Log.Level} {logger message : String} {g : Unit → Binding β}
    (other : level ≠ .warning) (k : Warns c warned (g ())) :
    Warns c warned (log level logger message >>= g) := by
  intro side w
  obtain ⟨written, records, warns⟩ :=
    k side { w with records := ⟨level, logger, message, w.context⟩ :: w.records }
  refine ⟨written ++ [⟨level, logger, message, w.context⟩], records.trans (by simp), ?_⟩
  exact Iff.trans (by simp [Warned, other]) warns

theorem notingLazily {level : Log.Level} {logger : String} {message : Binding String}
    {g : Unit → Binding β} (other : level ≠ .warning) (h : Consults p message)
    (k : Warns c warned (g ())) : Warns c warned (logLazily level logger message >>= g) := by
  intro side w
  have same := h.records side w
  have tried : (attempt message).exec side w =
    (.ok (message.exec side w).1, (message.exec side w).2) := rfl
  rw [logLazily, bind_assoc, exec_bind_ok tried, ← same]
  cases (message.exec side w).1 with
  | ok s => exact noting other k side _
  | error e => exact k side _

theorem warning {logger message : String} {e : Failure} (cls : e.class? = some c) :
    Warns c True (log .warning logger message >>= fun _ => throw e : Binding α) := fun _ w =>
  ⟨[⟨.warning, logger, message, w.context⟩], rfl,
    iff_of_true ⟨_, List.mem_singleton_self _, rfl⟩ ⟨⟨e, rfl, cls⟩, trivial⟩⟩

theorem unnoted (e : Failure) : Warns c False (throw e : Binding α) := fun _ _ =>
  ⟨[], rfl, iff_of_false (by simp [Warned]) And.right⟩

theorem map {g : α → β} (h : Warns c warned m) : Warns c warned (g <$> m) := by
  intro side w
  obtain ⟨written, records, warns⟩ := h side w
  have ends : ((g <$> m).exec side w) = ((m.exec side w).1.map g, (m.exec side w).2) := by
    cases e : m.exec side w with
    | mk r v =>
      cases r with
      | ok a => exact exec_bind_ok e
      | error x => exact exec_bind_error e
  rw [ends]
  exact ⟨written, records, warns.trans (by rw [fails_map_iff])⟩

theorem ite {q : Prop} [Decidable q] {n : Binding α} (h : Warns c warned m)
    (k : Warns c warned n) : Warns c warned (if q then m else n) := by
  split
  · exact h
  · exact k

end Warns

end Binding

open Binding (Warns)

abbrev Binding.Looks {α : Type} (m : Binding α) : Prop := Consults (fun _ => True) m

open Binding (Looks)

theorem Value.looks_toPath (v : Value) : Looks (liftM v.toPath : Binding Value) := by
  refine Consults.lift fun e h => ?_
  unfold toPath at h
  split at h <;> cases h
  rfl

theorem Value.looks_toInteger (v : Value) : Looks (liftM v.toInteger : Binding Int) :=
  Consults.lift fun _ => plain_of_toInteger

theorem Value.looks_str (v : Value) : Looks v.str := v.discreet_str.mono fun _ _ => trivial

theorem Marshal.UnsavedFile.looks_ofValue (files : Value) : Looks (ofValue files) :=
  (discreet_ofValue files).mono fun _ _ => trivial

namespace TranslationUnit

theorem looks_optionsOr {preferred : Binding Int} (h : Looks preferred) (options : Value) :
    Looks (optionsOr preferred options) := by
  cases options with
  | none => exact h.bind fun _ => .pure _
  | _ => exact .pure _

theorem warns_ofHandle {index : Handle} {failed : Failure} (cls : failed.class? = some .unitLoad)
    (logger record : String) (s : Option Symbol) :
    Warns .unitLoad True (ofHandle index failed (Binding.log .warning logger record) s) := by
  cases s with
  | none => exact .warning cls
  | some s => exact .of_consults rfl (Consults.create : Looks _)

theorem warns_reparse (u : Handle) (files options : Value) :
    Warns .unitReparse True (reparse u files options) := by
  refine .after rfl (UnsavedFile.looks_ofValue files) fun files => ?_
  refine .after rfl (looks_optionsOr (Consults.number trivial) options) fun options => ?_
  refine .after rfl (Consults.text trivial : Looks (spelling u)) fun _ => .noting nofun ?_
  refine .after rfl options.looks_toInteger fun _ => ?_
  refine .after rfl (Consults.number trivial : Looks _) fun _ => ?_
  exact .ite (.warning rfl) (.of_consults rfl (Consults.pure _ : Looks _))

theorem warns_save (u : Handle) (filename options : Value) :
    Warns .unitSave True (save u filename options) := by
  refine .after rfl (looks_optionsOr (Consults.number trivial) options) fun options => ?_
  refine .after rfl filename.looks_toPath fun path => ?_
  refine .after rfl path.looks_str fun _ => .noting nofun ?_
  refine .after rfl options.looks_toInteger fun _ => ?_
  refine .after rfl (Consults.number trivial : Looks _) fun _ => ?_
  refine .ite ?_ (.of_consults rfl (Consults.pure _ : Looks _))
  exact .after rfl (Consults.require _ _ : Looks _) fun _ => .warning rfl

end TranslationUnit

namespace Index

variable (h : Handle) (path arguments files options : Value)

theorem looks_argv : Looks (Marshal.argv arguments) :=
  (Marshal.discreet_argv arguments).mono fun _ _ => trivial

theorem exists_str_of_handle {f : Function} {path : Value} {others : List Actual}
    {types : List Native.CType} {keeps : f.releases = false} {side : Side} {v w : World}
    {s : Option Symbol}
    (called : (f.handle (.value (.handle h) :: .value path :: others) keeps).exec side w = (.ok s, v))
    (typed : f.inputs = .wrapper .index :: .text :: types) : ∃ t, path.str = pure t := by
  obtain ⟨x, u, invoked, -⟩ := Binding.exec_bind_cases called
  obtain ⟨arguments, converted⟩ := Function.converted_of_invoke invoked
  rw [typed] at converted
  obtain ⟨as, passed, -⟩ := Option.bind_eq_some_iff.mp converted
  obtain ⟨a, text, -⟩ := Option.bind_eq_some_iff.mp passed
  obtain ⟨t, isText, -⟩ := Option.map_eq_some_iff.mp text
  exact Value.exists_str_of_cText (Option.isSome_of_eq_some isText)

theorem warns_parse : Warns .unitLoad True (parse h path arguments files options) := by
  refine .after rfl (looks_argv arguments) fun _ => ?_
  refine .after rfl (UnsavedFile.looks_ofValue files) fun _ => ?_
  refine .notingLazily nofun (path.looks_str.bind fun _ => .pure _) ?_
  refine .after rfl options.looks_toInteger fun _ => ?_
  refine .afterResult rfl (Consults.handle trivial : Looks _) fun s side w v called => ?_
  obtain ⟨t, shown⟩ := exists_str_of_handle h called rfl
  rw [shown]
  exact TranslationUnit.warns_ofHandle rfl _ _ s

theorem warns_readUnit : Warns .unitLoad True (readUnit h path) := by
  refine .after rfl path.looks_toPath fun path => ?_
  refine .after rfl path.looks_str fun _ => .noting nofun ?_
  exact .after rfl (Consults.handle trivial : Looks _) fun _ =>
    TranslationUnit.warns_ofHandle rfl _ _ _

theorem warns_createUnit : Warns .unitLoad True (createUnit h path arguments files) := by
  refine .after rfl (looks_argv arguments) fun _ => ?_
  refine .after rfl (UnsavedFile.looks_ofValue files) fun _ => ?_
  refine .notingLazily nofun (path.looks_str.bind fun _ => .pure _) ?_
  refine .afterResult rfl (Consults.handle trivial : Looks _) fun s side w v called => ?_
  obtain ⟨t, shown⟩ := exists_str_of_handle h called rfl
  rw [shown]
  exact TranslationUnit.warns_ofHandle rfl _ _ s

end Index

theorem File.warns_uniqueId (f : Handle) : Warns .fileUniqueID True (uniqueId f) := by
  refine .after rfl (Consults.invoke trivial : Looks _) fun _ => ?_
  refine .ite ?_ (.of_consults rfl (Consults.pure _ : Looks _))
  exact .after rfl (Consults.text trivial : Looks (name f)) fun _ => .warning rfl

theorem CompilationDatabase.warns_fromDirectory (directory : Value) :
    Warns .database True (fromDirectory directory) := by
  refine .after rfl directory.looks_toPath fun path => ?_
  refine .after rfl path.looks_str fun _ => .noting nofun ?_
  refine .after rfl (Consults.invoke trivial : Looks _) fun _ => ?_
  refine .after rfl (Consults.require _ _ : Looks _) fun _ => ?_
  refine .ite (.of_consults rfl (Consults.create : Looks _)) ?_
  -- A database that came with the code is given back before the warning.
  have given (a : Native.Argument) :
      Looks (discard (Function.compilationDatabaseDispose.invokeBare a)) :=
    (Consults.invokeBare trivial).map
  dsimp only
  split
  · exact .after rfl (given _) fun _ => .warning rfl
  · exact .warning rfl

namespace Layout

theorem warns_check (n : Int) : Warns .typeLayout False (check n) := by
  refine .ite ?_ (.of_consults rfl (Consults.pure _ : Looks _))
  exact .after rfl (Consults.require _ _ : Looks _) fun _ => .noting nofun (.unnoted _)

theorem warns_run (q : Query) : Warns .typeLayout False q.run := by
  cases q with
  | sizeOf t => exact .after rfl (Consults.number trivial : Looks _) warns_check
  | alignOf t => exact .after rfl (Consults.number trivial : Looks _) warns_check
  | offsetOf t field => exact .after rfl (Consults.number trivial : Looks _) warns_check
  | offsetOfField c =>
    refine .after rfl (Consults.number trivial : Looks _) fun n => ?_
    refine .ite ?_ (.of_consults rfl (Consults.pure _ : Looks _))
    exact .after rfl (Consults.require _ _ : Looks _) fun _ => .unnoted _

end Layout

/-- What ends in an error of a class of its own where the native side reports a failure. -/
inductive Fallible
  | parse (index : Handle) (path arguments files options : Value)
  | readUnit (index : Handle) (file : Value)
  | createUnit (index : Handle) (filename arguments files : Value)
  | coded (o : Coded)

namespace Fallible

def run : Fallible → Binding Value
  | .parse h path arguments files options =>
    Value.handle <$> Index.parse h path arguments files options
  | .readUnit h file => Value.handle <$> Index.readUnit h file
  | .createUnit h filename arguments files =>
    Value.handle <$> Index.createUnit h filename arguments files
  | .coded o => o.run

def errorClass : Fallible → ErrorClass
  | .parse .. | .readUnit .. | .createUnit .. => .unitLoad
  | .coded o => o.errorClass

def IsLayout : Fallible → Prop
  | .coded (.layout _) => True
  | _ => False

theorem warns_of_not_layout (o : Fallible) (other : ¬o.IsLayout) :
    Warns o.errorClass True o.run := by
  cases o with
  | parse h path arguments files options =>
    exact .map (Index.warns_parse h path arguments files options)
  | readUnit h file => exact .map (Index.warns_readUnit h file)
  | createUnit h filename arguments files =>
    exact .map (Index.warns_createUnit h filename arguments files)
  | coded o =>
    cases o with
    | save u filename options => exact .map (TranslationUnit.warns_save u filename options)
    | reparse u files options => exact .map (TranslationUnit.warns_reparse u files options)
    | uniqueId f => exact File.warns_uniqueId f
    | layout q => exact absurd trivial other
    | database directory => exact .map (CompilationDatabase.warns_fromDirectory directory)

theorem warns_of_layout (o : Fallible) (layout : o.IsLayout) : Warns o.errorClass False o.run := by
  cases o with
  | coded o =>
    cases o with
    | layout q => exact Layout.warns_run q
    | _ => exact layout.elim
  | _ => exact layout.elim

/-- Whatever the native side answers, an operation writes a warning exactly if it ends in the error
by which it reports a failure of the native side and is no layout query. One that succeeds writes
none. -/
theorem failures_warned_iff (o : Fallible) (side : Side) (w : World) :
    ∃ written, (o.run.exec side w).2.records = written ++ w.records ∧
      (Warned written ↔ Fails o.errorClass (o.run.exec side w).1 ∧ ¬o.IsLayout) := by
  by_cases layout : o.IsLayout
  · simpa [layout] using o.warns_of_layout layout side w
  · simpa [layout] using o.warns_of_not_layout layout side w

def rejecting : Side where
  answer _ _ := { result := .int (-2) }

def rejection (q : Layout.Query) : Except Failure Value × World :=
  (Fallible.coded (.layout q)).run.exec rejecting {}

/-- A rejected query about a type is recorded as a detail, and one about a field is not recorded. -/
theorem rejections_not_warned :
    (Fails .typeLayout (rejection (.sizeOf ⟨"t", none⟩)).1 ∧
        ¬Warned (rejection (.sizeOf ⟨"t", none⟩)).2.records) ∧
      Fails .typeLayout (rejection (.offsetOfField ⟨"c", none⟩)).1 ∧
        ¬Warned (rejection (.offsetOfField ⟨"c", none⟩)).2.records := by
  have about_type : (rejection (.sizeOf ⟨"t", none⟩)).2.records =
      [⟨.debug, "clangbind.cxtype", "Type layout query rejected: Incomplete", {}⟩] := by
    decide +kernel
  have about_field : (rejection (.offsetOfField ⟨"c", none⟩)).2.records = [] := by decide +kernel
  refine ⟨⟨⟨_, rfl, rfl⟩, ?_⟩, ⟨_, rfl, rfl⟩, ?_⟩
  · simp [about_type, Warned]
  · simp [about_field, Warned]

end Fallible

end ClangIndex
