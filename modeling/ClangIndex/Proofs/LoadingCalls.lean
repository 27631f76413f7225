import ClangIndex.Binding.TranslationUnit
import ClangIndex.Proofs.CheckedCalls
import ClangIndex.Proofs.Consultations
import Mathlib.Data.List.Forall2

namespace ClangIndex

open Native (Argument Call Function HandleClass Side)
open Text (Bytes)
open Marshal (UnsavedFile)
open Binding (Calls Quiet)

def World.loadings (w : World) : List Call := w.calls.filter (·.function.loads)

theorem Binding.Calls.loadings_eq {α : Type} {m : Binding α} (h : Quiet m) (side : Side)
    (w : World) : (m.exec side w).2.loadings = w.loadings := by
  obtain ⟨made, e, quiet⟩ := h side w
  have none : made.filter (fun d => d.call.function.loads) = [] := by simpa using quiet
  simp [World.loadings, World.calls, e, List.filter_map, Function.comp_def, none]

namespace Actual

variable {w : World} {ts : List Native.CType} {actuals : List Actual}

theorem convert_natives {arguments : List Argument} (e : convert w ts actuals = some arguments) :
    List.Forall₂ (fun x a => ∀ b, x = .native b → a = b) actuals arguments := by
  induction actuals generalizing ts arguments with
  | nil => cases e; exact .nil
  | cons x r ih =>
    cases x with
    | value v =>
      cases ts with
      | nil => cases e
      | cons t ts =>
        obtain ⟨a, -, e⟩ := Option.bind_eq_some_iff.mp e
        obtain ⟨as, others, e⟩ := Option.bind_eq_some_iff.mp e
        cases e
        exact .cons nofun (ih others)
    | native a =>
      obtain ⟨as, others, e⟩ := Option.bind_eq_some_iff.mp e
      cases e
      exact .cons (fun _ same => by cases same; rfl) (ih others)

end Actual

namespace Binding

variable {α β : Type} {ready : World → Prop} {f : Function} {P : List Argument → Prop}
  {m : Binding α}

/-- An operation that has code loaded by one call of a function with such arguments, or that fails
before the call. It does not fail in a state that is ready for the call. -/
def Loads (ready : World → Prop) (f : Function) (P : List Argument → Prop) (m : Binding α) :
    Prop :=
  ∀ side w,
    (∃ arguments, P arguments ∧ (m.exec side w).2.loadings = ⟨f, arguments⟩ :: w.loadings) ∨
      ¬ready w ∧ (m.exec side w).2.loadings = w.loadings ∧ ∃ e, (m.exec side w).1 = .error e

namespace Loads

theorem follow {g : α → Binding β} (next : α → World → Prop) (quiet : Quiet m)
    (leads : ∀ side w, ready w → ∃ a v, m.exec side w = (.ok a, v) ∧ next a v)
    (k : ∀ a, Loads (next a) f P (g a)) : Loads ready f P (m >>= g) := by
  intro side w
  have same := quiet.loadings_eq side w
  have leads := leads side w
  cases e : m.exec side w with
  | mk r v =>
    rw [e] at same leads
    dsimp only at same
    cases r with
    | ok a =>
      rw [exec_bind_ok e, ← same]
      refine (k a side v).imp_right fun ⟨stuck, rest⟩ => ⟨fun r => stuck ?_, rest⟩
      obtain ⟨_, _, eq, next⟩ := leads r
      cases eq
      exact next
    | error x =>
      rw [exec_bind_error e]
      refine .inr ⟨fun r => ?_, same, x, rfl⟩
      obtain ⟨_, _, eq, -⟩ := leads r
      cases eq

theorem after {g : α → Binding β} (quiet : Quiet m)
    (leads : ∀ side w, ready w → ∃ a v, m.exec side w = (.ok a, v) ∧ ready v)
    (k : ∀ a, Loads ready f P (g a)) : Loads ready f P (m >>= g) :=
  follow (fun _ => ready) quiet leads k

theorem before {g : α → Binding β} (h : Loads ready f P m) (quiet : ∀ a, Quiet (g a)) :
    Loads ready f P (m >>= g) := by
  intro side w
  have h := h side w
  cases e : m.exec side w with
  | mk r v =>
    rw [e] at h
    cases r with
    | ok a =>
      rw [exec_bind_ok e, (quiet a).loadings_eq]
      exact h.imp_right fun ⟨_, _, _, failed⟩ => nomatch failed
    | error x =>
      rw [exec_bind_error e]
      exact h.imp_right fun ⟨stuck, same, _⟩ => ⟨stuck, same, x, rfl⟩

theorem map {g : α → β} (h : Loads ready f P m) : Loads ready f P (g <$> m) :=
  h.before fun _ => .pure _

theorem invoke {actuals : List Actual} {keeps : f.releases = false} (loads : f.loads = true)
    (n : actuals.length = f.inputs.length)
    (fit : ∀ w, ready w → (∀ k ∈ Actual.objects actuals, k.Usable w) ∧
      none ∉ f.inputs.zipWith (Actual.argument? w) actuals)
    (arrays : ∀ arguments,
      List.Forall₂ (fun x a => ∀ b, x = .native b → a = b) actuals arguments → P arguments) :
    Loads ready f P (f.invoke actuals keeps) := by
  intro side w
  unfold exec Function.invoke Function.perform
  dsimp only
  split
  · rename_i e spent
    refine .inr ⟨fun r => ?_, rfl, e, rfl⟩
    rw [Actual.obstacle_eq_none.mpr (fit w r).1] at spent
    cases spent
  · split
    · rename_i unfit
      exact .inr ⟨fun r => (fit w r).2 (Actual.none_mem_of_convert n unfit), rfl, _, rfl⟩
    · rename_i arguments converted
      exact .inl ⟨arguments, arrays arguments (Actual.convert_natives converted), by
        simp [World.loadings, World.calls, Actual.dealing, loads]⟩

end Loads

end Binding

/-- What has code loaded: the parsing of a file, in two ways, the reparsing of a unit, and the
completion of code in it. -/
inductive Loading
  | parse (index : Handle) (path arguments files options : Value)
  | create (index : Handle) (filename arguments files : Value)
  | reparse (unit : Handle) (files options : Value)
  | complete (unit : Handle) (path line column files options : Value)

/-- An array that is passed with its count holds the items, and is null just if there are none. -/
structure Passed {α : Type} (xs : List α) (array : Option (List α)) (count : Int) : Prop where
  holds : array.getD [] = xs
  counted : count = xs.length
  null : array = none ↔ count = 0

theorem passed_map {α β : Type} (g : α → β) (xs : List α) :
    Passed (xs.map g) (if xs.isEmpty then none else some (xs.map g)) xs.length := by
  cases xs with
  | nil => exact ⟨rfl, rfl, by simp⟩
  | cons x r =>
    have positive : (r.length + 1 : Int) ≠ 0 := by omega
    exact ⟨rfl, by simp, by simp [positive]⟩

theorem Passed.eq_some {α : Type} {xs : List α} {array : Option (List α)} {count : Int}
    (h : Passed xs array count) (given : xs ≠ []) : array = some xs ∧ count = xs.length := by
  cases array with
  | none => exact absurd h.holds.symm given
  | some ys => exact ⟨congrArg some h.holds, h.counted⟩

namespace Loading

def function : Loading → Function
  | .parse .. => .parseTranslationUnit
  | .create .. => .createTranslationUnitFromSourceFile
  | .reparse .. => .reparseTranslationUnit
  | .complete .. => .codeCompleteAt

def commandLine : Loading → Value
  | .parse _ _ arguments _ _ | .create _ _ arguments _ => arguments
  | .reparse .. | .complete .. => .none

def files : Loading → Value
  | .parse _ _ _ files _ | .create _ _ _ files | .reparse _ files _
  | .complete _ _ _ _ files _ => files

def run : Loading → Binding Value
  | .parse h path arguments files options =>
    Value.handle <$> Index.parse h path arguments files options
  | .create h filename arguments files =>
    Value.handle <$> Index.createUnit h filename arguments files
  | .reparse u files options => (fun _ => .none) <$> TranslationUnit.reparse u files options
  | .complete u path line column files options =>
    Value.handle <$> TranslationUnit.completeAt u path line column files options

def conversions (l : Loading) : Binding (List Bytes × List UnsavedFile) := do
  return (← Marshal.argv l.commandLine, ← UnsavedFile.ofValue l.files)

/-- Where the arrays and their counts stand among the arguments of the call. -/
def Layout (argv argc files count : Argument) (arguments : List Argument) : Loading → Prop
  | .parse .. => ∃ index path options,
    arguments = [index, path, argv, argc, files, count, options]
  | .create .. => ∃ index filename, arguments = [index, filename, argc, argv, count, files]
  | .reparse .. => ∃ unit options, arguments = [unit, count, files, options]
  | .complete .. => ∃ unit path line column options,
    arguments = [unit, path, line, column, files, count, options]

/-- The arguments of a call carry the texts of a command line as C strings, and the files with
their names as C strings and their contents in full. -/
def Carries (l : Loading) (xs : List Bytes) (fs : List UnsavedFile) (arguments : List Argument) :
    Prop :=
  ∃ argv argc files count,
    l.Layout (.argv argv) (.int argc) (.files files) (.int count) arguments ∧
    Passed (xs.map Text.cString) argv argc ∧
    Passed (fs.map fun f => (Text.cString f.name, f.contents)) files count

def Ready (w : World) : Loading → Prop
  | .parse h path _ _ options => h.Usable w ∧ path.cText?.isSome ∧ ∃ n, options.toInteger = .ok n
  | .create h filename _ _ => h.Usable w ∧ filename.cText?.isSome
  | .reparse u _ options => u.Usable w ∧ (options = .none ∨ ∃ n, options.toInteger = .ok n)
  | .complete u path line column _ options =>
    u.Usable w ∧ path.cText?.isSome ∧ line.number?.isSome ∧ column.number?.isSome ∧
      (options = .none ∨ ∃ n, options.toInteger = .ok n)

theorem carries_of_layout {l : Loading} {xs : List Bytes} {fs : List UnsavedFile}
    {arguments : List Argument}
    (h : l.Layout (.argv (Marshal.textArray xs)) (.int xs.length)
      (.files (Marshal.fileArray fs)) (.int fs.length) arguments) :
    l.Carries xs fs arguments :=
  ⟨_, _, _, _, h, passed_map Text.cString xs, passed_map _ fs⟩

theorem conversions_bind {α : Type} (l : Loading)
    (k : List Bytes × List UnsavedFile → Binding α) :
    l.conversions >>= k =
      Marshal.argv l.commandLine >>= fun xs =>
        UnsavedFile.ofValue l.files >>= fun fs => k (xs, fs) := by
  simp [conversions]

theorem quiet_conversions (l : Loading) : Quiet l.conversions :=
  ((Marshal.discreet_argv _).bind fun _ => (UnsavedFile.discreet_ofValue _).bind fun _ =>
    .pure _).calls

end Loading

namespace Value

variable {v : Value}

theorem exists_str_of_cText (h : v.cText?.isSome) : ∃ s, v.str = pure s := by
  cases v with
  | none | text | bytes | path => exact ⟨_, rfl⟩
  | object o =>
    cases o with
    | bytesPath => exact ⟨_, rfl⟩
    | _ => cases h
  | _ => cases h

theorem quiet_noted (v : Value) {level : Log.Level} {logger : String} (g : String → String) :
    Quiet (Binding.logLazily level logger (v.str >>= fun s => pure (g s))) :=
  .logLazily _ _ (v.discreet_str.calls.bind fun _ => .pure _)

theorem objects_of_cText (h : v.cText?.isSome) (r : List Actual) :
    Actual.objects (.value v :: r) = Actual.objects r := by
  cases v with
  | handle => cases h
  | _ => rfl

theorem exists_argument_of_number (h : v.number?.isSome) (w : World) :
    ∃ a, v.argument? w .uint32 = some a := by
  cases v with
  | int | bool | flags => exact ⟨_, rfl⟩
  | _ => cases h

theorem objects_of_number (h : v.number?.isSome) (r : List Actual) :
    Actual.objects (.value v :: r) = Actual.objects r := by
  cases v with
  | handle => cases h
  | _ => rfl

end Value

theorem TranslationUnit.quiet_ofHandle (index : Handle) (failed : Failure) {warn : Binding Unit}
    (h : Quiet warn) (s : Option Symbol) : Quiet (ofHandle index failed warn s) := by
  cases s with
  | none => exact h.bind fun _ => .throw _
  | some s => exact .create

open Loading (carries_of_layout)

namespace Index

variable (h : Handle) (path arguments files options : Value)

theorem exists_parse :
    ∃ rest : List Bytes → List UnsavedFile → Binding Handle,
      parse h path arguments files options =
        (do let xs ← Marshal.argv arguments
            let fs ← UnsavedFile.ofValue files
            rest xs fs) ∧
      ∀ xs fs, (rest xs fs).Loads (fun w => (Loading.parse h path arguments files options).Ready w)
        .parseTranslationUnit ((Loading.parse h path arguments files options).Carries xs fs) := by
  refine ⟨_, rfl, fun xs fs => ?_⟩
  -- The path is written into a record first. A path that is no text may ask much for that.
  refine .after (path.quiet_noted _) (fun side w ready => ?noted) fun _ => ?_
  case noted =>
    obtain ⟨s, e⟩ := Value.exists_str_of_cText ready.2.1
    rw [e]
    exact ⟨(), _, rfl, ready⟩
  refine .after (.lift _) (fun side w ready => ?options) fun n => ?_
  case options =>
    obtain ⟨n, e⟩ := ready.2.2
    exact ⟨n, w, by rw [e]; rfl, ready⟩
  refine .before (.before (.invoke rfl rfl (fun w ready => ?fits) fun arguments converted => ?_)
    fun _ => .pure _) fun s => TranslationUnit.quiet_ofHandle _ _ (path.quiet_noted _) _
  case fits =>
    obtain ⟨usable, text, -⟩ := ready
    constructor
    · simpa [Actual.objects, Value.objects_of_cText text] using usable
    · obtain ⟨t, e⟩ := Option.isSome_iff_exists.mp text
      change none ∉ [some _, path.cText?.map Argument.text, some _, some _, some _, some _, some _]
      simp [e]
  simp only [List.forall₂_cons_left_iff, List.forall₂_nil_left_iff] at converted
  apply carries_of_layout
  simpa [Loading.Layout] using converted

theorem exists_createUnit :
    ∃ rest : List Bytes → List UnsavedFile → Binding Handle,
      createUnit h path arguments files =
        (do let xs ← Marshal.argv arguments
            let fs ← UnsavedFile.ofValue files
            rest xs fs) ∧
      ∀ xs fs, (rest xs fs).Loads (fun w => (Loading.create h path arguments files).Ready w)
        .createTranslationUnitFromSourceFile
        ((Loading.create h path arguments files).Carries xs fs) := by
  refine ⟨_, rfl, fun xs fs => ?_⟩
  refine .after (path.quiet_noted _) (fun side w ready => ?noted) fun _ => ?_
  case noted =>
    obtain ⟨s, e⟩ := Value.exists_str_of_cText ready.2
    rw [e]
    exact ⟨(), _, rfl, ready⟩
  refine .before (.before (.invoke rfl rfl (fun w ready => ?fits) fun arguments converted => ?_)
    fun _ => .pure _) fun s => TranslationUnit.quiet_ofHandle _ _ (path.quiet_noted _) _
  case fits =>
    obtain ⟨usable, text⟩ := ready
    constructor
    · simpa [Actual.objects, Value.objects_of_cText text] using usable
    · obtain ⟨t, e⟩ := Option.isSome_iff_exists.mp text
      change none ∉ [some _, path.cText?.map Argument.text, some _, some _, some _, some _]
      simp [e]
  simp only [List.forall₂_cons_left_iff, List.forall₂_nil_left_iff] at converted
  apply carries_of_layout
  simpa [Loading.Layout] using converted

end Index

namespace Native.Function

variable {h : Handle} {cls : HandleClass} {side : Side} {w : World} {f : Function}
  {keeps : f.releases = false}

theorem exec_invoke {actuals : List Actual} (side : Side) (keeps : f.releases = false)
    (n : actuals.length = f.inputs.length) (clear : ∀ k ∈ Actual.objects actuals, k.Usable w)
    (fit : none ∉ f.inputs.zipWith (Actual.argument? w) actuals) :
    ∃ d : Dealing, d.call.function = f ∧ (f.invoke actuals keeps).exec side w =
      (.ok (d.call, side.answer w.calls d.call), { w with dealings := d :: w.dealings }) := by
  obtain ⟨arguments, -, made⟩ := Function.perform_fit n clear fit
  exact ⟨Actual.dealing w ⟨f, arguments⟩ none actuals, rfl, made⟩

theorem exec_handle {actuals : List Actual} (side : Side) (keeps : f.releases = false)
    (n : actuals.length = f.inputs.length) (clear : ∀ k ∈ Actual.objects actuals, k.Usable w)
    (fit : none ∉ f.inputs.zipWith (Actual.argument? w) actuals) :
    ∃ d : Dealing, d.call.function = f ∧ (f.handle actuals keeps).exec side w =
      (.ok (side.answer w.calls d.call).handle, { w with dealings := d :: w.dealings }) := by
  obtain ⟨d, function, made⟩ := exec_invoke side keeps n clear fit
  exact ⟨d, function, Binding.exec_bind_ok made⟩

theorem exec_invoke_object (inputs : f.inputs = [.wrapper cls]) (usable : h.Usable w) :
    ∃ r d, (f.invoke [.value (.handle h)] keeps).exec side w =
      (.ok r, { w with dealings := d }) := by
  have n : [Actual.value (.handle h)].length = f.inputs.length := by rw [inputs]; rfl
  obtain ⟨d, -, made⟩ := exec_invoke side keeps n (by simpa [Actual.objects] using usable)
    (by simp [inputs, Actual.argument?, Value.argument?])
  exact ⟨_, _, made⟩

theorem exec_number_object (inputs : f.inputs = [.wrapper cls]) (usable : h.Usable w) :
    ∃ n d, (f.number [.value (.handle h)] keeps).exec side w =
      (.ok n, { w with dealings := d }) := by
  obtain ⟨r, d, made⟩ := exec_invoke_object inputs usable
  exact ⟨_, d, Binding.exec_bind_ok made⟩

theorem exec_text_object (inputs : f.inputs = [.wrapper cls]) (usable : h.Usable w) :
    ∃ s v, (f.text [.value (.handle h)] keeps).exec side w = (.ok s, v) ∧ h.Usable v := by
  obtain ⟨r, d, made⟩ := exec_invoke_object inputs usable
  exact ⟨_, _, Binding.exec_bind_ok made, usable⟩

end Native.Function

namespace TranslationUnit

variable {u : Handle} {side : Side} {w : World}

theorem exec_defaultCodeCompleteOptions (side : Side) (w : World) :
    ∃ n d, (Function.defaultCodeCompleteOptions.number []).exec side w =
      (.ok n, { w with dealings := d }) := by
  have clear : ∀ k ∈ Actual.objects [], k.Usable w := List.forall_mem_nil _
  obtain ⟨arguments, -, made⟩ :=
    Function.perform_fit (f := .defaultCodeCompleteOptions) rfl clear List.not_mem_nil
  exact ⟨_, _, Binding.exec_bind_ok made⟩

theorem calls_optionsOr {p : Function → Prop} {preferred : Binding Int} (h : Calls p preferred)
    (options : Value) : Calls p (optionsOr preferred options) := by
  cases options with
  | none => exact h.bind fun _ => .pure _
  | _ => exact .pure _

theorem exec_optionsOr {preferred : Binding Int} {options : Value} {P : World → Prop}
    (h : ∃ n v, preferred.exec side w = (.ok n, v) ∧ P v) (p : P w)
    (given : options = .none ∨ ∃ n, options.toInteger = .ok n) :
    ∃ x v, (optionsOr preferred options).exec side w = (.ok x, v) ∧
      P v ∧ ∃ n, x.toInteger = .ok n := by
  obtain rfl | ⟨n, e⟩ := given
  · obtain ⟨n, v, made, p⟩ := h
    exact ⟨.int n, v, Binding.exec_bind_ok made, p, n, rfl⟩
  · cases options with
    | none => cases e
    | _ => exact ⟨_, w, rfl, p, n, e⟩

variable (u) (path line column files options : Value)

theorem exists_reparse :
    ∃ rest : List UnsavedFile → Binding Unit,
      reparse u files options = UnsavedFile.ofValue files >>= rest ∧
      ∀ xs fs, (rest fs).Loads (fun w => (Loading.reparse u files options).Ready w)
        .reparseTranslationUnit ((Loading.reparse u files options).Carries xs fs) := by
  refine ⟨_, rfl, fun xs fs => ?_⟩
  -- From here on the options are known to be a number, which they need not be when none are given.
  refine .follow (fun options w => u.Usable w ∧ ∃ n, options.toInteger = .ok n)
    (calls_optionsOr (.number (by rfl)) _) (fun side w ⟨usable, given⟩ => ?preferred)
    fun options => ?_
  case preferred =>
    obtain ⟨n, d, made⟩ := Function.exec_number_object (f := .defaultReparseOptions) rfl usable
    exact exec_optionsOr ⟨n, _, made, usable⟩ usable given
  refine .after (.text (by rfl)) (fun side w ⟨usable, number⟩ => ?spelt) fun spelling => ?_
  case spelt =>
    obtain ⟨s, v, made, usable⟩ :=
      Function.exec_text_object (f := .getTranslationUnitSpelling) rfl usable
    exact ⟨s, v, made, usable, number⟩
  refine .after (.log _ _ _) (fun _ w ready => ⟨(), _, rfl, ready⟩) fun _ => ?_
  refine .after (.lift _) (fun side w ⟨usable, n, e⟩ => ⟨n, w, by rw [e]; rfl, usable, n, e⟩)
    fun n => ?_
  refine .before (.before (.invoke rfl rfl (fun w ready => ?fits) fun arguments converted => ?_)
    fun _ => .pure _) fun s => ?_
  case fits =>
    constructor
    · simpa [Actual.objects] using ready.1
    · change none ∉ [some _, some _, some _, some _]
      simp
  · simp only [List.forall₂_cons_left_iff, List.forall₂_nil_left_iff] at converted
    apply carries_of_layout
    simpa [Loading.Layout] using converted
  · exact .ite ((Calls.log _ _ _).bind fun _ => .throw _) (.pure _)

theorem exists_completeAt :
    ∃ rest : List UnsavedFile → Binding Handle,
      completeAt u path line column files options = UnsavedFile.ofValue files >>= rest ∧
      ∀ xs fs, (rest fs).Loads
        (fun w => (Loading.complete u path line column files options).Ready w) .codeCompleteAt
        ((Loading.complete u path line column files options).Carries xs fs) := by
  refine ⟨_, rfl, fun xs fs => ?_⟩
  refine .follow (fun options w => (u.Usable w ∧ path.cText?.isSome ∧ line.number?.isSome ∧
      column.number?.isSome) ∧ ∃ n, options.toInteger = .ok n)
    (calls_optionsOr (.number (by rfl)) _)
    (fun side w ⟨usable, text, atLine, atColumn, given⟩ => ?preferred) fun options => ?_
  case preferred =>
    obtain ⟨n, d, made⟩ := exec_defaultCodeCompleteOptions side w
    exact exec_optionsOr ⟨n, _, made, usable, text, atLine, atColumn⟩
      ⟨usable, text, atLine, atColumn⟩ given
  refine .after (.lift _) (fun side w ⟨fits, n, e⟩ => ⟨n, w, by rw [e]; rfl, fits, n, e⟩)
    fun n => ?_
  refine .before (.invoke rfl rfl (fun w ready => ?fits) fun arguments converted => ?_)
    fun answer => ?_
  case fits =>
    obtain ⟨⟨usable, text, atLine, atColumn⟩, -⟩ := ready
    constructor
    · simpa [Actual.objects, Value.objects_of_cText text, Value.objects_of_number atLine,
        Value.objects_of_number atColumn] using usable
    · obtain ⟨t, e⟩ := Option.isSome_iff_exists.mp text
      obtain ⟨a, atLine⟩ := Value.exists_argument_of_number atLine w
      obtain ⟨b, atColumn⟩ := Value.exists_argument_of_number atColumn w
      change none ∉ [some _, path.cText?.map Argument.text, line.argument? w .uint32,
        column.argument? w .uint32, some _, some _, some _]
      simp [e, atLine, atColumn]
  · simp only [List.forall₂_cons_left_iff, List.forall₂_nil_left_iff] at converted
    apply carries_of_layout
    simpa [Loading.Layout] using converted
  · have warned : Quiet CodeCompleteResults.warn := .log _ _ _
    dsimp only [CodeCompleteResults.ofAnswer]
    split
    · exact warned.bind fun _ => .create
    · exact (Calls.update _ _).bind fun _ => .create

end TranslationUnit

namespace Loading

variable {l : Loading} {side : Side} {w u : World} {xs : List Bytes} {fs : List UnsavedFile}

theorem exists_run (l : Loading) :
    ∃ rest : List Bytes → List UnsavedFile → Binding Value,
      (l.run = do let (xs, fs) ← l.conversions; rest xs fs) ∧
      ∀ xs fs, (rest xs fs).Loads (fun w => l.Ready w) l.function (l.Carries xs fs) := by
  cases l with
  | parse h path arguments files options =>
    obtain ⟨rest, e, loads⟩ := Index.exists_parse h path arguments files options
    refine ⟨fun xs fs => Value.handle <$> rest xs fs, ?_, fun xs fs => (loads xs fs).map⟩
    rw [run, e, conversions_bind]
    simp only [map_bind]
    rfl
  | create h filename arguments files =>
    obtain ⟨rest, e, loads⟩ := Index.exists_createUnit h filename arguments files
    refine ⟨fun xs fs => Value.handle <$> rest xs fs, ?_, fun xs fs => (loads xs fs).map⟩
    rw [run, e, conversions_bind]
    simp only [map_bind]
    rfl
  | reparse u files options =>
    obtain ⟨rest, e, loads⟩ := TranslationUnit.exists_reparse u files options
    refine ⟨fun _ fs => (fun _ => .none) <$> rest fs, ?_, fun xs fs => (loads xs fs).map⟩
    rw [run, e, conversions_bind, map_bind]
    rfl
  | complete u path line column files options =>
    obtain ⟨rest, e, loads⟩ := TranslationUnit.exists_completeAt u path line column files options
    refine ⟨fun _ fs => Value.handle <$> rest fs, ?_, fun xs fs => (loads xs fs).map⟩
    rw [run, e, conversions_bind, map_bind]
    rfl

theorem loadings_of_converted (h : l.conversions.exec side w = (.ok (xs, fs), u)) :
    (∃ arguments, l.Carries xs fs arguments ∧
      (l.run.exec side w).2.loadings = ⟨l.function, arguments⟩ :: w.loadings) ∨
    ¬l.Ready u ∧ (l.run.exec side w).2.loadings = w.loadings ∧
      ∃ e, (l.run.exec side w).1 = .error e := by
  obtain ⟨rest, e, loads⟩ := l.exists_run
  have same := l.quiet_conversions.loadings_eq side w
  rw [h] at same
  rw [e, Binding.exec_bind_ok h, ← same]
  exact loads xs fs side u

theorem exec_run_of_failed {x : Failure} (h : l.conversions.exec side w = (.error x, u)) :
    l.run.exec side w = (.error x, u) := by
  obtain ⟨rest, e, -⟩ := l.exists_run
  rw [e, Binding.exec_bind_error h]

end Loading

end ClangIndex
