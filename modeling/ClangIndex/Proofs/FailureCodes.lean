import ClangIndex.Binding.Database
import ClangIndex.Binding.Layout
import ClangIndex.Proofs.LoadingCalls
import ClangIndex.Session.Step

namespace ClangIndex

open Native (Answer Argument Call Function Side)
open Marshal (UnsavedFile)
open Binding (Calls Quiet)

namespace Binding

variable {α β : Type} {ready : Side → World → Prop} {f : Function}
  {ends : Call → Answer → Except Failure α → World → Prop} {m : Binding α}

theorem Calls.calls {p : Function → Prop} (h : Calls p m) (side : Side) (w : World) :
    ∃ made : List Call, (m.exec side w).2.calls = made ++ w.calls ∧ ∀ c ∈ made, p c.function := by
  obtain ⟨made, e, of⟩ := h side w
  refine ⟨made.map (·.call), by rw [World.calls, e, List.map_append, World.calls], fun c mem => ?_⟩
  obtain ⟨d, md, rfl⟩ := List.mem_map.mp mem
  exact of d md

/-- An operation that asks a function once and ends as the answer says, or that fails before it
asks, in a state that is not ready for that. -/
def Asks (ready : Side → World → Prop) (f : Function)
    (ends : Call → Answer → Except Failure α → World → Prop) (m : Binding α) : Prop :=
  ∀ side w,
    (∃ earlier later c, c.function = f ∧ (∀ x ∈ later ++ earlier, x.function ≠ f) ∧
      (m.exec side w).2.calls = later ++ c :: (earlier ++ w.calls) ∧
      ends c (side.answer (earlier ++ w.calls) c) (m.exec side w).1 (m.exec side w).2) ∨
    ¬ready side w ∧ (∃ e, (m.exec side w).1 = .error e) ∧
      ∃ made, (m.exec side w).2.calls = made ++ w.calls ∧ ∀ x ∈ made, x.function ≠ f

namespace Asks

theorem mono {ends' : Call → Answer → Except Failure α → World → Prop}
    (h : Asks ready f ends m) (k : ∀ c a r v, ends c a r v → ends' c a r v) :
    Asks ready f ends' m := fun side w =>
  (h side w).imp_left fun ⟨earlier, later, c, function, distinct, calls, answered⟩ =>
    ⟨earlier, later, c, function, distinct, calls, k c _ _ _ answered⟩

theorem follow {g : α → Binding β} {ends : Call → Answer → Except Failure β → World → Prop}
    (next : α → Side → World → Prop) (others : Calls (· ≠ f) m)
    (leads : ∀ side w, ready side w → ∃ a v, m.exec side w = (.ok a, v) ∧ next a side v)
    (k : ∀ a, Asks (next a) f ends (g a)) : Asks ready f ends (m >>= g) := by
  intro side w
  obtain ⟨made, before, unlike⟩ := others.calls side w
  have leads := leads side w
  cases e : m.exec side w with
  | mk r v =>
    rw [e] at before leads
    cases r with
    | ok a =>
      rw [exec_bind_ok e]
      obtain ⟨earlier, later, c, function, distinct, calls, answered⟩ |
        ⟨stuck, failed, made', calls, unlike'⟩ := k a side v
      · dsimp only at before
        rw [before, ← List.append_assoc] at calls answered
        refine .inl ⟨earlier ++ made, later, c, function, fun x mem => ?_, calls, answered⟩
        rw [← List.append_assoc] at mem
        exact (List.mem_append.mp mem).elim (distinct x) (unlike x)
      · refine .inr ⟨fun r => stuck ?_, failed, made' ++ made, ?_, fun x mem => ?_⟩
        · obtain ⟨_, _, eq, next⟩ := leads r
          cases eq
          exact next
        · rw [calls, before, List.append_assoc]
        · exact (List.mem_append.mp mem).elim (unlike' x) (unlike x)
    | error x =>
      rw [exec_bind_error e]
      refine .inr ⟨fun r => ?_, ⟨x, rfl⟩, made, before, unlike⟩
      obtain ⟨_, _, eq, -⟩ := leads r
      cases eq

theorem after {g : α → Binding β} {ends : Call → Answer → Except Failure β → World → Prop}
    (others : Calls (· ≠ f) m)
    (leads : ∀ side w, ready side w → ∃ a v, m.exec side w = (.ok a, v) ∧ ready side v)
    (k : ∀ a, Asks ready f ends (g a)) : Asks ready f ends (m >>= g) :=
  follow (fun _ => ready) others leads k

theorem lift {r : Except Failure α} {g : α → Binding β}
    {ends : Call → Answer → Except Failure β → World → Prop}
    (gives : ∀ side w, ready side w → ∃ a, r = .ok a)
    (k : ∀ a, r = .ok a → Asks ready f ends (g a)) : Asks ready f ends (liftM r >>= g) := by
  cases r with
  | ok a => exact k a rfl
  | error e =>
    refine fun side w => .inr ⟨fun r => ?_, ⟨e, rfl⟩, [], rfl, List.forall_mem_nil _⟩
    obtain ⟨_, given⟩ := gives side w r
    cases given

theorem before {g : α → Binding β} {ends' : Call → Answer → Except Failure β → World → Prop}
    (h : Asks ready f ends m) (others : ∀ a, Calls (· ≠ f) (g a))
    (fails : ∀ c a e v, ends c a (.error e) v → ends' c a (.error e) v)
    (goes : ∀ c a x v, ends c a (.ok x) v → ∀ side,
      ends' c a ((g x).exec side v).1 ((g x).exec side v).2) :
    Asks ready f ends' (m >>= g) := by
  intro side w
  obtain ⟨earlier, later, c, function, distinct, calls, answered⟩ |
    ⟨stuck, ⟨x, failed⟩, made, calls, unlike⟩ := h side w
  · cases e : m.exec side w with
    | mk r v =>
      rw [e] at calls answered
      cases r with
      | ok x =>
        obtain ⟨made, last, unlike⟩ := (others x).calls side v
        rw [exec_bind_ok e]
        refine .inl ⟨earlier, made ++ later, c, function, fun y mem => ?_, ?_,
          goes c _ x v answered side⟩
        · rw [List.append_assoc] at mem
          exact (List.mem_append.mp mem).elim (unlike y) (distinct y)
        · rw [last, calls, List.append_assoc]
      | error x =>
        rw [exec_bind_error e]
        exact .inl ⟨earlier, later, c, function, distinct, calls, fails c _ x v answered⟩
  · have e : m.exec side w = (.error x, (m.exec side w).2) := by rw [← failed]
    rw [exec_bind_error e]
    exact .inr ⟨stuck, ⟨x, rfl⟩, made, calls, unlike⟩

theorem map {g : α → β} {ends' : Call → Answer → Except Failure β → World → Prop}
    (h : Asks ready f (fun c a r v => ends' c a (r.map g) v) m) : Asks ready f ends' (g <$> m) :=
  h.before (fun _ => .pure _) (fun _ _ _ _ h => h) fun _ _ _ _ h _ => h

section

variable {actuals : List Actual} {keeps : f.releases = false}

theorem invoke (n : actuals.length = f.inputs.length)
    (fit : ∀ side w, ready side w → (∀ k ∈ Actual.objects actuals, k.Usable w) ∧
      none ∉ f.inputs.zipWith (Actual.argument? w) actuals) :
    Asks ready f (fun c a r v => r = .ok (c, a) ∧ ∀ k ∈ Actual.objects actuals, k.Usable v)
      (f.invoke actuals keeps) := by
  intro side w
  by_cases clear : ∀ k ∈ Actual.objects actuals, k.Usable w
  · by_cases fits : none ∈ f.inputs.zipWith (Actual.argument? w) actuals
    · have made : (f.invoke actuals keeps).exec side w = (.error Failure.argumentError, w) :=
        Function.perform_unfit n clear fits
      rw [made]
      exact .inr ⟨fun r => (fit side w r).2 fits, ⟨_, rfl⟩, [], rfl, List.forall_mem_nil _⟩
    · obtain ⟨d, function, made⟩ := Function.exec_invoke side keeps n clear fits
      rw [made]
      exact .inl ⟨[], [], d.call, function, List.forall_mem_nil _, rfl, rfl, clear⟩
  · obtain ⟨e, spent⟩ := Option.ne_none_iff_exists'.mp (mt Actual.obstacle_eq_none.mp clear)
    have made : (f.invoke actuals keeps).exec side w = (.error e, w) := by
      simp [exec, Function.invoke, Function.perform, spent]
    rw [made]
    exact .inr ⟨fun r => clear (fit side w r).1, ⟨_, rfl⟩, [], rfl, List.forall_mem_nil _⟩

theorem number (n : actuals.length = f.inputs.length)
    (fit : ∀ side w, ready side w → (∀ k ∈ Actual.objects actuals, k.Usable w) ∧
      none ∉ f.inputs.zipWith (Actual.argument? w) actuals) :
    Asks ready f (fun c a r _ => r = .ok (a.number c)) (f.number actuals keeps) := by
  refine .before (invoke n fit) (fun _ => .pure _) (fun _ _ _ _ h => nomatch h.1) ?_
  rintro c a x v ⟨e, -⟩ side
  cases e
  rfl

end

end Asks

end Binding

namespace Enumeration

variable {e : Enumeration} {n : Int} {m : Member}

theorem number_of_ofNumber? (h : e.ofNumber? n = some m) : m.number = n := by
  rw [ofNumber?_eq] at h
  split at h <;> cases h
  rfl

theorem kind_of_ofNumber? (h : e.ofNumber? n = some m) : m.kind = e := by
  rw [ofNumber?_eq] at h
  split at h <;> cases h
  rfl

theorem exec_require_known (h : e.ofNumber? n = some m) (side : Side) (w : World) :
    (e.require n).exec side w = (.ok m, w) := by
  rw [require, h]
  rfl

theorem exec_require_unknown (h : e.ofNumber? n = none) (side : Side) (w : World) :
    (e.require n).exec side w = (.error (.notMember (toString n) e.name), w) := by
  rw [require, h]
  rfl

def rejection (e : Enumeration) (reject : Member → Failure) (n : Int) : Failure :=
  match e.ofNumber? n with
  | some m => reject m
  | none => .notMember (toString n) e.name

theorem exec_require_bind {α : Type} {k : Member → Binding α} {reject : Member → Failure}
    (fails : ∀ m side w, ((k m).exec side w).1 = .error (reject m)) (side : Side) (w : World) :
    ((e.require n >>= k).exec side w).1 = .error (e.rejection reject n) := by
  unfold rejection require
  cases e.ofNumber? n with
  | some m => exact fails m side w
  | none => rfl

end Enumeration

def Failure.code? : Failure → Option Int
  | .notReparsed n | .noUniqueID n => some n
  | .notSaved m | .databaseNotLoaded m | .layoutRejected m => some m.number
  | _ => none

namespace Layout

inductive Query
  | sizeOf (type : TypeRef)
  | alignOf (type : TypeRef)
  | offsetOf (type : TypeRef) (field : Value)
  | offsetOfField (cursor : Cursor)

namespace Query

def function : Query → Function
  | .sizeOf _ => .typeGetSizeOf
  | .alignOf _ => .typeGetAlignOf
  | .offsetOf .. => .typeGetOffsetOf
  | .offsetOfField _ => .cursorGetOffsetOfField

def run : Query → Binding Value
  | .sizeOf t => Layout.sizeOf t
  | .alignOf t => Layout.alignOf t
  | .offsetOf t field => Layout.offsetOf t field
  | .offsetOfField c => Layout.offsetOfField c

def Ready : Query → Prop
  | .offsetOf _ field => field.cText?.isSome
  | _ => True

end Query

end Layout

/-- What the native side answers with a code for how it went. -/
inductive Coded
  | save (unit : Handle) (filename options : Value)
  | reparse (unit : Handle) (files options : Value)
  | uniqueId (file : Handle)
  | layout (query : Layout.Query)
  | database (directory : Value)

namespace Coded

def function : Coded → Function
  | .save .. => .saveTranslationUnit
  | .reparse .. => .reparseTranslationUnit
  | .uniqueId _ => .getFileUniqueID
  | .layout q => q.function
  | .database _ => .compilationDatabaseFromDirectory

def run : Coded → Binding Value
  | .save u filename options => (fun _ => .none) <$> TranslationUnit.save u filename options
  | .reparse u files options => (fun _ => .none) <$> TranslationUnit.reparse u files options
  | .uniqueId f => File.uniqueId f
  | .layout q => q.run
  | .database directory => Value.handle <$> CompilationDatabase.fromDirectory directory

def Ready (side : Side) (w : World) : Coded → Prop
  | .save u filename options => u.Usable w ∧ (∃ path, filename.toPath = .ok path) ∧
      (options = .none ∨ ∃ n, options.toInteger = .ok n)
  | .reparse u files options =>
    (∃ fs v, (UnsavedFile.ofValue files).exec side w = (.ok fs, v) ∧ u.Usable v) ∧
      (options = .none ∨ ∃ n, options.toInteger = .ok n)
  | .uniqueId f => f.Usable w
  | .layout q => q.Ready
  | .database directory => ∃ path, directory.toPath = .ok path

variable (c : Call) (a : Answer) (o : Coded)

def code : Int :=
  match o with
  | .database _ => Number.Width.uint32.wrap (a.code.getD 0)
  | _ => a.number c

def Succeeds : Prop :=
  match o with
  | .save .. | .reparse .. | .uniqueId _ => o.code c a = 0
  | .layout _ => 0 ≤ o.code c a
  | .database _ => o.code c a = 0 ∧ a.handle.isSome

def Gives (v : Value) : Prop :=
  match o with
  | .save .. | .reparse .. => v = .none
  | .uniqueId _ =>
    let (x, y, z) := a.uniqueId.getD (0, 0, 0)
    v = .uniqueId x y z
  | .layout _ => v = .int (o.code c a)
  | .database _ => ∃ h : Handle, h.cls = .compilationDatabase ∧ v = .handle h

def errorClass : ErrorClass :=
  match o with
  | .save .. => .unitSave
  | .reparse .. => .unitReparse
  | .uniqueId _ => .fileUniqueID
  | .layout _ => .typeLayout
  | .database _ => .database

/-- The code that the error carries. A database that is null without a code counts as not loaded. -/
def reported : Int :=
  match o with
  | .database _ => if o.code c a = 0 then 1 else o.code c a
  | _ => o.code c a

def kinds? : Option Enumeration :=
  match o with
  | .save .. => some .saveError
  | .reparse .. | .uniqueId _ => none
  | .layout _ => some .typeLayoutErrorKind
  | .database _ => some .compilationDatabaseErrorCode

/-- Success, or the error that is documented for the operation. -/
def Promise (r : Except Failure Value) : Prop :=
  (o.Succeeds c a ∧ ∃ v, r = .ok v ∧ o.Gives c a v) ∨
  ¬o.Succeeds c a ∧ ∃ e, r = .error e ∧ e.class? = some o.errorClass ∧
    e.code? = some (o.reported c a)

/-- A failure whose code has no name, which is no error of the interface. -/
def Nameless (r : Except Failure Value) : Prop :=
  ¬o.Succeeds c a ∧ ∃ kinds, o.kinds? = some kinds ∧ kinds.ofNumber? (o.code c a) = none ∧
    r = .error (.notMember (toString (o.code c a)) kinds.name)

def Knows : Prop := ∀ kinds, o.kinds? = some kinds → (kinds.ofNumber? (o.code c a)).isSome

def Ends (r : Except Failure Value) : Prop :=
  (o.Succeeds c a ∨ o.Knows c a) ∧ o.Promise c a r ∨ o.Nameless c a r

variable {c a o} {r : Except Failure Value}

theorem ends_of_ok {v : Value} (well : o.Succeeds c a) (e : r = .ok v) (gives : o.Gives c a v) :
    o.Ends c a r := .inl ⟨.inl well, .inl ⟨well, v, e, gives⟩⟩

theorem ends_of_error {x : Failure} (ill : ¬o.Succeeds c a) (knows : o.Knows c a)
    (e : r = .error x) (cls : x.class? = some o.errorClass)
    (code : x.code? = some (o.reported c a)) : o.Ends c a r :=
  .inl ⟨.inr knows, .inr ⟨ill, x, e, cls, code⟩⟩

theorem knows_of_ofNumber? {kinds : Enumeration} {m : Member} (named : o.kinds? = some kinds)
    (known : kinds.ofNumber? (o.code c a) = some m) : o.Knows c a := by
  intro _ e
  cases named.symm.trans e
  exact Option.isSome_of_eq_some known

theorem ends_of_rejection {kinds : Enumeration} (reject : Member → Failure)
    (ill : ¬o.Succeeds c a) (named : o.kinds? = some kinds)
    (e : r = .error (kinds.rejection reject (o.code c a)))
    (cls : ∀ m, (reject m).class? = some o.errorClass)
    (code : ∀ m, kinds.ofNumber? (o.code c a) = some m →
      (reject m).code? = some (o.reported c a)) : o.Ends c a r := by
  rw [Enumeration.rejection] at e
  cases known : kinds.ofNumber? (o.code c a) with
  | some m =>
    rw [known] at e
    exact ends_of_error ill (knows_of_ofNumber? named known) e (cls m) (code m known)
  | none =>
    rw [known] at e
    exact .inr ⟨ill, kinds, named, known, e⟩

end Coded

namespace Layout

def outcome (n : Int) : Except Failure Value :=
  if n < 0 then .error (Enumeration.typeLayoutErrorKind.rejection .layoutRejected n)
  else .ok (.int n)

theorem exec_check (n : Int) (side : Side) (w : World) :
    ((check n).exec side w).1 = outcome n := by
  unfold check outcome
  split
  · exact Enumeration.exec_require_bind (fun _ _ _ => rfl) side w
  · rfl

theorem ends_outcome (q : Query) (c : Call) (a : Answer) :
    (Coded.layout q).Ends c a (outcome (a.number c)) := by
  unfold outcome
  split
  · rename_i negative
    exact Coded.ends_of_rejection _ (Int.not_le.mpr negative) rfl rfl (fun _ => rfl)
      fun _ known => congrArg some (Enumeration.number_of_ofNumber? known)
  · rename_i well
    exact Coded.ends_of_ok (Int.not_lt.mp well) rfl rfl

theorem asks_of_check {ready : Side → World → Prop} {f : Function} {actuals : List Actual}
    {keeps : f.releases = false} {k : Int → Binding Value} (q : Query)
    (n : actuals.length = f.inputs.length)
    (fit : ∀ side w, ready side w → (∀ h ∈ Actual.objects actuals, h.Usable w) ∧
      none ∉ f.inputs.zipWith (Actual.argument? w) actuals)
    (others : ∀ n, Calls (· ≠ f) (k n))
    (checks : ∀ n side w, ((k n).exec side w).1 = outcome n) :
    (f.number actuals keeps >>= k).Asks ready f fun c a r _ => (Coded.layout q).Ends c a r := by
  refine .before (.number n fit) others (fun _ _ _ _ h => nomatch h) ?_
  rintro c a x v e side
  cases e
  rw [checks]
  exact ends_outcome q c a

theorem calls_check {p : Function → Prop} (n : Int) : Calls p (check n) :=
  .ite ((Calls.require _ _).bind fun _ => (Calls.log _ _ _).bind fun _ => .throw _) (.pure _)

theorem asks (q : Query) :
    q.run.Asks (fun _ _ => q.Ready) q.function fun c a r _ => (Coded.layout q).Ends c a r := by
  have plain (x : Argument) : none ∉ [some x] := by simp
  cases q with
  | sizeOf t =>
    exact asks_of_check _ rfl (fun _ _ _ => ⟨List.forall_mem_nil _, plain _⟩) calls_check exec_check
  | alignOf t =>
    exact asks_of_check _ rfl (fun _ _ _ => ⟨List.forall_mem_nil _, plain _⟩) calls_check exec_check
  | offsetOf t field =>
    refine asks_of_check _ rfl (fun _ w text => ⟨?_, ?_⟩) calls_check exec_check
    · simp [Actual.objects, Value.objects_of_cText text]
    · obtain ⟨b, e⟩ := Option.isSome_iff_exists.mp text
      change none ∉ [some _, field.cText?.map Argument.text]
      simp [e]
  | offsetOfField c =>
    refine asks_of_check _ rfl (fun _ _ _ => ⟨List.forall_mem_nil _, plain _⟩) (fun n => ?_)
      fun n side w => ?_
    · exact .ite ((Calls.require _ _).bind fun _ => .throw _) (.pure _)
    · unfold outcome
      split
      · exact Enumeration.exec_require_bind (fun _ _ _ => rfl) side w
      · rfl

end Layout

namespace File

theorem asks (f : Handle) :
    (uniqueId f).Asks (fun _ w => f.Usable w) .getFileUniqueID
      fun c a r _ => (Coded.uniqueId f).Ends c a r := by
  have bare (x : Argument) : none ∉ [some x] := by simp
  refine .before (.invoke rfl fun _ w usable => ⟨by simpa [Actual.objects] using usable, bare _⟩)
    (fun r => ?_) (fun _ _ _ _ h => by cases h.1) ?_
  · exact .ite ((Calls.text (by decide)).bind fun _ => (Calls.log _ _ _).bind fun _ => .throw _)
      (.pure _)
  · rintro c a x v ⟨e, usable⟩ side
    cases e
    by_cases well : a.number c = 0
    · refine Coded.ends_of_ok well ?_ rfl
      dsimp only
      rw [if_neg (not_not_intro well)]
      rfl
    · -- The name of the file is asked for the record, of a file that was just passed.
      obtain ⟨s, u, named, -⟩ :=
        Function.exec_text_object (f := .getFileName) rfl (usable f List.mem_cons_self)
      have named : (name f).exec side v = (.ok s, u) := named
      refine Coded.ends_of_error (x := .noUniqueID (a.number c)) well (fun _ e => by cases e) ?_
        rfl rfl
      dsimp only
      rw [if_pos well, Binding.exec_bind_ok named]
      rfl

end File

namespace Value

variable {v path : Value}

theorem exists_str_of_toPath (h : v.toPath = .ok path) : ∃ s, path.str = pure s := by
  unfold toPath at h
  split at h <;> cases h
  all_goals exact ⟨_, rfl⟩

theorem exists_cText_of_toPath (h : v.toPath = .ok path) : ∃ text, v.cText? = some text := by
  unfold toPath at h
  split at h <;> cases h
  all_goals exact ⟨_, rfl⟩

end Value

namespace TranslationUnit

open Coded

theorem save_asks (u : Handle) (filename options : Value) :
    ((fun _ => Value.none) <$> save u filename options).Asks
      (fun side w => (Coded.save u filename options).Ready side w) .saveTranslationUnit
      fun c a r _ => (Coded.save u filename options).Ends c a r := by
  refine .map ?_
  refine .follow (fun options _ w => (u.Usable w ∧ ∃ path, filename.toPath = .ok path) ∧
      ∃ n, options.toInteger = .ok n)
    (calls_optionsOr (.number (by decide)) _) (fun side w ⟨usable, path, given⟩ => ?preferred)
    fun options' => ?_
  case preferred =>
    obtain ⟨n, d, made⟩ := Function.exec_number_object (f := .defaultSaveOptions) rfl usable
    exact exec_optionsOr (P := fun w => u.Usable w ∧ _) ⟨n, _, made, usable, path⟩ ⟨usable, path⟩
      given
  refine .lift (fun _ _ ready => ready.1.2) fun path atPath => ?_
  obtain ⟨s, shown⟩ := Value.exists_str_of_toPath atPath
  rw [shown]
  refine .after (.pure _) (fun _ w ready => ⟨s, w, rfl, ready⟩) fun _ => ?_
  refine .after (.log _ _ _) (fun _ w ready => ⟨(), _, rfl, ready⟩) fun _ => ?_
  refine .lift (fun _ _ ready => ready.2) fun n _ => ?_
  refine .before (.number rfl fun side w ready => ?fits) (fun n => ?_)
    (fun _ _ _ _ h => nomatch h) ?_
  case fits =>
    obtain ⟨text, e⟩ := Value.exists_cText_of_toPath atPath
    constructor
    · simpa [Actual.objects, Value.objects_of_cText (Option.isSome_of_eq_some e)] using ready.1.1
    · change none ∉ [some _, filename.cText?.map Argument.text, some _]
      simp [e]
  · exact .ite ((Calls.require _ _).bind fun _ => (Calls.log _ _ _).bind fun _ => .throw _)
      (.pure _)
  · rintro c a x v e side
    cases e
    by_cases well : a.number c = 0
    · refine ends_of_ok well ?_ rfl
      rw [if_neg (not_not_intro well)]
      rfl
    · refine ends_of_rejection .notSaved well rfl ?_ (fun _ => rfl)
        fun _ known => congrArg some (Enumeration.number_of_ofNumber? known)
      rw [if_pos well, Enumeration.exec_require_bind fun _ _ _ => rfl]
      rfl

theorem reparse_asks (u : Handle) (files options : Value) :
    ((fun _ => Value.none) <$> reparse u files options).Asks
      (fun side w => (Coded.reparse u files options).Ready side w) .reparseTranslationUnit
      fun c a r _ => (Coded.reparse u files options).Ends c a r := by
  have loadless {f : Function} (h : f.loads = false) : f ≠ .reparseTranslationUnit := by
    rintro rfl
    cases h
  refine .map ?_
  refine .follow (fun _ _ w => u.Usable w ∧ (options = .none ∨ ∃ n, options.toInteger = .ok n))
    ((UnsavedFile.discreet_ofValue files).calls.mono fun _ => loadless) (fun side w ready => ?converted)
    fun fs => ?_
  case converted =>
    obtain ⟨⟨fs, v, converted, usable⟩, given⟩ := ready
    exact ⟨fs, v, converted, usable, given⟩
  refine .follow (fun options _ w => u.Usable w ∧ ∃ n, options.toInteger = .ok n)
    (calls_optionsOr (.number (by decide)) _) (fun side w ready => ?preferred) fun options' => ?_
  case preferred =>
    obtain ⟨usable, given⟩ := ready
    obtain ⟨n, d, made⟩ := Function.exec_number_object (f := .defaultReparseOptions) rfl usable
    exact exec_optionsOr ⟨n, _, made, usable⟩ usable given
  refine .after (.text (by decide)) (fun side w ready => ?spelt) fun spelling => ?_
  case spelt =>
    obtain ⟨usable, number⟩ := ready
    obtain ⟨s, v, made, usable⟩ :=
      Function.exec_text_object (f := .getTranslationUnitSpelling) rfl usable
    exact ⟨s, v, made, usable, number⟩
  refine .after (.log _ _ _) (fun _ w ready => ⟨(), _, rfl, ready⟩) fun _ => ?_
  refine .lift (fun _ _ ready => ready.2) fun n _ => ?_
  refine .before (.number rfl fun side w ready => ⟨by simpa [Actual.objects] using ready.1, ?fits⟩)
    (fun n => ?_) (fun _ _ _ _ h => by cases h) ?_
  case fits =>
    change none ∉ [some _, some _, some _, some _]
    simp
  · exact .ite ((Calls.log _ _ _).bind fun _ => .throw _) (.pure _)
  · rintro c a x v e side
    cases e
    by_cases well : a.number c = 0
    · refine ends_of_ok well ?_ rfl
      rw [if_neg (not_not_intro well)]
      rfl
    · refine ends_of_error (x := .notReparsed (a.number c)) well (fun _ e => by cases e) ?_ rfl rfl
      rw [if_pos well]
      rfl

end TranslationUnit

namespace CompilationDatabase

theorem code_cases {n : Int} {m : Member}
    (h : Enumeration.compilationDatabaseErrorCode.ofNumber? n = some m) :
    (n = 0 ∧ m.name = "NO_ERROR" ∨ n = 1 ∧ m.name ≠ "NO_ERROR") ∧ (cause m).number = 1 := by
  by_cases zero : n = 0
  · subst zero
    cases h
    decide +kernel
  · by_cases one : n = 1
    · subst one
      cases h
      decide +kernel
    · have unnamed : Enumeration.compilationDatabaseErrorCode.nameOf? n = none := by
        simp [Enumeration.nameOf?, Enumeration.members,
          Enumeration.compilationDatabaseErrorCodeMembers, Ne.symm zero, Ne.symm one]
      rw [Enumeration.ofNumber?_eq, Enumeration.nameFor?, unnamed] at h
      cases h

theorem asks (directory : Value) :
    (Value.handle <$> fromDirectory directory).Asks
      (fun side w => (Coded.database directory).Ready side w) .compilationDatabaseFromDirectory
      fun c a r _ => (Coded.database directory).Ends c a r := by
  refine .map ?_
  refine .lift (fun _ _ ready => ready) fun path atPath => ?_
  obtain ⟨s, shown⟩ := Value.exists_str_of_toPath atPath
  rw [shown]
  refine .after (.pure _) (fun _ w ready => ⟨s, w, rfl, ready⟩) fun _ => ?_
  refine .after (.log _ _ _) (fun _ w ready => ⟨(), _, rfl, ready⟩) fun _ => ?_
  refine .before (.invoke rfl fun side w ready => ?fits) (fun r => ?_)
    (fun _ _ _ _ h => nomatch h.1) ?_
  case fits =>
    obtain ⟨text, e⟩ := Value.exists_cText_of_toPath atPath
    constructor
    · simp [Actual.objects, Value.objects_of_cText (Option.isSome_of_eq_some e)]
    · change none ∉ [directory.cText?.map Argument.text]
      simp [e]
  · refine (Calls.require _ _).bind fun _ => .ite .create ?_
    dsimp only
    split
    · refine (Calls.invokeBare (by decide)).map.bind fun _ => ?_
      exact (Calls.log _ _ _).bind fun _ => .throw _
    · exact (Calls.log _ _ _).bind fun _ => .throw _
  · rintro c a x v ⟨e, -⟩ side
    cases e
    dsimp only
    cases known : Enumeration.compilationDatabaseErrorCode.ofNumber?
        (Number.Width.uint32.wrap (a.code.getD 0)) with
    | none =>
      have ill : ¬(Coded.database directory).Succeeds c a := by
        rintro ⟨zero, -⟩
        rw [show Number.Width.uint32.wrap (a.code.getD 0) = 0 from zero] at known
        cases known
      rw [Binding.exec_bind_error (Enumeration.exec_require_unknown known side v)]
      exact .inr ⟨ill, _, rfl, known, rfl⟩
    | some m =>
      rw [Binding.exec_bind_ok (Enumeration.exec_require_known known side v)]
      obtain ⟨cases, carried⟩ := code_cases known
      by_cases well : m.name = "NO_ERROR" ∧ a.handle.isSome
      · rw [if_pos well]
        obtain ⟨zero, -⟩ | ⟨-, named⟩ := cases
        · exact Coded.ends_of_ok ⟨zero, well.2⟩ rfl ⟨_, rfl, rfl⟩
        · exact absurd well.1 named
      · refine Coded.ends_of_error (x := .databaseNotLoaded (cause m)) ?_
          (Coded.knows_of_ofNumber? rfl known) ?_ rfl ?_
        · rintro ⟨zero, some⟩
          obtain ⟨-, named⟩ | ⟨one, -⟩ := cases
          · exact well ⟨named, some⟩
          · cases one.symm.trans zero
        · rw [if_neg well]
          cases a.handle <;> rfl
        · refine congrArg some (carried.trans ?_)
          obtain ⟨zero, -⟩ | ⟨one, -⟩ := cases
          · exact (if_pos zero).symm
          · have nonzero : (Coded.database directory).code c a ≠ 0 := fun zero => by
              cases one.symm.trans zero
            exact one.symm.trans (if_neg nonzero).symm

end CompilationDatabase

namespace Coded

theorem asks (o : Coded) :
    o.run.Asks (fun side w => o.Ready side w) o.function fun c a r _ => o.Ends c a r := by
  cases o with
  | save u filename options => exact TranslationUnit.save_asks u filename options
  | reparse u files options => exact TranslationUnit.reparse_asks u files options
  | uniqueId f => exact File.asks f
  | layout q => exact Layout.asks q
  | database directory => exact CompilationDatabase.asks directory

variable {c : Call} {a : Answer} {o : Coded} {r : Except Failure Value}

theorem Ends.returns_iff (h : o.Ends c a r) : (∃ v, r = .ok v) ↔ o.Succeeds c a := by
  obtain ⟨-, ⟨well, v, e, -⟩ | ⟨ill, x, e, -⟩⟩ | ⟨ill, kinds, -, -, e⟩ := h
  · exact iff_of_true ⟨v, e⟩ well
  · exact iff_of_false (fun ⟨v, ok⟩ => nomatch e.symm.trans ok) ill
  · exact iff_of_false (fun ⟨v, ok⟩ => nomatch e.symm.trans ok) ill

theorem Nameless.not_knows (h : o.Nameless c a r) : ¬(o.Succeeds c a ∨ o.Knows c a) := by
  obtain ⟨ill, kinds, looked, unnamed, -⟩ := h
  rintro (well | knows)
  · exact ill well
  · simpa [unnamed] using knows kinds looked

theorem Nameless.not_promise (h : o.Nameless c a r) : ¬o.Promise c a r := by
  obtain ⟨ill, kinds, -, -, e⟩ := h
  rintro (⟨well, -⟩ | ⟨-, x, error, cls, -⟩)
  · exact ill well
  · cases e.symm.trans error
    cases cls

theorem Ends.promise_iff (h : o.Ends c a r) :
    o.Promise c a r ↔ o.Succeeds c a ∨ o.Knows c a := by
  obtain ⟨known, promise⟩ | nameless := h
  · exact iff_of_true promise known
  · exact iff_of_false nameless.not_promise nameless.not_knows

theorem Ends.foreign_iff (h : o.Ends c a r) :
    (∃ e, r = .error e ∧ e.class? = none) ↔ ¬(o.Succeeds c a ∨ o.Knows c a) := by
  obtain ⟨known, promise⟩ | nameless := h
  · refine iff_of_false ?_ (not_not_intro known)
    rintro ⟨x, e, foreign⟩
    obtain ⟨-, v, ok, -⟩ | ⟨-, y, error, cls, -⟩ := promise
    · cases ok.symm.trans e
    · cases error.symm.trans e
      cases foreign.symm.trans cls
  · refine iff_of_true ?_ nameless.not_knows
    obtain ⟨-, kinds, -, -, e⟩ := nameless
    exact ⟨_, e, rfl⟩

/-- The native side is asked once, unless the operation fails before, which it does not when the
object can be used and the rest fits. It returns just if the answer says that all went well, and
then what is documented. A failure is the documented error, with its code, as long as the code has a
name where names are looked up, and else no error of the interface. -/
theorem failure_codes_reported (o : Coded) :
    o.run.Asks (fun side w => o.Ready side w) o.function fun c a r _ =>
      ((∃ v, r = .ok v) ↔ o.Succeeds c a) ∧
      (o.Promise c a r ↔ o.Succeeds c a ∨ o.Knows c a) ∧
      ((∃ e, r = .error e ∧ e.class? = none) ↔ ¬(o.Succeeds c a ∨ o.Knows c a)) :=
  o.asks.mono fun _ _ _ _ ends => ⟨ends.returns_iff, ends.promise_iff, ends.foreign_iff⟩

def answering (n : Int) : Side where
  answer _ c := match c.function with
    | .saveTranslationUnit => { result := .int n }
    | _ => {}

def unitOpen : World :=
  (Session.run {} [.mk (.value (.handle (.unit true) (some "unit"))) (some "unit")]).2

def saving : Coded := .save ⟨.translationUnit, 0⟩ (.text "out.ast") .none

theorem failure_codes_reported_saving :
    ∃ e, (saving.run.exec (answering 2) unitOpen).1 = .error e ∧ e.class? = some .unitSave ∧
      e.code? = some 2 := by
  have usable : (Handle.mk .translationUnit 0).Usable unitOpen :=
    Handle.obstacle_eq_none.mp (by decide +kernel)
  obtain ⟨earlier, later, c, function, -, -, -, promise, -⟩ | ⟨stuck, -⟩ :=
    failure_codes_reported saving (answering 2) unitOpen
  · have code : saving.code c ((answering 2).answer (earlier ++ unitOpen.calls) c) = 2 := by
      obtain ⟨f, arguments⟩ := c
      cases function
      rfl
    have knows : saving.Knows c ((answering 2).answer (earlier ++ unitOpen.calls) c) := by
      intro kinds e
      cases e
      rw [code]
      decide +kernel
    obtain ⟨well, -⟩ | ⟨-, x, failed, cls, carried⟩ := promise.mpr (.inr knows)
    · cases code.symm.trans well
    · exact ⟨x, failed, cls, carried.trans (congrArg some code)⟩
  · exact absurd ⟨usable, ⟨_, rfl⟩, .inl rfl⟩ stuck

theorem unnamed_code_misreported :
    (saving.run.exec (answering 4) unitOpen).2.calls.map (·.function) =
        [.saveTranslationUnit, .defaultSaveOptions] ∧
      ∃ e, (saving.run.exec (answering 4) unitOpen).1 = .error e ∧ e.class? = none := by
  exact ⟨by decide +kernel, .notMember "4" "SaveError", rfl, rfl⟩

end Coded

end ClangIndex
