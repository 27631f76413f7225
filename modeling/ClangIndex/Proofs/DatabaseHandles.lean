import ClangIndex.Proofs.ToolReleases

/-!
What becomes of the handle when a compilation database is opened. The native side answers with a
handle and with a code, and neither goes by the other. The code is looked up before the handle is
looked after, so that a handle under a code without a name is kept by no object and is not given
back either.
-/

namespace ClangIndex.CompilationDatabase

open Native (Answer Call Function Side)

def reported (a : Answer) : Int := Number.Width.uint32.wrap (a.code.getD 0)

def farewell (s : Option Symbol) : List Call :=
  s.toList.map fun s => ⟨.compilationDatabaseDispose, [.handle (some s)]⟩

/-- A handle that was answered is looked after. Either a new object keeps it, and it is not given
back, or opening fails and has given it back once. -/
inductive LookedAfter (w : World) (c : Call) (s : Option Symbol) :
    Except Failure Handle → World → Prop
  | kept {h : Handle} {v : World} (some : s.isSome) (cls : h.cls = .compilationDatabase)
      (new : w.handle? h = none) (keeps : h.Keeps v s) (calls : v.calls = c :: w.calls) :
      LookedAfter w c s (.ok h) v
  | returned {e : Failure} {v : World} (calls : v.calls = farewell s ++ c :: w.calls) :
      LookedAfter w c s (.error e) v

/-- A handle is lost: no object keeps it, and it was not given back. -/
structure Lost (w : World) (c : Call) (s : Option Symbol) (r : Except Failure Handle)
    (v : World) : Prop where
  some : s.isSome
  fails : ∃ e, r = .error e
  calls : v.calls = c :: w.calls

variable {directory : Value} {side : Side} {u v w : World} {c : Call} {a : Answer}

theorem Lost.not_lookedAfter {s : Option Symbol} {r : Except Failure Handle}
    (h : Lost w c s r v) : ¬LookedAfter w c s r v := by
  obtain ⟨some, ⟨e, rfl⟩, calls⟩ := h
  intro lookedAfter
  cases lookedAfter with
  | returned returned =>
    obtain ⟨t, rfl⟩ := Option.isSome_iff_exists.mp some
    exact absurd (congrArg List.length (calls.symm.trans returned)) (by simp [farewell])

def conclude (shown : String) (a : Answer) : Binding Handle := do
  let code ← Enumeration.compilationDatabaseErrorCode.require (reported a)
  if code.name = "NO_ERROR" ∧ a.handle.isSome then
    Handle.create .compilationDatabase (.handle a.handle)
  else
    if a.handle.isSome then
      discard (Function.compilationDatabaseDispose.invokeBare (.handle a.handle))
    Binding.log .warning "clangbind.compilation_db"
      ("Could not load compilation database from " ++ shown)
    throw (.databaseNotLoaded (cause code))

theorem ofNumber?_isSome_iff {n : Int} :
    (Enumeration.compilationDatabaseErrorCode.ofNumber? n).isSome ↔ n = 0 ∨ n = 1 := by
  refine ⟨fun some => ?_, fun named => ?_⟩
  · obtain ⟨m, known⟩ := Option.isSome_iff_exists.mp some
    exact (code_cases known).1.imp And.left And.left
  · obtain rfl | rfl := named <;> rfl

theorem lookedAfter_conclude (handles : u.handles = w.handles) (calls : u.calls = c :: w.calls)
    (named : reported a = 0 ∨ reported a = 1) (shown : String) (side : Side) :
    LookedAfter w c a.handle ((conclude shown a).exec side u).1
      ((conclude shown a).exec side u).2 := by
  obtain ⟨code, known⟩ := Option.isSome_iff_exists.mp (ofNumber?_isSome_iff.mpr named)
  rw [conclude, Binding.exec_bind_ok (Enumeration.exec_require_known known side u)]
  cases e : a.handle with
  | none =>
    rw [if_neg (by simp)]
    exact .returned calls
  | some s =>
    by_cases well : code.name = "NO_ERROR"
    · rw [if_pos ⟨well, rfl⟩]
      let state : HandleState :=
        ⟨.compilationDatabase, some (.handle (some s)), .plain, none, rfl⟩
      have new : w.handle? ⟨.compilationDatabase, u.handles.size⟩ = none := by
        simp [World.handle?, handles]
      have keeps : Handle.Keeps { u with handles := u.handles.push state }
          ⟨state.cls, u.handles.size⟩ (some s) := .of_push rfl rfl rfl rfl (by simp [state])
      exact .kept rfl rfl new keeps calls
    · rw [if_neg fun h => well h.1]
      exact .returned (congrArg (_ :: ·) calls)

theorem exec_conclude_unnamed (unnamed : ¬(reported a = 0 ∨ reported a = 1)) (shown : String)
    (side : Side) (u : World) : ∃ e, (conclude shown a).exec side u = (.error e, u) := by
  have unknown : Enumeration.compilationDatabaseErrorCode.ofNumber? (reported a) = none :=
    Option.not_isSome_iff_eq_none.mp (mt ofNumber?_isSome_iff.mp unnamed)
  exact ⟨_, Binding.exec_bind_error (Enumeration.exec_require_unknown unknown side u)⟩

theorem conclude_lookedAfter_iff (handles : u.handles = w.handles) (calls : u.calls = c :: w.calls)
    (shown : String) (side : Side) :
    let opened := (conclude shown a).exec side u
    (LookedAfter w c a.handle opened.1 opened.2 ↔
        a.handle = none ∨ reported a = 0 ∨ reported a = 1) ∧
      (Lost w c a.handle opened.1 opened.2 ↔
        a.handle.isSome ∧ ¬(reported a = 0 ∨ reported a = 1)) := by
  dsimp only
  by_cases named : reported a = 0 ∨ reported a = 1
  · have kept := lookedAfter_conclude handles calls named shown side
    exact ⟨iff_of_true kept (.inr named),
      iff_of_false (fun lost => lost.not_lookedAfter kept) fun h => h.2 named⟩
  · obtain ⟨e, ended⟩ := exec_conclude_unnamed named shown side u
    rw [ended]
    cases answered : a.handle with
    | none =>
      exact ⟨iff_of_true (.returned calls) (.inl rfl),
        iff_of_false (fun lost => nomatch lost.some) fun h => nomatch h.1⟩
    | some s =>
      have lost : Lost w c (some s) (.error e) u := ⟨rfl, ⟨e, rfl⟩, calls⟩
      exact ⟨iff_of_false lost.not_lookedAfter fun h => h.elim nofun named,
        iff_of_true lost ⟨rfl, named⟩⟩

theorem exec_fromDirectory_of_path {path : Value} (atPath : directory.toPath = .ok path)
    (side : Side) (w : World) :
    ∃ d : Dealing, d.call.function = .compilationDatabaseFromDirectory ∧
      ∃ records shown, (fromDirectory directory).exec side w =
        (conclude shown (side.answer w.calls d.call)).exec side
          { w with records, dealings := d :: w.dealings } := by
  obtain ⟨shown, str⟩ := Value.exists_str_of_toPath atPath
  obtain ⟨text, converted⟩ := Value.exists_cText_of_toPath atPath
  let u : World := { w with records :=
    ⟨.debug, "clangbind.compilation_db", "Loading compilation database from " ++ shown,
      w.context⟩ :: w.records }
  obtain ⟨d, function, made⟩ : ∃ d : Dealing,
      d.call.function = .compilationDatabaseFromDirectory ∧
        (Function.compilationDatabaseFromDirectory.invoke [.value directory]).exec side u =
          (.ok (d.call, side.answer w.calls d.call), { u with dealings := d :: w.dealings }) := by
    refine Function.exec_invoke side rfl rfl ?_ ?_
    · simp [Actual.objects, Value.objects_of_cText (Option.isSome_of_eq_some converted)]
    · change none ∉ [directory.cText?.map Native.Argument.text]
      simp [converted]
  have given : (liftM directory.toPath : Binding Value).exec side w = (.ok path, w) := by
    rw [atPath]
    rfl
  have written : path.str.exec side w = (.ok shown, w) := by
    rw [str]
    rfl
  have logged : (Binding.log .debug "clangbind.compilation_db"
      ("Loading compilation database from " ++ shown)).exec side w = (.ok (), u) := rfl
  refine ⟨d, function, u.records, shown, ?_⟩
  rw [fromDirectory, Binding.exec_bind_ok given, Binding.exec_bind_ok written,
    Binding.exec_bind_ok logged, Binding.exec_bind_ok made]
  rfl

/-- A handle that the native side answers is looked after exactly if it is null or the code that
comes with it has a name. Under any other code it is lost. -/
theorem handle_lookedAfter_iff (directory : Value) (side : Side) (w : World) :
    (∃ e, directory.toPath = .error e ∧ (fromDirectory directory).exec side w = (.error e, w)) ∨
    ∃ c, c.function = .compilationDatabaseFromDirectory ∧
      let a := side.answer w.calls c
      let opened := (fromDirectory directory).exec side w
      (LookedAfter w c a.handle opened.1 opened.2 ↔
          a.handle = none ∨ reported a = 0 ∨ reported a = 1) ∧
        (Lost w c a.handle opened.1 opened.2 ↔
          a.handle.isSome ∧ ¬(reported a = 0 ∨ reported a = 1)) := by
  cases atPath : directory.toPath with
  | error e =>
    have given : (liftM directory.toPath : Binding Value).exec side w = (.error e, w) := by
      rw [atPath]
      rfl
    exact .inl ⟨e, rfl, by rw [fromDirectory, Binding.exec_bind_error given]⟩
  | ok path =>
    obtain ⟨d, function, records, shown, goes⟩ := exec_fromDirectory_of_path atPath side w
    refine .inr ⟨d.call, function, ?_⟩
    rw [goes]
    refine conclude_lookedAfter_iff ?_ ?_ shown side
    · rfl
    · rfl

def answeringUnnamed : Side where
  answer _ c := match c.function with
    | .compilationDatabaseFromDirectory => { result := .handle (some "db"), code := some 2 }
    | _ => {}

theorem handle_lost_unnamed :
    let opened := (fromDirectory (.text "build")).exec answeringUnnamed {}
    opened.2.calls.map (·.function) = [.compilationDatabaseFromDirectory] ∧
      ∀ c, ¬LookedAfter {} c (some "db") opened.1 opened.2 := by
  let opened := (fromDirectory (.text "build")).exec answeringUnnamed {}
  have fails : opened.1.toOption.isNone = true := by decide +kernel
  have calls : opened.2.calls.map (·.function) = [.compilationDatabaseFromDirectory] := by
    decide +kernel
  refine ⟨calls, fun c lookedAfter => ?_⟩
  change LookedAfter {} c (some "db") opened.1 opened.2 at lookedAfter
  generalize opened.1 = r at fails lookedAfter
  cases lookedAfter with
  | kept => cases fails
  | returned returned =>
    rw [returned] at calls
    exact absurd (congrArg List.length calls) (by simp [farewell])

end ClangIndex.CompilationDatabase
