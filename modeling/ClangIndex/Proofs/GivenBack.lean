import ClangIndex.Binding.Database
import ClangIndex.Binding.TranslationUnit
import ClangIndex.Proofs.OwnedDiagnostics
import ClangIndex.Proofs.Traversals

/-!
What the calls of a run obtain, and what they give back. Most operations only look around: they
obtain nothing, give nothing back, and leave the objects as they are. A block that ends with
disposing of an object gives back what that holds, whatever happens inside.
-/

namespace ClangIndex

open Native (Answer Argument Call Function HandleClass Side)

namespace Native

/-- The call that is due for an answer, where a call obtains something. For an index and a
diagnostic null is given back too, for a unit and for commands null is nothing. A database that is
no success is given back at once, unless its code has no name. -/
def Call.due? (c : Call) (a : Answer) : Option Call :=
  match c.function with
  | .createIndex => some ⟨.disposeIndex, [.handle a.handle]⟩
  | .getDiagnostic => some ⟨.disposeDiagnostic, [.handle a.handle]⟩
  | .parseTranslationUnit => a.handle.map fun s => ⟨.disposeTranslationUnit, [.handle (some s)]⟩
  | .compilationDatabaseGetAllCompileCommands =>
    a.handle.map fun s => ⟨.compileCommandsDispose, [.handle (some s)]⟩
  | .compilationDatabaseFromDirectory =>
    (Enumeration.compilationDatabaseErrorCode.ofNumber?
      (Number.Width.uint32.wrap (a.code.getD 0))).bind fun _ =>
        a.handle.map fun s => ⟨.compilationDatabaseDispose, [.handle (some s)]⟩
  | _ => none

def Function.obtains : Function → Bool
  | .createIndex | .getDiagnostic | .parseTranslationUnit
  | .compilationDatabaseGetAllCompileCommands | .compilationDatabaseFromDirectory => true
  | _ => false

/-- The calls that are due for those of a function, in their order. -/
def due (f : Function) (heard : List (Call × Answer)) : List Call :=
  (heard.filter fun x => x.1.function == f).filterMap fun x => x.1.due? x.2

def returned (made : List Call) : List Call := made.filter (·.function.releases)

def Side.heard (side : Side) (before : List Call) : List Call → List (Call × Answer)
  | [] => []
  | c :: later => (c, side.answer before c) :: side.heard (c :: before) later

variable {side : Side} {before made : List Call} {f : Function}

theorem Function.obtains_of_releases (h : f.releases = true) : f.obtains = false := by
  unfold obtains
  split <;> first | rfl | cases h

theorem Side.heard_append (side : Side) (before xs ys : List Call) :
    side.heard before (xs ++ ys) =
      side.heard before xs ++ side.heard (xs.reverse ++ before) ys := by
  induction xs generalizing before with
  | nil => rfl
  | cons c xs ih => simp [heard, ih]

theorem due_append (xs ys : List (Call × Answer)) : due f (xs ++ ys) = due f xs ++ due f ys := by
  simp [due]

theorem due_of_obtains (h : ∀ c ∈ made, c.function.obtains = false) (before : List Call) :
    due f (side.heard before made) = [] := by
  induction made generalizing before with
  | nil => rfl
  | cons c later ih =>
    obtain ⟨none, others⟩ := List.forall_mem_cons.mp h
    have first : due f [(c, side.answer before c)] = [] := by
      have nothing : c.due? (side.answer before c) = Option.none := by
        unfold Call.due?
        split <;> first | rfl | (rename_i e; rw [e] at none; cases none)
      by_cases same : c.function == f <;> simp [due, same, nothing]
    rw [Side.heard, ← List.singleton_append, due_append, first, ih others]
    rfl

end Native

namespace World

variable {side : Side} {u v w : World}

/-- On the way from one state to another these calls gave something back, and those were due. -/
def Passage (side : Side) (w v : World) (given : List Call) (owed : Function → List Call) : Prop :=
  ∃ made : List Call, v.calls = made.reverse ++ w.calls ∧ Native.returned made = given ∧
    ∀ f, Native.due f (side.heard w.calls made) = owed f

theorem Passage.refl (w : World) : Passage side w w [] fun _ => [] := ⟨[], rfl, rfl, fun _ => rfl⟩

theorem Passage.of_calls {given : List Call} {owed : Function → List Call} {w' v' : World}
    (h : Passage side w v given owed) (before : w'.calls = w.calls) (after : v'.calls = v.calls) :
    Passage side w' v' given owed := by
  obtain ⟨made, calls, returned, due⟩ := h
  exact ⟨made, by rw [after, before, calls], returned, by rwa [before]⟩

theorem Passage.trans {given given' : List Call} {owed owed' : Function → List Call}
    (h : Passage side w u given owed) (k : Passage side u v given' owed') :
    Passage side w v (given ++ given') fun f => owed f ++ owed' f := by
  obtain ⟨first, calls, returned, due⟩ := h
  obtain ⟨next, calls', returned', due'⟩ := k
  refine ⟨first ++ next, by simp [calls', calls], ?_, fun f => ?_⟩
  · rw [← returned, ← returned', Native.returned, List.filter_append]
    rfl
  · rw [Native.Side.heard_append, Native.due_append, due, ← calls, due']

theorem Passage.of_returned {made : List Call} (calls : v.calls = made.reverse ++ w.calls)
    (h : ∀ c ∈ made, c.function.releases = true) : Passage side w v made fun _ => [] :=
  ⟨made, calls, List.filter_eq_self.mpr h, fun _ =>
    Native.due_of_obtains (fun c mem => Native.Function.obtains_of_releases (h c mem)) _⟩

structure Browses (w v : World) : Prop where
  adds : Diagnostics.Adds w v
  made : ∃ made : List Dealing, v.dealings = made ++ w.dealings ∧
    ∀ d ∈ made, d.call.function.releases = false ∧ d.call.function.obtains = false

namespace Browses

theorem of_eq (handles : v.handles = w.handles) (dealings : v.dealings = w.dealings) :
    w.Browses v :=
  ⟨⟨[], by rw [handles, List.append_nil]⟩, [], dealings, List.forall_mem_nil _⟩

theorem refl (w : World) : w.Browses w := of_eq rfl rfl

theorem trans (h : w.Browses u) (k : u.Browses v) : w.Browses v := by
  obtain ⟨⟨new, added⟩, made, dealings, idle⟩ := h
  obtain ⟨⟨new', added'⟩, made', dealings', idle'⟩ := k
  refine ⟨⟨new ++ new', by rw [added', added, List.append_assoc]⟩, made' ++ made,
    by rw [dealings', dealings, List.append_assoc], fun d mem => ?_⟩
  exact (List.mem_append.mp mem).elim (idle' d) (idle d)

theorem passage (h : w.Browses v) (side : Side) : Passage side w v [] fun _ => [] := by
  obtain ⟨-, made, dealings, idle⟩ := h
  refine ⟨(made.map (·.call)).reverse, by simp [calls, dealings], ?_, fun f => ?_⟩
  · refine List.filter_eq_nil_iff.mpr fun c mem => ?_
    obtain ⟨d, md, rfl⟩ := List.mem_map.mp (List.mem_reverse.mp mem)
    simp [(idle d md).1]
  · refine Native.due_of_obtains (fun c mem => ?_) _
    obtain ⟨d, md, rfl⟩ := List.mem_map.mp (List.mem_reverse.mp mem)
    exact (idle d md).2

end Browses

end World

namespace Binding

variable {α β : Type} {m : Binding α} {g : α → Binding β} {f : Function}

def Browses (m : Binding α) : Prop := m.Within World.Browses

namespace Browses

theorem of_eq (h : ∀ side w, (m.exec side w).2.handles = w.handles ∧
    (m.exec side w).2.dealings = w.dealings) : m.Browses :=
  fun side w => .of_eq (h side w).1 (h side w).2

theorem pure (a : α) : (pure a : Binding α).Browses := of_eq fun _ _ => ⟨rfl, rfl⟩

theorem throw (e : Failure) : (throw e : Binding α).Browses := of_eq fun _ _ => ⟨rfl, rfl⟩

theorem read : (MonadReaderOf.read : Binding Side).Browses := of_eq fun _ _ => ⟨rfl, rfl⟩

theorem now : World.now.Browses := of_eq fun _ _ => ⟨rfl, rfl⟩

theorem log (level : Log.Level) (logger message : String) :
    (Binding.log level logger message).Browses := of_eq fun _ _ => ⟨rfl, rfl⟩

theorem print (s : String) : (Binding.print s).Browses := of_eq fun _ _ => ⟨rfl, rfl⟩

theorem copying (n : StateM Ledger α) (h : ForeignString.Settles n) :
    (Binding.copying n h).Browses := of_eq fun _ _ => ⟨rfl, rfl⟩

theorem create {cls : HandleClass} {held : Held} {role : Role} {fits : role.fits cls = true} :
    (Handle.create cls held role fits).Browses :=
  fun _ _ => ⟨⟨_, Array.toList_push⟩, [], rfl, List.forall_mem_nil _⟩

theorem bind (h : m.Browses) (k : ∀ a, (g a).Browses) : (m >>= g).Browses :=
  Within.bind World.Browses.trans h k

theorem ite {c : Prop} [Decidable c] {n : Binding α} (h : m.Browses) (k : n.Browses) :
    (if c then m else n).Browses := by
  split
  · exact h
  · exact k

theorem attempt (h : m.Browses) : (Binding.attempt m).Browses := h

theorem mapM {g : α → Binding β} {xs : List α} (h : ∀ a ∈ xs, (g a).Browses) :
    (xs.mapM g).Browses :=
  Within.mapM World.Browses.refl World.Browses.trans h

section

variable {actuals : List Actual} {keeps : f.releases = false}

theorem invoke (idle : f.obtains = false) : (f.invoke actuals keeps).Browses := by
  intro side w
  obtain ⟨x, refused⟩ | ⟨d, made, function, -⟩ := f.perform_cases none actuals side w
  · rw [show ((f.invoke actuals keeps).exec side w).2 = w from congrArg Prod.snd refused]
    exact .refl w
  · rw [show ((f.invoke actuals keeps).exec side w).2 = _ from congrArg Prod.snd made]
    refine ⟨⟨[], (List.append_nil _).symm⟩, [d], rfl, fun c mem => ?_⟩
    rw [List.mem_singleton.mp mem, function]
    exact ⟨keeps, idle⟩

theorem number (idle : f.obtains = false) : (f.number actuals keeps).Browses :=
  (invoke idle).bind fun _ => pure _

theorem text (idle : f.obtains = false) : (f.text actuals keeps).Browses :=
  (invoke idle).bind fun _ => copying _ _

theorem struct (idle : f.obtains = false) : (f.struct actuals keeps).Browses :=
  (invoke idle).bind fun _ => pure _

theorem handle (idle : f.obtains = false) : (f.handle actuals keeps).Browses :=
  (invoke idle).bind fun _ => pure _

theorem wrap? {c : HandleClass} {h : Option Symbol} {fits : Role.plain.fits c = true} :
    (Function.wrap? c h fits).Browses := by
  cases h with
  | none => exact pure _
  | some s => exact create.bind fun _ => pure _

theorem completions (answer : Native.Answer) (unit : Option Handle) :
    (CodeCompleteResults.ofAnswer answer unit).Browses := by
  unfold CodeCompleteResults.ofAnswer
  split
  · exact (log _ _ _).bind fun _ => create
  · exact .bind (of_eq fun _ _ => ⟨rfl, rfl⟩) fun _ => create

theorem call (idle : f.obtains = false) : (f.call actuals keeps).Browses := by
  refine (invoke idle).bind fun _ => ?_
  dsimp only
  split
  case h_1 => exact (copying _ _).bind fun _ => pure _
  case h_6 | h_7 => exact wrap?
  case h_8 | h_9 => exact create.bind fun _ => pure _
  case h_10 => exact (completions _ _).bind fun _ => pure _
  all_goals exact pure _

end

theorem require (e : Enumeration) (n : Int) : (e.require n).Browses := by
  unfold Enumeration.require
  split
  · exact pure _
  · exact throw _

theorem andFinally {last : Binding Unit} (h : m.Browses) (k : last.Browses) :
    (Binding.andFinally m last).Browses := by
  refine (attempt h).bind fun r => ?_
  cases r with
  | ok a => exact k.bind fun _ => pure a
  | error e => exact k.bind fun _ => throw e

theorem inPhase (phase : String) (h : m.Browses) : (Binding.inPhase phase m).Browses := by
  have enter (phase : String) : (update fun w =>
      { w with context := { w.context with phase := phase } }).Browses :=
    of_eq fun _ _ => ⟨rfl, rfl⟩
  unfold Binding.inPhase
  exact now.bind fun _ => (enter _).bind fun _ => andFinally h (enter _)

end Browses

end Binding

theorem Cursor.browses_visit {visitor : Visitor Cursor}
    (h : ∀ child parent, (visitor child parent >>= Direction.ofAnswer).Browses) (c : Cursor) :
    (c.visit visitor).Browses :=
  c.within_visit World.Browses.refl World.Browses.trans (Binding.Browses.invoke rfl)
    Binding.Browses.log fun _ _ => h _ _

namespace Binding

variable {α : Type} {m : Binding α} {side : Side} {u v w : World} {r : Except Failure α}

theorem exec_andFinally {last : Binding Unit} (h : m.exec side w = (r, u))
    (k : last.exec side u = (.ok (), v)) : (andFinally m last).exec side w = (r, v) := by
  have attempted : (attempt m).exec side w = (.ok r, u) := by
    change (let (r, w) := m.exec side w; (Except.ok r, w)) = _
    rw [h]
  rw [andFinally, exec_bind_ok attempted]
  cases r with
  | ok a => exact exec_bind_ok k
  | error e => exact exec_bind_ok k

theorem exec_inPhase (phase : String) (m : Binding α) (side : Side) (w : World) :
    ∃ inside outside, (inPhase phase m).exec side w =
      ((m.exec side { w with context := inside }).1,
        { (m.exec side { w with context := inside }).2 with context := outside }) := by
  let inside : Log.Context := { w.context with phase := phase }
  let u := (m.exec side { w with context := inside }).2
  refine ⟨inside, { u.context with phase := w.context.phase }, ?_⟩
  have entered : (update fun w => { w with context := { w.context with phase := phase } }).exec
      side w = (.ok (), { w with context := inside }) := rfl
  rw [inPhase, exec_bind_ok (show World.now.exec side w = (.ok w, w) from rfl),
    exec_bind_ok entered]
  exact exec_andFinally rfl rfl

end Binding

namespace Handle

variable {side : Side} {w : World} {h : Handle} {s : Option Symbol} {f : Function}

structure Keeps (w : World) (h : Handle) (s : Option Symbol) : Prop where
  holds : w.held? h = some (.handle s)
  owned : (w.role h).borrowed = false
  own : (w.role h).owner = none
  other : h.cls ≠ .tokens

theorem Keeps.of_handle? {v : World} (k : Keeps w h s) (same : v.handle? h = w.handle? h) :
    Keeps v h s := by
  have role : v.role h = w.role h := by rw [World.role, World.role, same]
  have held : v.held? h = w.held? h := by rw [World.held?, World.held?, same]
  exact ⟨held ▸ k.holds, role ▸ k.owned, role ▸ k.own, k.other⟩

theorem Keeps.stands (k : Keeps w h s) : ∃ state, w.handle? h = some state := by
  obtain ⟨state, stands, -⟩ := Option.bind_eq_some_iff.mp k.holds
  exact ⟨state, stands⟩

theorem Keeps.adds {v : World} (k : Keeps w h s) (b : Diagnostics.Adds w v) : Keeps v h s := by
  obtain ⟨state, stands⟩ := k.stands
  exact k.of_handle? ((b.handle? stands).trans stands.symm)

theorem Keeps.usable (k : Keeps w h s) : h.Usable w :=
  ⟨by simp [World.isDisposed, k.holds], fun o e => by rw [k.own] at e; cases e⟩

def farewells (cls : HandleClass) (f : Function) (s : Option Symbol) : List Call :=
  if s.isNone && cls.emptyWhenNull then [] else [⟨f, [.handle s]⟩]

theorem Keeps.exec_dispose (k : Keeps w h s) (releases : h.cls.release? = some f) (side : Side) :
    ∃ v, h.dispose.exec side w = (.ok (), v) ∧ (∀ o, o ≠ h → v.handle? o = w.handle? o) ∧
      World.Passage side w v (farewells h.cls f s) fun _ => [] := by
  have others (o : Handle) (ne : o ≠ h) : (w.retire h).handle? o = w.handle? o :=
    World.handle?_retire_other ne
  have e := returns?_of_not_tokens (s := s) k.other k.owned fun o e => by rw [k.own] at e; cases e
  cases empty : s.isNone && h.cls.emptyWhenNull with
  | true =>
    rw [empty, if_pos rfl] at e
    have nothing : h.release? w (.handle s) = none := by
      rw [release?, releases]
      exact congrArg (Option.map _) e
    refine ⟨_, dispose_of_no_release k.holds nothing, others, ?_⟩
    rw [farewells, empty, if_pos rfl]
    exact (World.Passage.refl w).of_calls rfl rfl
  | false =>
    rw [empty, if_neg Bool.false_ne_true] at e
    have release : h.release? w (.handle s) = some (f, [.native (.handle s)]) := by
      rw [release?, releases]
      exact congrArg (Option.map _) e
    let d := Actual.dealing (w.retire h) ⟨f, [.handle s]⟩ (some h) [.native (.handle s)]
    have given : h.giveUp.exec side w =
        (.ok (some f), { w.retire h with dealings := d :: w.dealings }) := by
      simp only [Binding.exec, giveUp, k.holds, release]
      rfl
    obtain ⟨records, ended⟩ : ∃ records, h.dispose.exec side w =
        (.ok (), { w.retire h with dealings := d :: w.dealings, records }) := by
      rw [dispose, Binding.exec_bind_ok given]
      split <;> exact ⟨_, rfl⟩
    refine ⟨_, ended, others, ?_⟩
    rw [farewells, empty, if_neg Bool.false_ne_true]
    exact .of_returned rfl
      (List.forall_mem_singleton.mpr (HandleClass.releases_of_release? releases))

end Handle

namespace Binding

variable {α : Type} {m : Binding α} {side : Side} {w u : World} {r : Except Failure α} {h : Handle}
  {s : Option Symbol} {f : Function}

theorem exec_releasing (e : m.exec side w = (r, u)) (k : h.Keeps u s)
    (releases : h.cls.release? = some f) :
    ∃ v, (releasing h m).exec side w = (r, v) ∧ (∀ o, o ≠ h → v.handle? o = u.handle? o) ∧
      World.Passage side u v (Handle.farewells h.cls f s) fun _ => [] := by
  obtain ⟨v, disposed, others, passage⟩ := k.exec_dispose releases side
  exact ⟨v, exec_andFinally e disposed, others, passage⟩

end Binding

end ClangIndex
