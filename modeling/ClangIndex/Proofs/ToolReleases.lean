import ClangIndex.Proofs.FailureCodes
import ClangIndex.Proofs.GivenBack
import ClangIndex.Proofs.MarshaledArrays
import ClangIndex.Tool.DatabaseDump
import ClangIndex.Tool.UnitDump

namespace ClangIndex

open Native (Answer Argument Call Function HandleClass Side)
open Binding (Browses)

def only (f : Function) (xs : List Call) : Function → List Call := fun g => if g = f then xs else []

theorem only_append (f : Function) (xs ys : List Call) :
    (fun g => only f xs g ++ only f ys g) = only f (xs ++ ys) := by
  funext g
  unfold only
  split <;> rfl

theorem only_nil (f : Function) : only f [] = fun _ => [] := by
  funext g
  unfold only
  split <;> rfl

theorem World.Passage.of_call {side : Side} {w v : World} {c : Call} {xs : List Call}
    (made : v.calls = c :: w.calls) (keeps : c.function.releases = false)
    (obtained : (c.due? (side.answer w.calls c)).toList = xs) :
    World.Passage side w v [] (only c.function xs) := by
  refine ⟨[c], made, by simp [Native.returned, keeps], fun f => ?_⟩
  unfold only
  by_cases same : f = c.function
  · subst same
    rw [if_pos rfl, ← obtained]
    cases e : c.due? (side.answer w.calls c) <;> simp [Native.due, Native.Side.heard, e]
  · simp [Native.due, Native.Side.heard, same, Ne.symm same]

namespace World

variable {v w : World} {s : HandleState}

theorem adds_of_push (h : v.handles = w.handles.push s) : Diagnostics.Adds w v :=
  ⟨[s], by rw [h, Array.toList_push]⟩

end World

theorem Handle.Keeps.of_push {v : World} {a : Array HandleState} {state : HandleState}
    {s : Option Symbol} (h : v.handles = a.push state) (holds : state.held = some (.handle s))
    (owned : state.role.borrowed = false) (own : state.role.owner = none)
    (other : state.cls ≠ .tokens) : Handle.Keeps v ⟨state.cls, a.size⟩ s := by
  have role := World.role_of_push h
  exact ⟨by simp [World.held?, World.handle?_of_push h, holds], role ▸ owned, role ▸ own, other⟩

structure Handle.Obtained (side : Side) (w v : World) (f : Function) (h : Handle)
    (s : Option Symbol) (xs : List Call) : Prop where
  keeps : h.Keeps v s
  adds : Diagnostics.Adds w v
  passage : World.Passage side w v [] (only f xs)

theorem Handle.obtained_of_push {side : Side} {v w : World} {s : HandleState} {d : Dealing}
    {held : Option Symbol} {f : Function} {xs : List Call}
    (handles : v.handles = w.handles.push s) (dealings : v.dealings = d :: w.dealings)
    (function : d.call.function = f) (keeps : f.releases = false)
    (holds : s.held = some (.handle held)) (owned : s.role.borrowed = false)
    (own : s.role.owner = none) (other : s.cls ≠ .tokens)
    (due : (d.call.due? (side.answer w.calls d.call)).toList = xs) :
    Handle.Obtained side w v f ⟨s.cls, w.handles.size⟩ held xs := by
  subst function
  exact ⟨.of_push handles holds owned own other, World.adds_of_push handles,
    .of_call (congrArg (·.map Dealing.call) dealings) keeps due⟩

/-- Diagnostics were read and given back. Objects of other classes are left as they were. -/
structure World.Repays (side : Side) (w v : World) : Prop where
  others : ∀ o s, o.cls ≠ .diagnostic → w.handle? o = some s → v.handle? o = some s
  repaid : ∃ xs, World.Passage side w v xs (only .getDiagnostic xs)

theorem World.Repays.after {side : Side} {u v w : World} (b : w.Browses u)
    (r : World.Repays side u v) : World.Repays side w v := by
  obtain ⟨xs, passage⟩ := r.repaid
  exact ⟨fun o s other e => r.others o s other (b.adds.handle? e), xs,
    (b.passage side).trans passage⟩

theorem Handle.Keeps.repays {side : Side} {v w : World} {h : Handle} {s : Option Symbol}
    (k : h.Keeps w s) (other : h.cls ≠ .diagnostic) (r : World.Repays side w v) : h.Keeps v s := by
  obtain ⟨state, stands⟩ := k.stands
  exact k.of_handle? ((r.others h state other stands).trans stands.symm)

theorem World.Browses.repays {v w : World} (b : w.Browses v) (side : Side) :
    World.Repays side w v :=
  ⟨fun _ _ _ => b.adds.handle?, [], only_nil _ ▸ b.passage side⟩

namespace Diagnostics.Adds

variable {u v w : World}

theorem trans (h : Adds w u) (k : Adds u v) : Adds w v := by
  obtain ⟨new, added⟩ := h
  obtain ⟨new', added'⟩ := k
  exact ⟨new ++ new', by rw [added', added, List.append_assoc]⟩

theorem held? (h : Adds w v) {k : Handle} {held : Held} (e : w.held? k = some held) :
    v.held? k = some held := by
  obtain ⟨s, stands, e⟩ := Option.bind_eq_some_iff.mp e
  exact Option.bind_eq_some_iff.mpr ⟨s, h.handle? stands, e⟩

end Diagnostics.Adds

namespace TranslationUnit

variable {side : Side} {w : World} {u : Handle}

def discharge (s : Option Symbol) : Call := ⟨.disposeDiagnostic, [.handle s]⟩

theorem exec_item (usable : u.Usable w) (i : Int) (side : Side) :
    ∃ v s, (Function.getDiagnostic.call [.value (.handle u), .value (.int i)]).exec side w =
        (.ok (.handle ⟨.diagnostic, w.handles.size⟩), v) ∧
      Diagnostics.Adds w v ∧ v.held? ⟨.diagnostic, w.handles.size⟩ = some (.handle s) ∧
      World.Passage side w v [] (only .getDiagnostic [discharge s]) := by
  have inputs : Function.getDiagnostic.inputs = [.wrapper .translationUnit, .uint32] := rfl
  have fit : none ∉ Function.getDiagnostic.inputs.zipWith (Actual.argument? w)
      [.value (.handle u), .value (.int i)] := by
    simp [inputs, Actual.argument?, Value.argument?, Native.CType.width?, Value.number?]
  obtain ⟨d, function, made⟩ := Function.exec_invoke side rfl rfl
    (by simpa [Actual.objects] using usable) fit
  let s := (side.answer w.calls d.call).handle
  let state : HandleState := ⟨.diagnostic, some (.handle s), .diagnostic (some u), none, rfl⟩
  let v : World := { w with dealings := d :: w.dealings, handles := w.handles.push state }
  have stands : v.handle? ⟨.diagnostic, w.handles.size⟩ = some state :=
    World.handle?_of_push (s := state) rfl
  refine ⟨v, s, Binding.exec_bind_ok made, World.adds_of_push (s := state) rfl, ?_, ?_⟩
  · rw [World.held?, stands]
    rfl
  · rw [← function]
    exact .of_call rfl (function ▸ rfl) (by simp [Call.due?, function, discharge, s])

theorem exec_items {s : Option Symbol} (k : u.Keeps w s) (is : List Int) (side : Side) :
    ∃ (v : World) (ds : List (Handle × Option Symbol)),
      (is.mapM fun i => Function.getDiagnostic.call
        [.value (.handle u), .value (.int i)]).exec side w = (.ok (ds.map (.handle ·.1)), v) ∧
      Diagnostics.Adds w v ∧ (∀ d ∈ ds, v.held? d.1 = some (.handle d.2)) ∧
      World.Passage side w v [] (only .getDiagnostic (ds.map (discharge ·.2))) := by
  induction is generalizing w with
  | nil =>
    exact ⟨w, [], rfl, ⟨[], (List.append_nil _).symm⟩, List.forall_mem_nil _, only_nil _ ▸ .refl w⟩
  | cons i r ih =>
    obtain ⟨v, s, first, adds, held, passage⟩ := exec_item k.usable i side
    obtain ⟨v', ds, others, adds', all, passage'⟩ := ih (k.adds adds)
    refine ⟨v', (_, s) :: ds, ?_, adds.trans adds',
      List.forall_mem_cons.mpr ⟨adds'.held? held, all⟩, ?_⟩
    · rw [List.mapM_cons, Binding.exec_bind_ok first, Binding.exec_bind_ok others]
      rfl
    · have both := passage.trans passage'
      rwa [only_append] at both

theorem exec_diagnostics {s : Option Symbol} (k : u.Keeps w s) (side : Side) :
    ∃ (v : World) (ds : List (Handle × Option Symbol)) (id : Nat),
      (diagnostics u).exec side w = (.ok (.diagnostics (ds.map (.handle ·.1)) id), v) ∧
      Diagnostics.Adds w v ∧ (∀ d ∈ ds, v.held? d.1 = some (.handle d.2)) ∧
      World.Passage side w v [] (only .getDiagnostic (ds.map (discharge ·.2))) := by
  let count : Binding Int := Function.getNumDiagnostics.number [.value (.handle u)]
  obtain ⟨n, d, counted⟩ : ∃ n d, count.exec side w = (.ok n, { w with dealings := d }) :=
    Function.exec_number_object rfl k.usable
  have browsed : w.Browses { w with dealings := d } := by
    have browses : count.Browses := .number rfl
    have := browses side w
    rwa [counted] at this
  obtain ⟨v, ds, read, adds, held, passage⟩ :=
    exec_items (k.adds browsed.adds) (indicesBelow n) side
  refine ⟨{ v with owners := v.owners.push (.handle u) }, ds, v.owners.size, ?_,
    browsed.adds.trans adds, held, ?_⟩
  · exact (Binding.exec_bind_ok counted).trans (Binding.exec_bind_ok read)
  · exact ((browsed.passage side).trans passage).of_calls rfl rfl

theorem exec_discharges {ds : List (Handle × Option Symbol)} (distinct : (ds.map (·.1)).Nodup)
    (owns : ∀ d ∈ ds.map (·.1), w.Owns u d) (live : w.isDisposed u = false)
    (held : ∀ d ∈ ds, w.held? d.1 = some (.handle d.2)) (side : Side) (id : Nat) :
    ∃ v, (Value.diagnostics (ds.map (.handle ·.1)) id).dispose.exec side w = (.ok (), v) ∧
      (∀ o, o.cls ≠ .diagnostic → v.handle? o = w.handle? o) ∧
      World.Passage side w v (ds.map (discharge ·.2)) fun _ => [] := by
  obtain ⟨v, done, -, retired⟩ := Value.exec_dispose_diagnostics distinct owns side id
  rw [List.map_map] at done
  have all : (ds.map (·.1)).filter (fun d => !w.isOver u d) = ds.map (·.1) := by
    refine List.filter_eq_self.mpr fun d mem => ?_
    obtain ⟨p, there, rfl⟩ := List.mem_map.mp mem
    simp [World.isOver, World.isDisposed, held p there, show (w.held? u).isNone = false from live]
  have calls : (ds.map (·.1)).map (fun d => (w.farewell d).call) = ds.map (discharge ·.2) := by
    rw [List.map_map]
    refine List.map_congr_left fun p there => ?_
    simp [World.farewell, discharge, World.symbol?, held p there, World.symbolOf]
  refine ⟨v, done, fun o other => retired.others o fun mem => other (owns o mem).cls,
    .of_returned ?_ fun c mem => ?_⟩
  · rw [World.calls, retired.made, all, ← calls]
    simp [World.calls, Function.comp_def]
  · obtain ⟨p, -, rfl⟩ := List.mem_map.mp mem
    rfl

end TranslationUnit

namespace Index

variable {side : Side} {w : World} {index : Handle}

theorem exec_make (exclude display : Bool) (side : Side) (w : World) :
    ∃ h s v, (make (.bool exclude) (.bool display)).exec side w = (.ok h, v) ∧ h.cls = .index ∧
      h.Obtained side w v .createIndex s [⟨.disposeIndex, [.handle s]⟩] := by
  have inputs : Function.createIndex.inputs = [.int32, .int32] := rfl
  let number (b : Bool) : Actual := .value (.int (if b then 1 else 0))
  let asked : Binding (Option Symbol) :=
    Function.createIndex.handle [number exclude, number display]
  obtain ⟨message, shape⟩ : ∃ message, make (.bool exclude) (.bool display) =
      asked >>= fun s => Binding.log .debug "clangbind.index" message >>= fun _ =>
        Handle.create .index (.handle s) := ⟨_, rfl⟩
  obtain ⟨d, function, made⟩ : ∃ d : Dealing, d.call.function = .createIndex ∧
      asked.exec side w = (.ok (side.answer w.calls d.call).handle,
        { w with dealings := d :: w.dealings }) :=
    Function.exec_handle side rfl rfl (List.forall_mem_nil _)
      (by simp [inputs, number, Actual.argument?, Value.argument?, Native.CType.width?,
        Value.number?])
  let s := (side.answer w.calls d.call).handle
  let state : HandleState := ⟨.index, some (.handle s), .plain, none, rfl⟩
  obtain ⟨v, done, handles, dealings⟩ : ∃ v,
      (make (.bool exclude) (.bool display)).exec side w = (.ok ⟨.index, w.handles.size⟩, v) ∧
        v.handles = w.handles.push state ∧ v.dealings = d :: w.dealings := by
    rw [shape, Binding.exec_bind_ok made]
    exact ⟨_, rfl, rfl, rfl⟩
  refine ⟨_, s, v, done, rfl, Handle.obtained_of_push handles dealings function rfl rfl rfl rfl
    (by simp [state]) ?_⟩
  simp [Call.due?, function, s]

theorem exec_argv_texts (xs : List String) (side : Side) (w : World) :
    ∃ bs, (Marshal.argv (.list (xs.map .text))).exec side w = (.ok bs, w) := by
  obtain ⟨bs, -, taken⟩ | ⟨⟨x, mem, unread⟩, -⟩ := Marshal.exec_argv (.list _) side
  · exact ⟨bs, taken⟩
  · obtain ⟨s, -, rfl⟩ := List.mem_map.mp mem
    exact absurd ⟨_, rfl⟩ unread

theorem exec_parse (usable : index.Usable w) (file : String) (arguments : List String)
    (side : Side) :
    (∃ u s v, (parse index (.text file) (.list (arguments.map .text)) .none (.int 0)).exec side w =
        (.ok u, v) ∧ u.cls = .translationUnit ∧ u.Obtained side w v .parseTranslationUnit (some s)
          [⟨.disposeTranslationUnit, [.handle (some s)]⟩]) ∨
      ∃ x v, (parse index (.text file) (.list (arguments.map .text)) .none (.int 0)).exec side w =
        (.error x, v) ∧ Diagnostics.Adds w v ∧ World.Passage side w v [] fun _ => [] := by
  let asked (bs : List Text.Bytes) : Binding (Option Symbol) :=
    Function.parseTranslationUnit.handle [.value (.handle index), .value (.text file),
      (Marshal.argvActuals bs).1, (Marshal.argvActuals bs).2, (Marshal.UnsavedFile.actuals []).1,
      (Marshal.UnsavedFile.actuals []).2, .value (.int 0)]
  have shape : parse index (.text file) (.list (arguments.map .text)) .none (.int 0) =
      Marshal.argv (.list (arguments.map .text)) >>= fun bs =>
        Binding.log .debug "clangbind.index"
          ("Parsing " ++ file ++ " with " ++ toString bs.length ++ " argument(s)") >>= fun _ =>
        asked bs >>= TranslationUnit.ofHandle index .unitNotParsed
          (Binding.log .warning "clangbind.index"
            ("Error parsing translation unit " ++ file)) := rfl
  obtain ⟨bs, taken⟩ := exec_argv_texts arguments side w
  obtain ⟨records, logged⟩ : ∃ records, (Binding.log .debug "clangbind.index"
      ("Parsing " ++ file ++ " with " ++ toString bs.length ++ " argument(s)")).exec side w =
        (.ok (), { w with records }) := ⟨_, rfl⟩
  let u : World := { w with records }
  obtain ⟨d, function, made⟩ : ∃ d : Dealing, d.call.function = .parseTranslationUnit ∧
      (asked bs).exec side u = (.ok (side.answer u.calls d.call).handle,
        { u with dealings := d :: u.dealings }) := by
    refine Function.exec_handle side rfl rfl ?clear ?fit
    case clear =>
      change ∀ k ∈ [index], k.Usable w
      simpa using usable
    case fit =>
      change none ∉ [some _, some _, some _, some _, some _, some _, some _]
      simp
  rw [shape, Binding.exec_bind_ok taken, Binding.exec_bind_ok logged, Binding.exec_bind_ok made]
  cases e : (side.answer u.calls d.call).handle with
  | some s =>
    let state : HandleState :=
      ⟨.translationUnit, some (.handle (some s)), .unit (.handle index) true, none, rfl⟩
    have due : (d.call.due? (side.answer u.calls d.call)).toList =
        [⟨.disposeTranslationUnit, [.handle (some s)]⟩] := by
      simp [Call.due?, function, e]
    exact .inl ⟨_, s, _, rfl, rfl,
      Handle.obtained_of_push (s := state) rfl rfl function rfl rfl rfl rfl nofun due⟩
  | none =>
    have due : (d.call.due? (side.answer u.calls d.call)).toList = [] := by
      simp [Call.due?, function, e]
    have nothing := World.Passage.of_call (v := { u with dealings := d :: u.dealings }) rfl
      (function ▸ rfl) due
    rw [only_nil] at nothing
    exact .inr ⟨_, _, rfl, ⟨[], (List.append_nil _).symm⟩, nothing.of_calls rfl rfl⟩

end Index

theorem Member.browses_str (m : Member) : m.str.Browses := by
  unfold Member.str
  split
  · exact .text rfl
  · exact .pure _
  · exact .pure _

theorem Diagnostic.browses_format (d : Handle) : (Diagnostic.format d .none).Browses :=
  (Browses.number rfl).bind fun _ => .text rfl

namespace Tool.UnitDump

variable {side : Side} {w : World} {u : Handle} {s : Option Symbol}

theorem browses_message (d : Value) : (message d).Browses := by
  unfold message
  split
  · refine ((Browses.number rfl).bind fun _ => .require _ _).bind fun m => ?_
    exact (Member.browses_str m).bind fun _ => (Diagnostic.browses_format _).bind fun _ => .pure _
  · exact .throw _

theorem repays_messages (k : u.Keeps w s) (cls : u.cls = .translationUnit) (side : Side) :
    World.Repays side w ((messages u).exec side w).2 := by
  obtain ⟨v, ds, id, read, adds, held, passage⟩ := TranslationUnit.exec_diagnostics k side
  obtain ⟨hs, id', same, distinct, owns⟩ := TranslationUnit.reads_diagnostics cls read
  obtain rfl : ds.map (·.1) = hs := by
    injection same with same
    refine List.map_injective_iff.mpr (fun _ _ e => Value.handle.inj e) ?_
    rw [← same, List.map_map]
    rfl
  have told : v.Browses ((((ds.map fun d => Value.handle d.1).mapM message).exec side v).2) :=
    Browses.mapM (fun d _ => browses_message d) side v
  cases e : ((ds.map fun d => Value.handle d.1).mapM message).exec side v with
  | mk r x =>
    rw [e] at told
    have later : v.Evolves x := .of_result e
    obtain ⟨y, disposed, others, given⟩ := TranslationUnit.exec_discharges distinct
      (fun d mem => (owns d mem).2.1.evolves later) (k.adds (adds.trans told.adds)).usable.1
      (fun d mem => told.adds.held? (held d mem)) side id
    have ended : (messages u).exec side w = (r, y) :=
      (Binding.exec_bind_ok read).trans (Binding.exec_andFinally e disposed)
    rw [ended]
    refine ⟨fun o s other stands => ?_, ds.map (TranslationUnit.discharge ·.2), ?_⟩
    · rw [others o other]
      exact told.adds.handle? (adds.handle? stands)
    · simpa using passage.trans ((told.passage side).trans given)

/-- An operation on a unit that gives back the diagnostics it reads, and no more. -/
def Repays (u : Handle) {α : Type} (m : Binding α) : Prop :=
  ∀ side w s, u.Keeps w s → World.Repays side w (m.exec side w).2

theorem Repays.bind {α β : Type} {m : Binding α} {g : α → Binding β} (h : m.Browses)
    (k : ∀ a, Repays u (g a)) : Repays u (m >>= g) := by
  intro side w s keeps
  have first := h side w
  cases e : m.exec side w with
  | mk r v =>
    rw [e] at first
    cases r with
    | ok a =>
      rw [Binding.exec_bind_ok e]
      exact .after first (k a side v s (keeps.adds first.adds))
    | error x =>
      rw [Binding.exec_bind_error e]
      exact first.repays side

theorem browses_answer (opens : Bool) : (Direction.ofAnswer (answer opens)).Browses := by
  cases opens <;> exact .pure _

theorem browses_printer (visited : Nat) (child parent : Cursor) :
    (printer visited child parent >>= Direction.ofAnswer).Browses := by
  rw [printer, bind_assoc]
  refine (Browses.of_eq fun _ _ => ⟨rfl, rfl⟩).bind fun _ => ?_
  rw [bind_assoc]
  refine ((Browses.number rfl).bind fun _ => .pure _).bind fun null => ?_
  split
  · simp only [bind_assoc, pure_bind]
    exact (Browses.print _).bind fun _ => browses_answer _
  · simp only [bind_assoc, pure_bind]
    refine (Browses.read.bind fun _ => .pure _).bind fun _ => (Browses.text rfl).bind fun _ => ?_
    refine (Browses.text rfl).bind fun _ => (Browses.text rfl).bind fun _ => ?_
    exact (Browses.print _).bind fun _ => browses_answer _

theorem browses_printBelow (c : Cursor) : (printBelow c).Browses :=
  (Browses.of_eq fun _ _ => ⟨rfl, rfl⟩).bind fun visited =>
    (Browses.inPhase _ (c.browses_visit (browses_printer visited))).bind fun _ =>
      Browses.now.bind fun _ => .pure _

theorem browses_shownFile (u : Handle) (file : String) : (shownFile u file).Browses := by
  refine (Browses.call rfl).bind fun f => ?_
  split
  · exact .text rfl
  · exact .pure _

theorem repays_printUnit (cls : u.cls = .translationUnit) (file : String) :
    Repays u (printUnit u file) := by
  refine .bind (.text rfl) fun _ => .bind (.print _) fun _ => ?_
  refine .bind ((Browses.struct rfl).bind fun _ => .pure _) fun c => ?_
  refine .bind ((Browses.number rfl).bind fun _ => .pure _) fun _ => .bind (.print _) fun _ => ?_
  refine .bind (.text rfl) fun _ => .bind (.print _) fun _ => ?_
  refine .bind (Browses.read.bind fun _ => .pure _) fun _ => .bind (.text rfl) fun _ => ?_
  refine .bind (.print _) fun _ => .bind (browses_shownFile u file) fun _ => ?_
  refine .bind (.print _) fun _ => .bind (browses_printBelow c) fun n => ?_
  intro side w s keeps
  rw [Binding.exec_bind_pure]
  exact repays_messages keeps cls side

theorem exec_parse_printing {index : Handle} (k : index.Keeps w s) (cls : index.cls = .index)
    (file : String) (arguments : List String) (side : Side) :
    ∃ r v ds us, (Binding.inPhase "parse"
          (Index.parse index (.text file) (.list (arguments.map .text)) .none (.int 0)) >>= fun u =>
        Binding.releasing u (printUnit u file)).exec side w = (r, v) ∧
      index.Keeps v s ∧ us.length ≤ 1 ∧ World.Passage side w v (ds ++ us)
        fun f => only .parseTranslationUnit us f ++ only .getDiagnostic ds f := by
  obtain ⟨inside, outside, phase⟩ := Binding.exec_inPhase "parse"
    (Index.parse index (.text file) (.list (arguments.map .text)) .none (.int 0)) side w
  have usable : index.Usable { w with context := inside } := k.usable
  obtain ⟨u, t, v, parsed, ofUnit, obtained⟩ | ⟨x, v, failed, adds, passage⟩ :=
    Index.exec_parse usable file arguments side
  · rw [parsed] at phase
    let v' : World := { v with context := outside }
    have keeps : u.Keeps v' (some t) := obtained.keeps.of_handle? rfl
    have repays := repays_printUnit ofUnit file side v' (some t) keeps
    cases e : (printUnit u file).exec side v' with
    | mk r x =>
      rw [e] at repays
      obtain ⟨xs, printing⟩ := repays.repaid
      obtain ⟨y, ended, others, given⟩ := Binding.exec_releasing e
        (keeps.repays (by simp [ofUnit]) repays) (by rw [ofUnit]; rfl)
      have kept : index.Keeps x s :=
        ((k.adds obtained.adds).of_handle? rfl : index.Keeps v' s).repays (by simp [cls]) repays
      have apart : index ≠ u := fun same => by simp [same, ofUnit] at cls
      rw [ofUnit] at given
      have first : World.Passage side w v' [] _ := obtained.passage.of_calls rfl rfl
      refine ⟨r, y, xs, [⟨.disposeTranslationUnit, [.handle (some t)]⟩],
        (Binding.exec_bind_ok phase).trans ended, kept.of_handle? (others index apart),
        Nat.le_refl 1, ?_⟩
      simpa [Handle.farewells] using first.trans (printing.trans given)
  · rw [failed] at phase
    refine ⟨_, _, [], [], Binding.exec_bind_error phase, (k.adds adds).of_handle? rfl,
      Nat.zero_le 1, ?_⟩
    have nothing : World.Passage side w { v with context := outside } [] _ :=
      passage.of_calls rfl rfl
    simpa [only_nil] using nothing

theorem passage_dump (file : String) (arguments : List String) (side : Side) (w : World) :
    ∃ ds us i, us.length ≤ 1 ∧
      World.Passage side w ((dump file arguments).exec side w).2 (ds ++ us ++ [i]) fun f =>
        only .createIndex [i] f ++
          (only .parseTranslationUnit us f ++ only .getDiagnostic ds f) := by
  obtain ⟨index, i, u, made, cls, obtained⟩ := Index.exec_make false true side w
  obtain ⟨r, v, ds, us, printed, keeps, once, printing⟩ :=
    exec_parse_printing obtained.keeps cls file arguments side
  obtain ⟨x, ended, -, given⟩ := Binding.exec_releasing printed keeps (by rw [cls]; rfl)
  rw [cls] at given
  have last : ((dump file arguments).exec side w).2.calls = x.calls := by
    rw [dump, Binding.exec_bind_ok made]
    cases r with
    | ok a => rw [Binding.exec_bind_ok ended]; rfl
    | error e => rw [Binding.exec_bind_error ended]
  have whole := (obtained.passage.trans (printing.trans given)).of_calls rfl last
  refine ⟨ds, us, ⟨.disposeIndex, [.handle i]⟩, once, ?_⟩
  simpa [Handle.farewells, HandleClass.emptyWhenNull] using whole

end Tool.UnitDump

theorem Value.browses_ensureWithin (i : Value) {size : Binding Nat} (h : size.Browses) :
    (i.ensureWithin size).Browses :=
  i.within_ensureWithin World.Browses.refl World.Browses.trans h

theorem Handle.browses_symbol (h : Handle) : h.symbol.Browses :=
  h.within_symbol World.Browses.refl World.Browses.trans

namespace CompilationDatabase

variable {w : World} {db : Handle}

theorem exec_fromDirectory (directory : String) (side : Side) (w : World) :
    (∃ h s v, (fromDirectory (.text directory)).exec side w = (.ok h, v) ∧
        h.cls = .compilationDatabase ∧
        h.Obtained side w v .compilationDatabaseFromDirectory (some s)
          [⟨.compilationDatabaseDispose, [.handle (some s)]⟩]) ∨
      ∃ x v xs, (fromDirectory (.text directory)).exec side w = (.error x, v) ∧ xs.length ≤ 1 ∧
        World.Passage side w v xs (only .compilationDatabaseFromDirectory xs) := by
  let asked := Function.compilationDatabaseFromDirectory.invoke [.value (.text directory)]
  let dispose (s : Option Symbol) : Call := ⟨.compilationDatabaseDispose, [.handle s]⟩
  let u : World := { w with records :=
    ⟨.debug, "clangbind.compilation_db", "Loading compilation database from " ++ directory,
      w.context⟩ :: w.records }
  obtain ⟨d, function, made⟩ : ∃ d : Dealing,
      d.call.function = .compilationDatabaseFromDirectory ∧ asked.exec side u =
        (.ok (d.call, side.answer w.calls d.call), { u with dealings := d :: w.dealings }) := by
    refine Function.exec_invoke side rfl rfl (List.forall_mem_nil _) ?_
    change none ∉ [some _]
    simp
  have path : (liftM (Value.text directory).toPath : Binding Value).exec side w =
      (.ok (.text directory), w) := rfl
  have shown : (Value.text directory).str.exec side w = (.ok directory, w) := rfl
  have logged : (Binding.log .debug "clangbind.compilation_db"
      ("Loading compilation database from " ++ directory)).exec side w = (.ok (), u) := rfl
  rw [fromDirectory, Binding.exec_bind_ok path, Binding.exec_bind_ok shown,
    Binding.exec_bind_ok logged, Binding.exec_bind_ok made]
  dsimp only
  have asking {v : World} {xs : List Call} (calls : v.calls = d.call :: w.calls)
      (due : (d.call.due? (side.answer w.calls d.call)).toList = xs) :
      World.Passage side w v [] (only .compilationDatabaseFromDirectory xs) :=
    function ▸ .of_call calls (function ▸ rfl) due
  cases known : Enumeration.compilationDatabaseErrorCode.ofNumber?
      (Number.Width.uint32.wrap ((side.answer w.calls d.call).code.getD 0)) with
  | none =>
    rw [Binding.exec_bind_error (Enumeration.exec_require_unknown known side _)]
    have due : (d.call.due? (side.answer w.calls d.call)).toList = [] := by
      simp [Call.due?, function, known]
    exact .inr ⟨_, _, [], rfl, Nat.zero_le 1, asking rfl due⟩
  | some code =>
    rw [Binding.exec_bind_ok (Enumeration.exec_require_known known side _)]
    cases e : (side.answer w.calls d.call).handle with
    | none =>
      rw [if_neg (by simp)]
      have due : (d.call.due? (side.answer w.calls d.call)).toList = [] := by
        simp [Call.due?, function, known, e]
      exact .inr ⟨_, _, [], rfl, Nat.zero_le 1, asking rfl due⟩
    | some s =>
      have due : (d.call.due? (side.answer w.calls d.call)).toList = [dispose (some s)] := by
        simp [Call.due?, function, known, e, dispose]
      by_cases well : code.name = "NO_ERROR"
      · rw [if_pos ⟨well, rfl⟩]
        let state : HandleState :=
          ⟨.compilationDatabase, some (.handle (some s)), .plain, none, rfl⟩
        exact .inl ⟨_, s, _, rfl, rfl,
          Handle.obtained_of_push (s := state) rfl rfl function rfl rfl rfl rfl nofun due⟩
      · rw [if_neg fun h => well h.1]
        let v : World := { u with dealings := d :: w.dealings }
        have whole (x : World) (calls : x.calls = dispose (some s) :: v.calls) :
            World.Passage side w x [dispose (some s)]
              (only .compilationDatabaseFromDirectory [dispose (some s)]) := by
          have given : World.Passage side v x [dispose (some s)] fun _ => [] :=
            .of_returned calls (List.forall_mem_singleton.mpr rfl)
          simpa using (asking (v := v) rfl due).trans given
        exact .inr ⟨_, _, [dispose (some s)], rfl, Nat.le_refl 1, whole _ rfl⟩

theorem exec_allCommands (usable : db.Usable w) (side : Side) :
    ∃ h s v, (allCommands db).exec side w = (.ok h, v) ∧ h.cls = .compileCommands ∧
      h.Obtained side w v .compilationDatabaseGetAllCompileCommands s
        (Handle.farewells .compileCommands .compileCommandsDispose s) := by
  let asked : Binding (Option Symbol) :=
    Function.compilationDatabaseGetAllCompileCommands.handle [.value (.handle db)]
  obtain ⟨d, function, made⟩ : ∃ d : Dealing,
      d.call.function = .compilationDatabaseGetAllCompileCommands ∧
        asked.exec side w = (.ok (side.answer w.calls d.call).handle,
          { w with dealings := d :: w.dealings }) := by
    refine Function.exec_handle side rfl rfl (by simpa [Actual.objects] using usable) ?_
    change none ∉ [some _]
    simp
  let s := (side.answer w.calls d.call).handle
  let state : HandleState :=
    ⟨.compileCommands, some (.handle s), .commands (.handle db), none, rfl⟩
  have due : (d.call.due? (side.answer w.calls d.call)).toList =
      Handle.farewells .compileCommands .compileCommandsDispose s := by
    cases e : s <;> simp [Call.due?, function, Handle.farewells, HandleClass.emptyWhenNull, s, e]
  exact ⟨_, s, _, Binding.exec_bind_ok made, rfl,
    Handle.obtained_of_push (s := state) rfl rfl function rfl rfl rfl rfl (by simp [state]) due⟩

end CompilationDatabase

namespace CompileCommands

theorem browses_size (h : Handle) : (size h).Browses := by
  refine .bind h.browses_symbol fun s => ?_
  split
  · exact .pure _
  · exact .bind (.number rfl) fun _ => .pure _

theorem browses_command (h : Handle) (i : Value) : (command h i).Browses := by
  refine .bind (i.browses_ensureWithin (browses_size h)) fun _ => .bind (.handle rfl) fun s => ?_
  split
  · exact .throw _
  · exact .bind .create fun _ => .pure _

end CompileCommands

namespace Tool.DatabaseDump

theorem browses_printCommand (i : Nat) (last : Bool) (command : Handle) :
    (printCommand i last command).Browses := by
  refine .bind (.bind (.number rfl) fun _ => .mapM fun _ _ => .text rfl) fun _ => ?_
  refine .bind (.print _) fun _ => .bind (.text rfl) fun _ => .bind (.print _) fun _ => ?_
  refine .bind (.print _) fun _ => .bind (.print _) fun _ => ?_
  exact .ite (.bind (.text rfl) fun _ => .pure _)
    (.bind (.print _) fun _ => .bind (.text rfl) fun _ => .pure _)

theorem browses_printCommands (commands : Handle) : (printCommands commands).Browses := by
  refine .bind (CompileCommands.browses_size commands) fun _ => .bind (.print _) fun _ => ?_
  refine .bind (CompileCommands.browses_size commands) fun _ => .mapM fun i _ => ?_
  refine .bind (CompileCommands.browses_command commands _) fun c => ?_
  split
  · exact browses_printCommand _ _ _
  · exact .throw _

theorem passage_dump (files : Files.Tree) (directory : String) (side : Side) (w : World) :
    ∃ cs ds, cs.length ≤ 1 ∧ ds.length ≤ 1 ∧
      World.Passage side w ((dump files directory).exec side w).2 (cs ++ ds) fun f =>
        only .compilationDatabaseFromDirectory ds f ++
          only .compilationDatabaseGetAllCompileCommands cs f := by
  unfold dump
  dsimp only
  split
  · exact ⟨[], [], Nat.zero_le 1, Nat.zero_le 1, by simpa [only_nil] using .refl w⟩
  · obtain ⟨inside, outside, phase⟩ := Binding.exec_inPhase "load"
      (CompilationDatabase.fromDirectory (.text directory)) side w
    obtain ⟨db, s, u, opened, cls, obtained⟩ | ⟨x, u, ds, failed, once, passage⟩ :=
      CompilationDatabase.exec_fromDirectory directory side { w with context := inside }
    · rw [opened] at phase
      rw [Binding.exec_bind_ok phase, Binding.exec_bind_pure]
      let u' : World := { u with context := outside }
      have kept : db.Keeps u' (some s) := obtained.keeps.of_handle? rfl
      obtain ⟨commands, t, v, made, ofCommands, got⟩ :=
        CompilationDatabase.exec_allCommands kept.usable side
      have browsed := browses_printCommands commands side v
      cases e : (printCommands commands).exec side v with
      | mk r x =>
        rw [e] at browsed
        obtain ⟨y, ended, others, given⟩ := Binding.exec_releasing e
          (got.keeps.adds browsed.adds) (by rw [ofCommands]; rfl)
        have apart : db ≠ commands := fun same => by simp [same, ofCommands] at cls
        have inner : (CompilationDatabase.allCommands db >>= fun commands =>
            Binding.releasing commands (printCommands commands)).exec side u' = (r, y) :=
          (Binding.exec_bind_ok made).trans ended
        obtain ⟨z, closed, -, given'⟩ := Binding.exec_releasing inner
          (((kept.adds got.adds).adds browsed.adds).of_handle? (others db apart))
          (by rw [cls]; rfl)
        rw [closed]
        have first : World.Passage side w u' [] _ := obtained.passage.of_calls rfl rfl
        have whole := first.trans (got.passage.trans ((browsed.passage side).trans
          (given.trans given')))
        rw [ofCommands, cls] at whole
        refine ⟨Handle.farewells .compileCommands .compileCommandsDispose t,
          [⟨.compilationDatabaseDispose, [.handle (some s)]⟩], ?_, Nat.le_refl 1, ?_⟩
        · unfold Handle.farewells
          split
          · exact Nat.zero_le 1
          · exact Nat.le_refl 1
        · simpa [Handle.farewells] using whole
    · rw [failed] at phase
      rw [Binding.exec_bind_error phase]
      have whole : World.Passage side w { u with context := outside } ds _ :=
        passage.of_calls rfl rfl
      exact ⟨[], ds, Nat.zero_le 1, once, by simpa [only_nil] using whole⟩

end Tool.DatabaseDump

namespace Tool

/-- What a tool gives back is what was due, each once and in this order, whether a run returns or
fails: all diagnostics that were read, the unit if one was parsed, and the index; or the commands,
unless these were null, and the database. -/
theorem tools_give_back (side : Side) (w : World) :
    (∀ file arguments, ∃ made : List Call,
      ((UnitDump.dump file arguments).exec side w).2.calls = made.reverse ++ w.calls ∧
      Native.returned made =
        Native.due .getDiagnostic (side.heard w.calls made) ++
        Native.due .parseTranslationUnit (side.heard w.calls made) ++
        Native.due .createIndex (side.heard w.calls made) ∧
      (Native.due .parseTranslationUnit (side.heard w.calls made)).length ≤ 1 ∧
      (Native.due .createIndex (side.heard w.calls made)).length = 1) ∧
    ∀ files directory, ∃ made : List Call,
      ((DatabaseDump.dump files directory).exec side w).2.calls = made.reverse ++ w.calls ∧
      Native.returned made =
        Native.due .compilationDatabaseGetAllCompileCommands (side.heard w.calls made) ++
        Native.due .compilationDatabaseFromDirectory (side.heard w.calls made) ∧
      (Native.due .compilationDatabaseGetAllCompileCommands
        (side.heard w.calls made)).length ≤ 1 ∧
      (Native.due .compilationDatabaseFromDirectory (side.heard w.calls made)).length ≤ 1 := by
  constructor
  · intro file arguments
    obtain ⟨ds, us, i, once, made, calls, returned, due⟩ :=
      UnitDump.passage_dump file arguments side w
    have ofDs : Native.due .getDiagnostic (side.heard w.calls made) = ds := by simp [due, only]
    have ofUs : Native.due .parseTranslationUnit (side.heard w.calls made) = us := by
      simp [due, only]
    have ofIndex : Native.due .createIndex (side.heard w.calls made) = [i] := by simp [due, only]
    exact ⟨made, calls, by rw [returned, ofDs, ofUs, ofIndex], by rw [ofUs]; exact once,
      by rw [ofIndex]; rfl⟩
  · intro files directory
    obtain ⟨cs, ds, few, once, made, calls, returned, due⟩ :=
      DatabaseDump.passage_dump files directory side w
    have ofCs : Native.due .compilationDatabaseGetAllCompileCommands (side.heard w.calls made) =
        cs := by
      simp [due, only]
    have ofDs : Native.due .compilationDatabaseFromDirectory (side.heard w.calls made) = ds := by
      simp [due, only]
    exact ⟨made, calls, by rw [returned, ofCs, ofDs], by rw [ofCs]; exact few,
      by rw [ofDs]; exact once⟩

def unnamedSeverity : Side where
  answer _ c := match c.function with
    | .createIndex => { result := .handle (some "index") }
    | .parseTranslationUnit => { result := .handle (some "unit") }
    | .getNumDiagnostics => { result := .int 2 }
    | .getDiagnostic => { result := .handle (some "diagnostic") }
    | .getDiagnosticSeverity => { result := .int 9 }
    | _ => {}

example : Native.returned ((UnitDump.dump "a.cc" []).exec unnamedSeverity {}).2.calls.reverse = [
    ⟨.disposeDiagnostic, [.handle (some "diagnostic")]⟩,
    ⟨.disposeDiagnostic, [.handle (some "diagnostic")]⟩,
    ⟨.disposeTranslationUnit, [.handle (some "unit")]⟩,
    ⟨.disposeIndex, [.handle (some "index")]⟩] := by
  decide +kernel

end Tool

end ClangIndex
