import ClangIndex.Proofs.Transcripts
import ClangIndex.Proofs.VisitOrder

namespace ClangIndex

open Native (Answer Call Function Script Side)
open Diagnostics (Adds)

namespace Tool.UnitDump

inductive Item
  | none
  | declaration (kind : Member) (shown spelling usr : String)

namespace Item

def line : Item → String
  | .none => "cursor: <none>"
  | .declaration _ shown spelling usr => shown ++ ": " ++ spelling ++ " (" ++ usr ++ ")"

def opens : Item → Bool
  | .none => false
  | .declaration kind _ _ _ =>
    ["CLASS_DECL", "ENUM_DECL", "STRUCT_DECL", "NAMESPACE"].contains kind.name

end Item

def describe (s : Symbol) : Hearing Item := do
  let null ← Hearing.number ⟨.cursorIsNull, [.struct s]⟩
  if null != 0 then return .none
  else
    let kind := Number.Width.int32.wrap ((← read).cursorKind s)
    let shown ← Hearing.text ⟨.getCursorKindSpelling, [.int kind]⟩
    let spelling ← Hearing.text ⟨.getCursorSpelling, [.struct s]⟩
    let usr ← Hearing.text ⟨.getCursorUSR, [.struct s]⟩
    return .declaration ⟨.cursorKind, kind⟩ shown spelling usr

/-- A forest in preorder, without what is below a cursor that is not gone into. -/
def listing : Forest → Hearing (List Item)
  | .nil => return []
  | .cons s inside rest => do
    let item ← describe s
    let below ← if item.opens then listing inside else pure []
    let others ← listing rest
    return item :: (below ++ others)

section

variable {side : Side} {before : List Call} {c : Symbol} {inside rest : Forest}

theorem listing_of_opens (opens : (describe c side before).1.opens = true) :
    let item := describe c side before
    let below := listing inside side item.2
    let others := listing rest side below.2
    listing (.cons c inside rest) side before = (item.1 :: (below.1 ++ others.1), others.2) := by
  rw [listing, Hearing.bind_apply, if_pos opens]
  rfl

theorem listing_of_closed (closed : (describe c side before).1.opens = false) :
    let item := describe c side before
    let others := listing rest side item.2
    listing (.cons c inside rest) side before = (item.1 :: others.1, others.2) := by
  rw [listing, Hearing.bind_apply, if_neg (by simp [closed])]
  rfl

end

def cursors (root : Symbol) (f : Forest) : Hearing (List Item) := do
  let _ ← Hearing.ask ⟨.visitChildren, [.struct root]⟩
  listing f

structure Head where
  root : Symbol
  lines : List String

def fileName (unit : Option Symbol) (file : String) : Hearing String := do
  let answer ← Hearing.ask ⟨.getFile, [.handle unit, .text (some (Text.cString (Text.utf8 file)))]⟩
  match answer.handle with
  | some f => Hearing.text ⟨.getFileName, [.handle (some f)]⟩
  | none => return "<none>"

def header (unit : Option Symbol) (file : String) : Hearing Head := do
  let spelling ← Hearing.text ⟨.getTranslationUnitSpelling, [.handle unit]⟩
  let root := (← Hearing.ask ⟨.getTranslationUnitCursor, [.handle unit]⟩).struct
  let null ← Hearing.number ⟨.cursorIsNull, [.struct root]⟩
  let name ← Hearing.text ⟨.getCursorSpelling, [.struct root]⟩
  let kind := Number.Width.int32.wrap ((← read).cursorKind root)
  let shown ← Hearing.text ⟨.getCursorKindSpelling, [.int kind]⟩
  let file ← fileName unit file
  return ⟨root, [
    "tu: " ++ spelling,
    "cursor-isnull: " ++ (if null != 0 then "True" else "False"),
    "cursor: " ++ name,
    "cursor-kind: " ++ shown,
    "tu-fname: " ++ file]⟩

variable {s : Stage} {before : List Call}

theorem tells_count {α : Type} {g : Unit → Binding α} {r : Except Failure α} {lines : List String}
    {n : Nat} {after : List Call} (k : s.Tells (g ()) before r lines n after) :
    s.Tells (countUp s.counter >>= g) before r lines (n + 1) after := by
  have counted : s.Tells (countUp s.counter) before (.ok ()) [] 1 before := by
    intro w _ calls
    exact ⟨_, rfl, ⟨⟨[], by simp⟩, calls, rfl⟩, rfl⟩
  have both := counted.bind k
  rwa [List.nil_append, Nat.add_comm] at both

theorem tells_isNull (c : Cursor) :
    s.Tells c.isNull before (.ok ((Hearing.number ⟨.cursorIsNull, [.struct c.symbol]⟩
      s.side before).1 != 0)) [] 0 (⟨.cursorIsNull, [.struct c.symbol]⟩ :: before) :=
  .ask (.number (Stage.poses_cursor rfl c)) (.pure _)

theorem tells_kindSpelling (k : Int) :
    let n := Number.Width.int32.wrap k
    s.Tells (kindSpelling ⟨.cursorKind, n⟩) before
      (.ok (Hearing.text ⟨.getCursorKindSpelling, [.int n]⟩ s.side before).1) [] 0
      (⟨.getCursorKindSpelling, [.int n]⟩ :: before) := by
  intro n
  have low := Number.Width.le_wrap_int32 k
  have high := Number.Width.wrap_int32_lt k
  have fits : Value.wordArgument? n = some (.int n) := Value.wordArgument?_of_int32 low high
  have converted (w : World) :
      Actual.convert w Function.getCursorKindSpelling.inputs [.value (.member ⟨.cursorKind, n⟩)] =
        some [.int n] := by
    change (Value.wordArgument? n >>= fun a => some [] >>= fun as => pure (a :: as)) = _
    rw [fits]
    rfl
  exact .text (Stage.poses_plain rfl converted)

theorem tells_printer (child parent : Cursor) :
    s.Tells (printer s.counter child parent) before
      (.ok (answer (describe child.symbol s.side before).1.opens))
      [(describe child.symbol s.side before).1.line] 1
      (describe child.symbol s.side before).2 := by
  unfold printer
  refine tells_count (.ask (tells_isNull child) ?_)
  cases null : (Hearing.number ⟨.cursorIsNull, [.struct child.symbol]⟩ s.side before).1 != 0 with
  | true =>
    rw [describe, Hearing.bind_apply, if_pos null]
    exact .say (.pure _)
  | false =>
    refine .ask (.ask .read (.pure _)) (.ask (tells_kindSpelling _) ?_)
    refine .ask (.text (Stage.poses_cursor rfl child)) ?_
    refine .ask (.text (Stage.poses_cursor rfl child)) ?_
    rw [describe, Hearing.bind_apply, if_neg (by simp [null])]
    exact .say (.pure _)

theorem recurses_answer (opens : Bool) : Reply.recurses (.ok (answer opens)) = opens := by
  cases opens <;> rfl

theorem stops_answer (opens : Bool) : Reply.stops (.ok (answer opens)) = false := by
  cases opens <;> rfl

section

variable {unit : Option Handle} {w : World}

def printed (s : Stage) (unit : Option Handle) (w : World) (met : List Meeting) : World :=
  Visitor.after (printer s.counter) unit s.side w met

def replies (s : Stage) (unit : Option Handle) (w : World) : Answers :=
  Visitor.answers (printer s.counter) unit s.side w

theorem tells_meeting {met : List Meeting} (m : Meeting) (adds : Adds s.base (printed s unit w met))
    (calls : (printed s unit w met).calls = before) :
    replies s unit w met m = .ok (answer (describe m.1 s.side before).1.opens) ∧
      (printed s unit w met).Tells s.counter (printed s unit w (met ++ [m]))
        [(describe m.1 s.side before).1.line] 1 (describe m.1 s.side before).2 := by
  obtain ⟨v, told, first⟩ := tells_printer ⟨m.1, unit⟩ ⟨m.2, unit⟩ (printed s unit w met) adds calls
  have next : printed s unit w (met ++ [m]) = v :=
    (Visitor.after_append_singleton _ unit s.side w met m).trans (congrArg Prod.snd told)
  exact ⟨congrArg Prod.fst told, next ▸ first⟩

theorem tells_preorder {f : Forest} {parent : Symbol} {met : List Meeting}
    (adds : Adds s.base (printed s unit w met)) (calls : (printed s unit w met).calls = before) :
    (printed s unit w met).Tells s.counter
      (printed s unit w (met ++ f.preorder (replies s unit w) parent met))
      ((listing f s.side before).1.map Item.line) (listing f s.side before).1.length
      (listing f s.side before).2 := by
  induction f generalizing parent met before with
  | nil =>
    rw [Forest.preorder, List.append_nil, ← calls]
    exact .refl _
  | cons c inside rest ihInside ihRest =>
    obtain ⟨reply, first⟩ := tells_meeting (c, parent) adds calls
    rw [Forest.preorder, reply, recurses_answer]
    cases opens : (describe c s.side before).1.opens with
    | true =>
      have below := @ihInside _ c _ (adds.trans first.adds) first.calls
      have both := first.trans below
      rw [List.append_assoc, List.singleton_append] at both
      have others := @ihRest _ parent _ (adds.trans both.adds) both.calls
      have whole := both.trans others
      rw [listing_of_opens opens]
      simpa [Nat.add_comm, Nat.add_left_comm, Nat.add_assoc] using whole
    | false =>
      have others := @ihRest _ parent _ (adds.trans first.adds) first.calls
      have whole := first.trans others
      rw [listing_of_closed opens]
      simpa [Nat.add_comm] using whole

theorem stops_replies (met : List Meeting) (m : Meeting) :
    (replies s unit w met m).stops = false := by
  -- What is printed about a cursor depends on no object, so any state will do for a beginning.
  let stage : Stage := { s with base := printed s unit w met }
  have stands : Adds stage.base (printed stage unit w met) := ⟨[], by simp [stage, printed]⟩
  have reply : replies stage unit w met m = .ok (answer _) := (tells_meeting m stands rfl).1
  exact (congrArg Reply.stops reply).trans (stops_answer _)

end

section

variable {side : Side} {c : Cursor} {f : Forest}

theorem exec_visit_printer (h : side.Below c.symbol f) (counter : Nat) (w : World) :
    ∃ stopped v, (c.visit (printer counter)).exec side w = (.ok stopped, v) ∧
      w.Tells counter v ((cursors c.symbol f side w.calls).1.map Item.line)
        (cursors c.symbol f side w.calls).1.length (cursors c.symbol f side w.calls).2 := by
  let s : Stage := ⟨side, w, counter⟩
  let u : World := w.afterCall c.visitCall
  have asked : w.Tells counter u [] 0 (c.visitCall :: w.calls) :=
    .of_silent ⟨[], by simp [u, World.afterCall]⟩ rfl rfl rfl
  have told := @tells_preorder s u.calls c.unit u f c.symbol [] asked.adds rfl
  have goes (met : List Meeting) (m : Meeting) :
      (c.answers side (printer counter) w met m).stops = false :=
    @stops_replies s c.unit u met m
  have whole : c.meetings side f (printer counter) w =
      f.preorder (c.answers side (printer counter) w) c.symbol [] := Answers.cut_of_going goes _ _
  have fine : ∀ r, c.lastReply? side f (printer counter) w = some r →
      ∃ n ∈ [0, 1, 2], r.number? = some n := by
    intro r last
    obtain ⟨m, -, rfl⟩ := Option.map_eq_some_iff.mp last
    exact Reply.number_of_goes (goes _ m)
  refine ⟨_, _, Cursor.exec_visit_of_fine h fine, ?_⟩
  have both := asked.trans told
  simp only [List.nil_append, Nat.zero_add] at both
  rw [Cursor.afterMeetings, whole]
  exact both

theorem exec_printBelow (h : side.Below c.symbol f) (w : World) :
    ∃ v, (printBelow c).exec side w = (.ok (cursors c.symbol f side w.calls).1.length, v) ∧
      w.Shows v ((cursors c.symbol f side w.calls).1.map Item.line)
        (cursors c.symbol f side w.calls).2 := by
  let u : World := { w with counters := w.counters.push 0 }
  have made : newCounter.exec side w = (.ok w.counters.size, u) := rfl
  obtain ⟨inside, outside, phase⟩ :=
    Binding.exec_inPhase "visit" (c.visit (printer w.counters.size)) side u
  obtain ⟨stopped, v, visited, told⟩ :=
    exec_visit_printer h w.counters.size { u with context := inside }
  rw [visited] at phase
  have counted : v.counter w.counters.size = (cursors c.symbol f side w.calls).1.length := by
    rw [World.counter, told.counters]
    simp [u, World.calls, Array.getElem_modify]
  refine ⟨{ v with context := outside }, ?_, told.adds, told.calls, told.printed⟩
  rw [printBelow, Binding.exec_bind_ok made, Binding.exec_bind_ok phase, ← counted]
  rfl

end

section

variable {u : Handle} {x : Option Symbol} {file : String}

def printHeader (u : Handle) (file : String) : Binding Cursor := do
  Binding.print ("tu: " ++ (← TranslationUnit.spelling u))
  let c ← TranslationUnit.cursor u
  Binding.print ("cursor-isnull: " ++ Text.Literal.ofBool (← c.isNull))
  Binding.print ("cursor: " ++ (← c.spelling))
  Binding.print ("cursor-kind: " ++ (← kindSpelling (← c.kind)))
  Binding.print ("tu-fname: " ++ (← shownFile u file))
  return c

theorem printUnit_eq (u : Handle) (file : String) :
    printUnit u file = printHeader u file >>= fun c => printBelow c >>= fun n =>
      messages u >>= fun ms => pure (n, ms) := by
  simp [printUnit, printHeader]

theorem tells_shownFile (usable : u.Usable s.base) (held : s.base.held? u = some (.handle x)) :
    s.Tells (shownFile u file) before (.ok (fileName x file s.side before).1) [] 0
      (fileName x file s.side before).2 := by
  let actuals : List Actual := [.value (.handle u), .value (.text file)]
  let c : Call := ⟨.getFile, [.handle x, .text (some (Text.cString (Text.utf8 file)))]⟩
  have poses : s.Poses .getFile actuals c := Stage.poses_object rfl usable held rfl fun _ => rfl
  have invokes : s.Tells (Function.getFile.invoke actuals) before
    (.ok (c, s.side.answer before c)) [] 0 (c :: before) := .invoke poses
  have wraps : Function.getFile.call actuals = Function.getFile.invoke actuals >>= fun r =>
    Function.wrap? .file r.2.handle := rfl
  rw [fileName, Hearing.bind_apply, shownFile, wraps, bind_assoc]
  refine .ask invokes ?_
  change s.Tells (Function.wrap? _ (Hearing.ask c s.side before).1.handle >>= _) _ _ _ _ _
  cases (Hearing.ask c s.side before).1.handle with
  | none => exact .pure _
  | some f =>
    rw [show Function.wrap? .file (some f) = (return .handle (← Handle.create .file
      (.handle (some f)))) from rfl, bind_assoc]
    refine .make (by decide) fun made h keeps => .ask (.pure (Value.handle h)) ?_
    exact .text (Stage.poses_object rfl keeps.usable keeps.holds rfl fun _ => rfl)

theorem tells_printHeader (usable : u.Usable s.base)
    (held : s.base.held? u = some (.handle x)) :
    s.Tells (printHeader u file) before (.ok ⟨(header x file s.side before).1.root, some u⟩)
      (header x file s.side before).1.lines 0 (header x file s.side before).2 := by
  refine .ask (.text (Stage.poses_object rfl usable held rfl fun _ => rfl)) (.say ?_)
  refine .ask (.ask (.struct (Stage.poses_object rfl usable held rfl fun _ => rfl)) (.pure _)) ?_
  refine .ask (tells_isNull _) (.say ?_)
  refine .ask (.text (Stage.poses_cursor rfl _)) (.say ?_)
  refine .ask (.ask .read (.pure _)) (.ask (tells_kindSpelling _) (.say ?_))
  refine .ask (tells_shownFile usable held) (.say ?_)
  exact .pure _

end

def diagnosticAt (unit : Option Symbol) (i : Nat) : Hearing (Option Symbol) :=
  return (← Hearing.ask ⟨.getDiagnostic, [.handle unit, .int i]⟩).handle

def diagnostics (unit : Option Symbol) : Hearing (List (Option Symbol)) := do
  let n ← Hearing.number ⟨.getNumDiagnostics, [.handle unit]⟩
  (List.range n.toNat).mapM (diagnosticAt unit)

def noticeOf (d : Option Symbol) (severity : Int) : ExceptT Failure Hearing Message := do
  match Enumeration.diagnosticSeverity.ofNumber? severity with
  | none => throw (.notMember (toString severity) "DiagnosticSeverity")
  | some m =>
    let options ← Hearing.number ⟨.defaultDiagnosticDisplayOptions, []⟩
    let text ← Hearing.text ⟨.formatDiagnostic, [.handle d, .int options]⟩
    return ⟨m.spelling?.getD m.qualified, text⟩

def notice (d : Option Symbol) : ExceptT Failure Hearing Message := do
  noticeOf d (← Hearing.number ⟨.getDiagnosticSeverity, [.handle d]⟩)

section

variable {side : Side} {w : World} {u : Handle} {x : Option Symbol}

theorem exec_item {i : Nat} (small : i < 2 ^ 32) (k : u.Keeps w x) (side : Side) :
    let c : Call := ⟨.getDiagnostic, [.handle x, .int i]⟩
    ∃ (v : World) (d : Handle),
      (Function.getDiagnostic.call [.value (.handle u), .value (.int i)]).exec side w =
        (.ok (.handle d), v) ∧
      v.held? d = some (.handle (side.answer w.calls c).handle) ∧ w.Shows v [] (c :: w.calls) := by
  intro c
  let s : Stage := ⟨side, w, 0⟩
  let actuals : List Actual := [.value (.handle u), .value (.int i)]
  have fits (v : World) : Actual.convert v [.uint32] [.value (.int i)] = some [.int i] := by
    rw [Actual.convert, Handle.argument?_index small]
    rfl
  have poses : s.Poses .getDiagnostic actuals c :=
    Stage.poses_object rfl k.usable k.holds rfl fits
  have invokes : s.Tells (Function.getDiagnostic.invoke actuals) w.calls
    (.ok (c, side.answer w.calls c)) [] 0 (c :: w.calls) := .invoke poses
  obtain ⟨v, asked, told⟩ := invokes w ⟨[], by simp [s]⟩ rfl
  let held : Held := .handle (side.answer w.calls c).handle
  let state : HandleState := ⟨.diagnostic, some held, .diagnostic (some u), none, rfl⟩
  let made : World := { v with handles := v.handles.push state }
  have pushed : made.handles = v.handles.push state := rfl
  have kept : v.Shows made [] (c :: w.calls) :=
    .of_silent (World.adds_of_push pushed) told.calls rfl
  refine ⟨made, ⟨state.cls, v.handles.size⟩, Binding.exec_bind_ok asked, ?_,
    told.toShows.trans kept⟩
  rw [World.held?, World.handle?_of_push pushed]
  rfl

theorem exec_items {is : List Nat} (small : ∀ i ∈ is, i < 2 ^ 32) (k : u.Keeps w x)
    (side : Side) :
    ∃ (v : World) (ds : List (Handle × Option Symbol)),
      ((is.map Int.ofNat).mapM fun i => Function.getDiagnostic.call
        [.value (.handle u), .value (.int i)]).exec side w = (.ok (ds.map (.handle ·.1)), v) ∧
      (∀ d ∈ ds, v.held? d.1 = some (.handle d.2)) ∧
      ds.map (·.2) = (is.mapM (diagnosticAt x) side w.calls).1 ∧
      w.Shows v [] (is.mapM (diagnosticAt x) side w.calls).2 := by
  induction is generalizing w with
  | nil => exact ⟨w, [], rfl, List.forall_mem_nil _, rfl, .of_silent ⟨[], by simp⟩ rfl rfl⟩
  | cons i r ih =>
    obtain ⟨first, others⟩ := List.forall_mem_cons.mp small
    obtain ⟨w', d, asked, held, shows⟩ := exec_item first k side
    obtain ⟨v, ds, read, all, symbols, shows'⟩ := ih others (k.adds shows.adds)
    rw [shows.calls] at symbols shows'
    refine ⟨v, (d, _) :: ds, ?_, List.forall_mem_cons.mpr ⟨shows'.adds.held? held, all⟩, ?_, ?_⟩
    · rw [List.map_cons, List.mapM_cons]
      exact (Binding.exec_bind_ok asked).trans (Binding.exec_bind_ok read)
    · rw [List.map_cons, symbols, List.mapM_cons]
      rfl
    · rw [List.mapM_cons]
      exact shows.trans shows'

theorem exec_diagnostics (k : u.Keeps w x) (side : Side) :
    ∃ (v : World) (ds : List (Handle × Option Symbol)) (id : Nat),
      (TranslationUnit.diagnostics u).exec side w =
        (.ok (.diagnostics (ds.map (.handle ·.1)) id), v) ∧
      (∀ d ∈ ds, v.held? d.1 = some (.handle d.2)) ∧
      ds.map (·.2) = (diagnostics x side w.calls).1 ∧
      w.Shows v [] (diagnostics x side w.calls).2 := by
  let s : Stage := ⟨side, w, 0⟩
  let c : Call := ⟨.getNumDiagnostics, [.handle x]⟩
  have poses : s.Poses .getNumDiagnostics [.value (.handle u)] c :=
    Stage.poses_object rfl k.usable k.holds rfl fun _ => rfl
  have counts : s.Tells (Function.getNumDiagnostics.number [.value (.handle u)]) w.calls
    (.ok (Hearing.number c side w.calls).1) [] 0 (c :: w.calls) := .number poses
  obtain ⟨w', counted, told⟩ := counts w ⟨[], by simp [s]⟩ rfl
  have below : (Hearing.number c side w.calls).1 < 2 ^ 32 := Int.emod_lt_of_pos _ (by decide)
  have small : ∀ i ∈ List.range (Hearing.number c side w.calls).1.toNat, i < 2 ^ 32 := by
    intro i among
    have := List.mem_range.mp among
    omega
  obtain ⟨v, ds, read, held, symbols, shows⟩ := exec_items small (k.adds told.adds) side
  rw [told.calls] at symbols shows
  refine ⟨{ v with owners := v.owners.push (.handle u) }, ds, v.owners.size, ?_, held, symbols, ?_⟩
  · exact (Binding.exec_bind_ok counted).trans (Binding.exec_bind_ok read)
  · have both := told.toShows.trans shows
    exact ⟨both.adds, both.calls, both.printed⟩

end

section

variable {d : Handle} {y : Option Symbol}

theorem tells_format (usable : d.Usable s.base) (held : s.base.held? d = some (.handle y)) :
    let options := Hearing.number ⟨.defaultDiagnosticDisplayOptions, []⟩ s.side before
    let text := Hearing.text ⟨.formatDiagnostic, [.handle y, .int options.1]⟩ s.side options.2
    s.Tells (Diagnostic.format d .none) before (.ok text.1) [] 0 text.2 := by
  intro options text
  have fits (v : World) : Actual.convert v [.uint32] [.value (.int options.1)] =
      some [.int options.1] := by
    have wrapped : Number.Width.uint32.wrap options.1 = options.1 := Int.emod_emod _ _
    change some [Native.Argument.int (Number.Width.uint32.wrap options.1)] = _
    rw [wrapped]
  refine .ask (.number (Stage.poses_plain rfl fun _ => rfl)) ?_
  exact .text (Stage.poses_object rfl usable held rfl fits)

theorem notice_apply (y : Option Symbol) (side : Side) (before : List Call) :
    let c : Call := ⟨.getDiagnosticSeverity, [.handle y]⟩
    notice y side before =
      noticeOf y (Hearing.number c side before).1 side (c :: before) := rfl

theorem unknown_of_notice {side : Side} {e : Failure}
    (h : (notice y side before).1 = .error e) :
    Enumeration.diagnosticSeverity.ofNumber?
      (Hearing.number ⟨.getDiagnosticSeverity, [.handle y]⟩ side before).1 = none := by
  rw [notice_apply, noticeOf] at h
  cases known : Enumeration.diagnosticSeverity.ofNumber?
      (Hearing.number ⟨.getDiagnosticSeverity, [.handle y]⟩ side before).1 with
  | none => rfl
  | some m =>
    rw [known] at h
    cases h

theorem hears_message (usable : d.Usable s.base) (held : s.base.held? d = some (.handle y)) :
    s.Hears (message (.handle d)) (notice y) := by
  intro before
  have asks : s.Tells (Function.getDiagnosticSeverity.number [.value (.handle d)]) before
      (.ok (Hearing.number ⟨.getDiagnosticSeverity, [.handle y]⟩ s.side before).1) [] 0
      (⟨.getDiagnosticSeverity, [.handle y]⟩ :: before) :=
    .number (Stage.poses_object rfl usable held rfl fun _ => rfl)
  rw [notice_apply, noticeOf]
  cases known : Enumeration.diagnosticSeverity.ofNumber?
      (Hearing.number ⟨.getDiagnosticSeverity, [.handle y]⟩ s.side before).1 with
  | none =>
    refine .fail (.ask asks ?_)
    rw [Enumeration.require, known]
    exact .throw _
  | some m =>
    have required : s.Tells (Diagnostic.severity d) before (.ok m) [] 0
        (⟨.getDiagnosticSeverity, [.handle y]⟩ :: before) := by
      refine .ask asks ?_
      rw [Enumeration.require, known]
      exact .pure _
    have spelled : m.str = pure (m.spelling?.getD m.qualified) := by
      rw [Member.str, Enumeration.kind_of_ofNumber? known]
      cases m.spelling? <;> rfl
    refine .ask required ?_
    rw [spelled]
    exact .ask (.pure _) (.ask (tells_format usable held) (.pure _))

theorem hears_messages {ds : List (Handle × Option Symbol)}
    (usable : ∀ d ∈ ds, d.1.Usable s.base)
    (held : ∀ d ∈ ds, s.base.held? d.1 = some (.handle d.2)) :
    s.Hears ((ds.map (Value.handle ·.1)).mapM message) ((ds.map (·.2)).mapM notice) := by
  rw [List.mapM_map, List.mapM_map]
  exact .mapM fun d mem => hears_message (usable d mem) (held d mem)

end

section

variable {side : Side} {w v : World} {u : Handle} {x : Option Symbol} {file : String}

def notices (unit : Option Symbol) : ExceptT Failure Hearing (List Message) := do
  (← diagnostics unit).mapM notice

theorem owned_of_diagnostics (cls : u.cls = .translationUnit) {ds : List Handle} {id : Nat}
    (read : (TranslationUnit.diagnostics u).exec side w =
      (.ok (.diagnostics (ds.map .handle) id), v)) :
    ds.Nodup ∧ ∀ d ∈ ds, v.Owns u d ∧ v.isDisposed d = false := by
  obtain ⟨hs, id', same, distinct, owns⟩ := TranslationUnit.reads_diagnostics cls read
  injection same with same
  rw [List.map_injective_iff.mpr (fun _ _ e => Value.handle.inj e) same]
  exact ⟨distinct, fun d mem => (owns d mem).2⟩

theorem exec_messages (k : u.Keeps w x) (cls : u.cls = .translationUnit) (side : Side) :
    ∃ v, (messages u).exec side w = ((notices x side w.calls).1, v) ∧ v.printed = w.printed := by
  obtain ⟨v, ds, id, read, held, symbols, shows⟩ := exec_diagnostics k side
  have handles : ds.map (Value.handle ·.1) = (ds.map (·.1)).map .handle := by
    rw [List.map_map]
    rfl
  obtain ⟨distinct, owns⟩ := owned_of_diagnostics cls (handles ▸ read)
  have live := (k.adds shows.adds).usable.1
  have usable : ∀ d ∈ ds, d.1.Usable v := by
    intro d mem
    obtain ⟨own, alive⟩ := owns d.1 (List.mem_map_of_mem mem)
    exact own.usable (by simp [World.isOver, alive, live])
  let heard := notices x side w.calls
  have same : (ds.map (·.2)).mapM notice side (diagnostics x side w.calls).2 = heard := by
    rw [symbols]
    rfl
  let s : Stage := ⟨side, v, 0⟩
  have tells : s.Tells ((ds.map (Value.handle ·.1)).mapM message) (diagnostics x side w.calls).2
    heard.1 [] 0 heard.2 := same ▸ hears_messages usable held _
  obtain ⟨v', told, shows'⟩ := tells v ⟨[], by simp [s]⟩ shows.calls
  have later : v.Evolves v' := .of_result told
  obtain ⟨y, disposed, -⟩ := TranslationUnit.exec_discharges distinct
    (fun d mem => (owns d mem).1.evolves later) (k.adds (shows.adds.trans shows'.adds)).usable.1
    (fun d mem => shows'.adds.held? (held d mem)) side id
  have mute : y.printed = v'.printed := by
    have := Value.mute_dispose_diagnostics (ds.map (·.1)) id side v'
    rwa [← handles, disposed] at this
  have ended : (messages u).exec side w = (heard.1, y) :=
    (Binding.exec_bind_ok read).trans (Binding.exec_andFinally told disposed)
  exact ⟨y, ended, mute.trans (shows'.printed.trans shows.printed)⟩

theorem exec_printUnit (k : u.Keeps w x) (cls : u.cls = .translationUnit) {f : Forest}
    (h : side.Below (header x file side w.calls).1.root f) :
    let head := header x file side w.calls
    let items := cursors head.1.root f side head.2
    ∃ v, (printUnit u file).exec side w =
        ((notices x side items.2).1.map fun ms => (items.1.length, ms), v) ∧
      v.printed =
        ((head.1.lines ++ items.1.map Item.line).map (· ++ "\n")).reverse ++ w.printed := by
  intro head items
  let s : Stage := ⟨side, w, 0⟩
  have tells : s.Tells (printHeader u file) w.calls (.ok ⟨head.1.root, some u⟩) head.1.lines 0
    head.2 := tells_printHeader k.usable k.holds
  obtain ⟨v, printed, shows⟩ := tells w ⟨[], by simp [s]⟩ rfl
  obtain ⟨v', listed, shows'⟩ := exec_printBelow (c := ⟨head.1.root, some u⟩) h v
  rw [shows.calls] at listed shows'
  have both := shows.toShows.trans shows'
  obtain ⟨y, told, mute⟩ := exec_messages (k.adds both.adds) cls side
  rw [both.calls] at told
  refine ⟨y, ?_, mute.trans both.printed⟩
  rw [printUnit_eq, Binding.exec_bind_ok printed, Binding.exec_bind_ok listed]
  cases e : (notices x side items.2).1 with
  | ok ms =>
    rw [e] at told
    exact Binding.exec_bind_ok told
  | error e =>
    rw [e] at told
    exact Binding.exec_bind_error told

end

def parsing (file : String) (arguments : List String) : Binding Handle := do
  let index ← Index.make (.bool false) (.bool true)
  Binding.inPhase "parse"
    (Index.parse index (.text file) (.list (arguments.map .text)) .none (.int 0))

theorem mute_make (exclude display : Bool) : (Index.make (.bool exclude) (.bool display)).Mute :=
  .bind (.pure _) fun _ => .bind (.pure _) fun _ => .bind .handle fun _ =>
    .bind (.log _ _ _) fun _ => .create

theorem mute_ofHandle (index : Handle) (failed : Failure) {warn : Binding Unit} (h : warn.Mute)
    (x : Option Symbol) : (TranslationUnit.ofHandle index failed warn x).Mute := by
  cases x with
  | some s => exact .create
  | none => exact h.bind fun _ => .throw _

theorem mute_parse (index : Handle) (file : String) (arguments : List String) :
    (Index.parse index (.text file) (.list (arguments.map .text)) .none (.int 0)).Mute := by
  have argv : (Marshal.argv (.list (arguments.map .text))).Mute := by
    intro side w
    obtain ⟨bs, taken⟩ := Index.exec_argv_texts arguments side w
    rw [taken]
  exact .bind argv fun _ => .bind (.pure _) fun _ => .bind (.log _ _ _) fun _ =>
    .bind (.pure _) fun _ => .bind .handle (mute_ofHandle _ _ (.log _ _ _))

theorem mute_parsing (file : String) (arguments : List String) : (parsing file arguments).Mute :=
  .bind (mute_make _ _) fun index => .inPhase _ (mute_parse index file arguments)

structure Dump where
  side : Side
  state : World
  file : String
  arguments : List String
  unit : Handle
  start : World
  parsed : (parsing file arguments).exec side state = (.ok unit, start)

namespace Dump

variable (d : Dump) (f : Forest)

def outcome : Except Failure Summary × World := (dump d.file d.arguments).exec d.side d.state

def symbol? : Option Symbol := d.start.symbol? d.unit

def head : Head × List Call := header d.symbol? d.file d.side d.start.calls

def root : Symbol := d.head.1.root

def items : List Item × List Call := cursors d.root f d.side d.head.2

def diagnostics : List (Option Symbol) :=
  (UnitDump.diagnostics d.symbol? d.side (d.items f).2).1

def messages : Except Failure (List Message) := (notices d.symbol? d.side (d.items f).2).1

def lines : List String := d.head.1.lines ++ (d.items f).1.map Item.line

/-- What a dump can be relied on for: what it prints, and what it returns. It fails only if the
severity of a diagnostic has no name. -/
structure Contract : Prop where
  header : d.head.1.lines.length = 5
  prints : d.outcome.2.printed = ((d.lines f).map (· ++ "\n")).reverse ++ d.state.printed
  outcome : d.outcome.1 = (d.messages f).map fun ms =>
    { file := d.file, arguments := d.arguments, cursors := (d.items f).1.length, messages := ms }
  count : (d.diagnostics f).length =
    (Hearing.number ⟨.getNumDiagnostics, [.handle d.symbol?]⟩ d.side (d.items f).2).1.toNat
  messages : (∃ ms, d.messages f = .ok ms ∧
      List.Forall₂ (fun y m => ∃ calls, (notice y d.side calls).1 = .ok m) (d.diagnostics f) ms) ∨
    ∃ e, d.messages f = .error e ∧ ∃ y ∈ d.diagnostics f, ∃ calls,
      Enumeration.diagnosticSeverity.ofNumber?
        (Hearing.number ⟨.getDiagnosticSeverity, [.handle y]⟩ d.side calls).1 = none

variable {d f}

theorem printed_start (d : Dump) : d.start.printed = d.state.printed := by
  have mute := mute_parsing d.file d.arguments d.side d.state
  rwa [d.parsed] at mute

theorem keeps_unit (d : Dump) :
    ∃ x, d.unit.Keeps d.start (some x) ∧ d.unit.cls = .translationUnit := by
  obtain ⟨index, u, made, parsed⟩ := Binding.exec_bind_cases d.parsed
  obtain ⟨index', i, u', made', -, obtained⟩ := Index.exec_make false true d.side d.state
  cases made.symm.trans made'
  obtain ⟨inside, outside, phase⟩ := Binding.exec_inPhase "parse"
    (Index.parse index (.text d.file) (.list (d.arguments.map .text)) .none (.int 0)) d.side u
  have usable : index.Usable { u with context := inside } := obtained.keeps.usable
  obtain ⟨unit, x, v, made, cls, obtained⟩ | ⟨e, v, failed, -⟩ :=
    Index.exec_parse usable d.file d.arguments d.side
  · rw [made] at phase
    obtain ⟨same, start⟩ := Prod.mk.inj (parsed.symm.trans phase)
    rw [Except.ok.inj same, start]
    exact ⟨x, obtained.keeps.of_handle? rfl, cls⟩
  · rw [failed] at phase
    cases parsed.symm.trans phase

theorem outcome_of_printUnit (d : Dump) {r : Except Failure (Nat × List Message)} {y : World}
    (e : (printUnit d.unit d.file).exec d.side d.start = (r, y)) :
    d.outcome.2.printed = y.printed ∧ d.outcome.1 = r.map fun (n, ms) =>
      { file := d.file, arguments := d.arguments, cursors := n, messages := ms } := by
  obtain ⟨x, keeps, ofUnit⟩ := d.keeps_unit
  obtain ⟨index, u, made, parsed⟩ := Binding.exec_bind_cases d.parsed
  obtain ⟨index', i, u', made', cls, obtained⟩ := Index.exec_make false true d.side d.state
  cases made.symm.trans made'
  have repays := repays_printUnit ofUnit d.file d.side d.start (some x) keeps
  rw [e] at repays
  obtain ⟨z, closed, -⟩ := Binding.exec_releasing e (keeps.repays (by simp [ofUnit]) repays)
    (by rw [ofUnit]; rfl)
  obtain ⟨r', z', -, -, block, kept, -⟩ :=
    exec_parse_printing obtained.keeps cls d.file d.arguments d.side
  cases ((Binding.exec_bind_ok parsed).trans closed).symm.trans block
  obtain ⟨v, ended, -⟩ := Binding.exec_releasing block kept (by rw [cls]; rfl)
  have silent : v.printed = y.printed :=
    (Binding.printed_of_releasing block ended).trans (Binding.printed_of_releasing e closed)
  have begun : d.outcome = _ := Binding.exec_bind_ok made
  cases r with
  | ok a =>
    have finished := begun.trans (Binding.exec_bind_ok ended)
    rw [finished]
    exact ⟨silent, rfl⟩
  | error e =>
    have finished := begun.trans (Binding.exec_bind_error ended)
    rw [finished]
    exact ⟨silent, rfl⟩

theorem contract (h : d.side.Below d.root f) : d.Contract f := by
  obtain ⟨x, keeps, cls⟩ := d.keeps_unit
  have symbol : d.symbol? = some x := by
    simp [symbol?, World.symbol?, keeps.holds, World.symbolOf]
  have below : d.side.Below (header (some x) d.file d.side d.start.calls).1.root f := by
    rwa [root, head, symbol] at h
  obtain ⟨y, told, printed⟩ := exec_printUnit keeps cls below
  obtain ⟨same, ended⟩ := d.outcome_of_printUnit told
  refine ⟨rfl, ?_, ?_, ?_, ?_⟩
  · rw [same, printed, d.printed_start, lines, items, root, head, symbol]
  · rw [ended, messages, items, root, head, symbol]
    cases (notices (some x) d.side _).1 <;> rfl
  · exact (Hearing.length_mapM _ _ _ _).trans List.length_range
  · refine (Hearing.mapM_cases notice (d.diagnostics f) d.side _).imp_right ?_
    rintro ⟨e, fails, y, among, calls, untold⟩
    exact ⟨e, fails, y, among, calls, unknown_of_notice untold⟩

/-- A dump prints the lines about the unit and one for each cursor of the listing, in preorder, and
returns how many these were. What the native side says of a cursor may change all along. -/
theorem dump_prints_listing :
    (∀ (d : Dump) (f : Forest), d.side.Below d.root f → d.Contract f) ∧
      ∀ (d : Dump) (script : Script) (f : Forest), d.side = script.toSide →
        script.toSide.Unfolds (script.toSide.children d.root) f → d.Contract f := by
  refine ⟨fun d f => contract, ?_⟩
  intro d script f same unfolds
  have below : script.toSide.Below d.root f := Script.below_of_unfolds unfolds
  exact contract (same ▸ below)

def smallUnit (severity : Int) : Script where
  cursors := [("space", .int 22), ("function", .int 8)]
  children := [("root", .array [.text "space", .null, .text "function"]),
    ("space", .array [.text "x"]), ("function", .array [.text "y"])]
  functions := [
    ("clang_createIndex", .object [("*", .text "index")]),
    ("clang_parseTranslationUnit", .object [("*", .text "unit")]),
    ("clang_getTranslationUnitCursor", .object [("*", .text "root")]),
    ("clang_getCursorKindSpelling", .object [("*", .text "Kind")]),
    ("clang_getCursorSpelling", .object [("space", .text "s"), ("function", .text "f")]),
    ("clang_getNumDiagnostics", .object [("*", .int 1)]),
    ("clang_getDiagnosticSeverity", .object [("*", .int severity)])]

def smallForest : Forest :=
  .cons "space" (.cons "x" .nil .nil)
    (.cons zeroSymbol .nil (.cons "function" (.cons "y" .nil .nil) .nil))

def smallDump (severity : Int) : Dump where
  side := (smallUnit severity).toSide
  state := {}
  file := "a.cc"
  arguments := []
  unit := ⟨.translationUnit, 1⟩
  start := ((parsing "a.cc" []).exec (smallUnit severity).toSide {}).2
  parsed := Prod.ext rfl rfl

theorem dump_prints_listing_small :
    (smallDump 3).outcome.2.printed.reverse = ["tu: \n", "cursor-isnull: False\n", "cursor: \n",
        "cursor-kind: Kind\n", "tu-fname: <none>\n", "Kind: s ()\n", "Kind:  ()\n",
        "cursor: <none>\n", "Kind: f ()\n"] ∧
      ((smallDump 3).outcome.1.toOption.map fun s =>
        (s.cursors, s.messages.map (·.severity))) = some (4, ["Error"]) ∧
      (smallDump 9).outcome.1.toOption.isNone = true := by
  have unfolds (severity : Int) : (smallUnit severity).toSide.Unfolds
      ((smallUnit severity).toSide.children "root") smallForest :=
    .cons (.cons .nil .nil) (.cons .nil (.cons (.cons .nil .nil) .nil))
  have known : (smallDump 3).root = "root" := by decide +kernel
  have unknown : (smallDump 9).root = "root" := by decide +kernel
  have told := dump_prints_listing.2 (smallDump 3) (smallUnit 3) smallForest rfl
    (known ▸ unfolds 3)
  have failed := dump_prints_listing.1 (smallDump 9) smallForest
    (unknown ▸ Script.below_of_unfolds (unfolds 9))
  refine ⟨?_, ?_, ?_⟩
  · rw [told.prints]
    decide +kernel
  · rw [told.outcome]
    decide +kernel
  · rw [failed.outcome]
    decide +kernel

end Dump

end Tool.UnitDump

end ClangIndex
