import ClangIndex.Binding.Marshal
import ClangIndex.Binding.Shown
import ClangIndex.Proofs.MadeCalls

namespace ClangIndex

open Native (Function HandleClass Side)

def ErrorClass.reports : ErrorClass → Bool
  | .library | .disposedHandle => false
  | .unitLoad | .unitReparse | .unitSave | .database | .typeLayout | .fileUniqueID => true

def Failure.reports (e : Failure) : Bool := e.class?.any ErrorClass.reports

theorem Handle.plain_of_obstacle {w : World} {h : Handle} {e : Failure}
    (obstacle : h.obstacle w = some e) : e.reports = false := by
  unfold Handle.obstacle at obstacle
  split at obstacle
  · cases obstacle
    rfl
  · split at obstacle <;> cases obstacle
    rfl

namespace Native.Function

variable (f : Function) (holder : Option Handle) (actuals : List Actual) (side : Side) (w : World)

theorem records_perform : (f.perform holder actuals side w).2.records = w.records := by
  obtain ⟨x, refused⟩ | ⟨d, made, -⟩ := f.perform_cases holder actuals side w
  · rw [refused]
  · rw [made]

theorem plain_of_perform (e : Failure) (failed : (f.perform holder actuals side w).1 = .error e) :
    e.reports = false := by
  unfold perform at failed
  split at failed
  · rename_i obstacle
    cases failed
    obtain ⟨h, -, obstacle⟩ := List.exists_of_findSome?_eq_some obstacle
    exact h.plain_of_obstacle obstacle
  · split at failed <;> cases failed
    rfl

end Native.Function

namespace Value

variable {v : Value} {e : Failure}

theorem reports_outOfRange (v : Value) : v.outOfRange.reports = false := by
  unfold outOfRange
  split <;> rfl

theorem plain_of_toBytes (h : v.toBytes = .error e) : e.reports = false := by
  unfold toBytes at h
  split at h <;> cases h
  rfl

theorem plain_of_toInteger (h : v.toInteger = .error e) : e.reports = false := by
  have plain_of_reading {n? : Option Int} (h : toInteger.ofReading n? = .error e) :
      e.reports = false := by
    cases n? <;> cases h
    rfl
  unfold toInteger at h
  split at h
  case h_5 | h_6 => exact plain_of_reading h
  case h_4 =>
    split at h <;> cases h
    rfl
  all_goals cases h
  rfl

end Value

namespace Binding

variable {α β : Type} {p : Function → Prop} {m : Binding α} {f : α → Binding β}

/-- An operation that calls such functions only, writes no record and reports no failure. -/
structure Consults (p : Function → Prop) (m : Binding α) : Prop where
  calls : Calls p m
  records : ∀ side w, (m.exec side w).2.records = w.records
  plain : ∀ side w e, (m.exec side w).1 = .error e → e.reports = false

abbrev Discreet (m : Binding α) : Prop := Consults (fun f => f.loads = false) m

abbrev Solitary (m : Binding α) : Prop := Consults (fun _ => False) m

namespace Consults

theorem mono {q : Function → Prop} (h : Consults p m) (k : ∀ f, p f → q f) : Consults q m :=
  { h with calls := h.calls.mono k }

theorem of_solitary (h : Solitary m) : Consults p m := h.mono fun _ => False.elim

theorem pure (a : α) : Consults p (pure a : Binding α) :=
  ⟨.pure a, fun _ _ => rfl, fun _ _ _ failed => nomatch failed⟩

theorem throw {e : Failure} (plain : e.reports = false) :
    Consults p (throw e : Binding α) where
  calls := .throw e
  records _ _ := rfl
  plain _ _ _ failed := by cases failed; exact plain

theorem read : Consults p (MonadReaderOf.read : Binding Side) :=
  ⟨.of_eq fun _ _ => rfl, fun _ _ => rfl, fun _ _ _ failed => nomatch failed⟩

theorem keeping (g : World → α × World) (h : ∀ w, (g w).2.accounts = w.accounts)
    (same : ∀ w, (g w).2.records = w.records) : Consults p (keeping g h) :=
  ⟨.keeping g h, fun _ w => same w, fun _ _ _ failed => nomatch failed⟩

theorem update (g : World → World) (h : ∀ w, (g w).accounts = w.accounts)
    (same : ∀ w, (g w).records = w.records) : Consults p (update g h) := keeping _ _ same

theorem now : Consults p World.now := keeping _ _ fun _ => rfl

theorem copying (n : StateM Ledger α) (h : ForeignString.Settles n) : Consults p (copying n h) :=
  ⟨.copying n h, fun _ _ => rfl, fun _ _ _ failed => nomatch failed⟩

theorem create {cls : HandleClass} {held : Held} {role : Role} {fits : role.fits cls = true} :
    Consults p (Handle.create cls held role fits) :=
  ⟨.create, fun _ _ => rfl, fun _ _ _ failed => nomatch failed⟩

theorem bind (h : Consults p m) (k : ∀ a, Consults p (f a)) : Consults p (m >>= f) where
  calls := h.calls.bind fun a => (k a).calls
  records side w := by
    have first := h.records side w
    cases e : m.exec side w with
    | mk r v =>
      rw [e] at first
      cases r with
      | ok a => rw [exec_bind_ok e, (k a).records, first]
      | error x => rw [exec_bind_error e, first]
  plain side w x failed := by
    cases e : m.exec side w with
    | mk r v =>
      cases r with
      | ok a =>
        rw [exec_bind_ok e] at failed
        exact (k a).plain side v x failed
      | error y =>
        rw [exec_bind_error e] at failed
        cases failed
        exact h.plain side w x (congrArg Prod.fst e)

theorem map {g : α → β} (h : Consults p m) : Consults p (g <$> m) := h.bind fun _ => pure _

theorem ite {c : Prop} [Decidable c] {n : Binding α} (h : Consults p m) (k : Consults p n) :
    Consults p (if c then m else n) := by
  split
  · exact h
  · exact k

theorem lift {r : Except Failure α} (plain : ∀ e, r = .error e → e.reports = false) :
    Consults p (liftM r : Binding α) := by
  cases r with
  | ok => exact pure _
  | error e => exact throw (plain e rfl)

theorem mapM {g : α → Binding β} {xs : List α} (h : ∀ a ∈ xs, Consults p (g a)) :
    Consults p (xs.mapM g) := by
  induction xs with
  | nil => exact pure _
  | cons x r ih =>
    rw [List.mapM_cons]
    exact (h x List.mem_cons_self).bind fun _ =>
      (ih fun a mem => h a (List.mem_cons_of_mem _ mem)).bind fun _ => pure _

section

variable {f : Function} {actuals : List Actual} {keeps : f.releases = false}

theorem invoke (h : p f) : Consults p (f.invoke actuals keeps) where
  calls := .invoke h
  records := f.records_perform none actuals
  plain := f.plain_of_perform none actuals

theorem invokeBare {a : Native.Argument} (h : p f) : Consults p (f.invokeBare a) where
  calls := .invokeBare h
  records := f.records_perform none [.native a]
  plain := f.plain_of_perform none [.native a]

theorem number (h : p f) : Consults p (f.number actuals keeps) := (invoke h).bind fun _ => pure _

theorem text (h : p f) : Consults p (f.text actuals keeps) := (invoke h).bind fun _ => copying _ _

theorem struct (h : p f) : Consults p (f.struct actuals keeps) := (invoke h).bind fun _ => pure _

theorem handle (h : p f) : Consults p (f.handle actuals keeps) := (invoke h).bind fun _ => pure _

theorem wrap? (c : HandleClass) (h : Option Symbol) {fits : Role.plain.fits c = true} :
    Consults p (Function.wrap? c h fits) := by
  cases h with
  | none => exact pure _
  | some s => exact create.bind fun _ => pure _

theorem call (h : p f) (quiet : f.signature.check ≠ some .codeCompleteResults) :
    Consults p (f.call actuals keeps) := by
  refine (invoke h).bind fun _ => ?_
  dsimp only
  split
  case h_1 => exact (copying _ _).bind fun _ => pure _
  case h_6 | h_7 => exact wrap? _ _
  case h_8 | h_9 => exact create.bind fun _ => pure _
  case h_10 completes => exact absurd completes quiet
  all_goals exact pure _

end

theorem require (e : Enumeration) (n : Int) : Consults p (e.require n) := by
  unfold Enumeration.require
  split
  · exact pure _
  · exact throw rfl

end Consults

end Binding

open Binding (Consults Discreet Solitary)

theorem Value.solitary_plainRepr (v : Value) : Solitary v.plainRepr := by
  unfold plainRepr
  split
  · exact .pure _
  · exact .throw rfl

namespace Location

theorem discreet_expansion (s : Symbol) : Discreet (expansion s) := by
  refine (Consults.invoke (by rfl)).bind fun _ => ?_
  dsimp only
  split
  · exact (Consults.create.map).bind fun _ => .pure _
  · exact .pure _

theorem discreet_repr (s : Symbol) : Discreet (repr s) := by
  refine (discreet_expansion s).bind fun _ => ?_
  dsimp only
  split
  · exact (Consults.text (by rfl)).map.bind fun _ => .pure _
  · exact .pure _

end Location

theorem Range.discreet_repr (s : Symbol) : Discreet (repr s) :=
  (Consults.struct (by rfl)).bind fun _ => (Location.discreet_repr _).bind fun _ =>
    (Consults.struct (by rfl)).bind fun _ => (Location.discreet_repr _).bind fun _ => .pure _

theorem Cursor.discreet_repr (c : Cursor) : Discreet c.repr := by
  refine ((Consults.number (by rfl)).bind fun _ => .pure _).bind fun _ => .ite (.pure _) ?_
  exact (Consults.read.bind fun _ => .pure _).bind fun _ =>
    (Consults.text (by rfl)).bind fun _ => .pure _

theorem TypeRef.discreet_repr (t : TypeRef) : Discreet t.repr :=
  (Consults.read.bind fun _ => .pure _).bind fun _ => (Consults.text (by rfl)).bind fun _ => .pure _

theorem Token.discreet_repr (t : Token) : Discreet t.repr := by
  refine ((Consults.number (by rfl)).bind fun _ => .require _ _).bind fun _ =>
    .bind ?_ fun v => v.solitary_plainRepr.of_solitary.bind fun _ => .pure _
  unfold spelling withUnit
  split
  · exact .call (by rfl) (by decide)
  · exact .throw rfl

theorem Comment.discreet_kind (s : Symbol) : Discreet (kind s) :=
  (Consults.number (by rfl)).bind fun _ => .require _ _

namespace Diagnostic

theorem discreet_repr (d : Handle) : Discreet (repr d) :=
  ((Consults.number (by rfl)).bind fun _ => .require _ _).bind fun _ =>
    (Consults.struct (by rfl)).bind fun _ => (Location.discreet_repr _).bind fun _ =>
    (Consults.text (by rfl)).bind fun _ => .pure _

theorem discreet_format (d : Handle) (options : Value) : Discreet (format d options) := by
  unfold format
  split
  · exact (Consults.number (by rfl)).bind fun _ => .text (by rfl)
  · exact (Consults.lift fun _ => Value.plain_of_toInteger).bind fun _ => .text (by rfl)

end Diagnostic

namespace CompletionChunk

theorem discreet_str (string key : Value) : Discreet (str string key) :=
  (Consults.number (by rfl)).bind fun _ => (Consults.text (by rfl)).bind fun _ => .pure _

theorem discreet_repr (string key : Value) : Discreet (repr string key) :=
  (Consults.text (by rfl)).bind fun _ => (Consults.number (by rfl)).bind fun _ => .pure _

end CompletionChunk

namespace CompletionString

theorem discreet_size (c : Handle) : Discreet (size c) :=
  (Consults.number (by rfl)).bind fun _ => .pure _

theorem discreet_repr (c : Handle) : Discreet (repr c) :=
  (discreet_size c).bind fun _ =>
    (Consults.mapM fun _ _ => CompletionChunk.discreet_str _ _).bind fun _ =>
    (Consults.number (by rfl)).bind fun _ =>
    ((Consults.number (by rfl)).bind fun _ => .require _ _).bind fun _ =>
    (Consults.text (by rfl)).bind fun _ => .pure _

end CompletionString

namespace CodeCompleteResults

theorem solitary_size (h : Handle) : Solitary (size h) := Consults.now.bind fun _ => .pure _

theorem solitary_results (h : Handle) : Solitary (results h) := by
  refine Consults.now.bind fun _ => ?_
  split
  · exact .pure _
  · exact (solitary_size h).bind fun _ => .pure _

end CodeCompleteResults

theorem Platform.solitary_repr (id : Nat) : Solitary (repr id) := by
  refine (Consults.now.bind fun _ => .pure _).bind fun _ => .ite (.pure _) ?_
  refine .bind ?_ fun _ => Consults.now.bind fun _ => .pure _
  exact (Consults.now.bind fun _ => .pure _).bind fun _ => .ite (.throw rfl) (.pure _)

namespace Handle

theorem discreet_text {f : Function} (h : Handle) {keeps : f.releases = false}
    (loads : f.loads = false) : Discreet (h.text f keeps) := .text loads

theorem solitary_isValid (h : Handle) : Solitary h.isValid := Consults.now.bind fun _ => .pure _

theorem discreet_repr (h : Handle) : Discreet h.repr := by
  unfold repr
  split
  · exact h.solitary_isValid.of_solitary.bind fun _ =>
      .ite ((discreet_text h (by rfl)).bind fun _ => .pure _) (.pure _)
  · exact (Consults.text (by rfl)).bind fun _ => .pure _
  · exact (h.solitary_isValid.of_solitary.bind fun _ => .pure _).bind fun _ =>
      .ite (.pure _) ((discreet_text h (by rfl)).bind fun _ => .pure _)
  · exact Diagnostic.discreet_repr h
  · exact CompletionString.discreet_repr h
  · exact (CodeCompleteResults.solitary_size h).of_solitary.bind fun _ => .pure _
  · exact (discreet_text h (by rfl)).bind fun _ => (discreet_text h (by rfl)).bind fun _ => .pure _
  · exact .pure _

end Handle

theorem Member.discreet_str (m : Member) : Discreet m.str := by
  unfold str
  split
  · exact .text (by rfl)
  · exact .pure _
  · exact .pure _

theorem Object.discreet_repr (o : Object) : Discreet o.repr := by
  cases o with
  | cursor c => exact c.discreet_repr
  | type t => exact t.discreet_repr
  | token t => exact t.discreet_repr
  | location s => exact Location.discreet_repr s
  | range s => exact Range.discreet_repr s
  | comment s => exact (Comment.discreet_kind s).bind fun _ => .pure _
  | completionResult array i =>
    exact (Consults.now.bind fun _ => .pure _).bind fun _ => Consults.create.bind fun _ =>
      (CompletionString.discreet_repr _).bind fun _ => .pure _
  | version cell => exact Consults.now.bind fun _ => .pure _
  | _ => exact .pure _

namespace Value

theorem discreet_reprWithin (depth : Nat) (v : Value) : Discreet (v.reprWithin depth) := by
  induction depth generalizing v with
  | zero => exact .throw rfl
  | succ depth ih =>
    cases v with
    | list xs | diagnostics xs => exact (Consults.mapM fun x _ => ih x).bind fun _ => .pure _
    | tuple xs => exact (Consults.mapM fun x _ => ih x).bind fun _ => .pure _
    | mapping es =>
      exact (Consults.mapM fun _ _ => (ih _).bind fun _ => .pure _).bind fun _ => .pure _
    | object o => exact o.discreet_repr
    | handle h => exact h.discreet_repr
    | platform id => exact (Platform.solitary_repr id).of_solitary
    | availability id =>
      exact (Consults.now.bind fun _ => .pure _).bind fun _ => (ih _).bind fun _ =>
        (ih _).bind fun _ => (ih _).bind fun _ => (ih _).bind fun _ => (ih _).bind fun _ => .pure _
    | chunk id => exact Consults.now.bind fun _ => CompletionChunk.discreet_repr _ _
    | filePosition f l c o =>
      cases f with
      | none => exact (Consults.pure _).bind fun _ => .pure _
      | some f => exact f.discreet_repr.bind fun _ => .pure _
    | fixIt v r => exact (ih r).bind fun _ => .pure _
    | presumedPosition | moment => exact .pure _
    | _ =>
      unfold reprWithin
      exact (solitary_plainRepr _).of_solitary

theorem discreet_str (v : Value) : Discreet v.str := by
  unfold str
  split
  · exact .pure _
  · exact .pure _
  · exact Member.discreet_str _
  · exact (solitary_plainRepr _).of_solitary
  · exact Consults.now.bind fun _ => .pure _
  · exact .pure _
  · exact Consults.now.bind fun _ => CompletionChunk.discreet_str _ _
  · split
    · exact .text (by rfl)
    · exact Diagnostic.discreet_format _ _
    · exact Handle.discreet_repr _
  · exact discreet_reprWithin _ _

theorem discreet_ensureWithin {size : Binding Nat} (i : Value) (h : Discreet size) :
    Discreet (i.ensureWithin size) := by
  unfold ensureWithin
  split
  · exact .throw rfl
  · refine .ite (.throw i.reports_outOfRange) (h.bind fun _ => ?_)
    exact .ite (.throw i.reports_outOfRange) (.pure _)

end Value

theorem Handle.solitary_symbol (h : Handle) : Solitary h.symbol := by
  refine .bind ?_ fun _ => Consults.now.bind fun _ => .pure _
  refine .bind ?_ fun _ => Consults.now.bind fun _ => .pure _
  refine Consults.now.bind fun w => ?_
  split
  · rename_i obstacle
    exact .throw (h.plain_of_obstacle obstacle)
  · exact .pure _

namespace CompileCommands

theorem discreet_size (h : Handle) : Discreet (size h) := by
  refine h.solitary_symbol.of_solitary.bind fun _ => ?_
  split
  · exact .pure _
  · exact (Consults.number (by rfl)).bind fun _ => .pure _

theorem discreet_command (h : Handle) (i : Value) : Discreet (command h i) := by
  refine (i.discreet_ensureWithin (discreet_size h)).bind fun _ =>
    (Consults.handle (by rfl)).bind fun _ => ?_
  split
  · exact .throw i.reports_outOfRange
  · exact Consults.create.bind fun _ => .pure _

end CompileCommands

namespace Handle

theorem discreet_size (h : Handle) : Discreet h.size := by
  unfold size
  split
  · exact Consults.now.bind fun _ => .ite (.throw rfl) (.pure _)
  · exact Consults.now.bind fun _ => .ite (.throw rfl) (.pure _)
  · exact (CodeCompleteResults.solitary_size h).of_solitary
  · exact CompileCommands.discreet_size h
  · exact CompletionString.discreet_size h
  · exact .throw rfl

theorem discreet_itemAt (h : Handle) (i : Nat) : Discreet (h.itemAt i) := by
  refine Consults.now.bind fun w => ?_
  split
  · exact .pure _
  · exact .pure _
  · exact .pure _
  · exact CompileCommands.discreet_command h _
  · exact .keeping _ _ fun _ => rfl
  · exact .throw rfl

theorem discreet_item (h : Handle) (i : Value) : Discreet (h.item i) := by
  have within_ := i.discreet_ensureWithin h.discreet_size
  unfold item
  split
  · exact CompileCommands.discreet_command h i
  · exact within_.bind fun _ => .keeping _ _ fun _ => rfl
  -- Tokens, overridden cursors and results of a completion look up the number alike.
  iterate 3
    · refine within_.bind fun _ => ?_
      split
      · exact h.discreet_itemAt _
      · exact .throw rfl
  · exact .throw rfl

end Handle

namespace Supply

variable {β : Type} {f : β → Value → Binding (Progress β)}

theorem consults_proceed {p : Function → Prop} {rest : β → Binding β} (h : ∀ b, Consults p (rest b))
    (r : Progress β) : Consults p (proceed rest r) := by
  cases r with
  | more b => exact h b
  | enough b => exact .pure b

theorem discreet_fold (hf : ∀ b x, Discreet (f b x)) (s : Supply) (b : β) :
    Discreet (s.fold f b) := by
  cases s with
  | items xs =>
    show Discreet (foldItems f xs b)
    induction xs generalizing b with
    | nil => exact .pure b
    | cons x r ih => exact (hf b x).bind (consults_proceed ih)
  | once id =>
    refine Consults.now.bind fun w => ?_
    induction w.supply id generalizing b with
    | nil => exact .pure b
    | cons x r ih =>
      exact (Consults.update _ _ fun _ => by rfl).bind fun _ => (hf b x).bind (consults_proceed ih)
  | array h =>
    refine h.discreet_size.bind fun n => ?_
    induction List.range n generalizing b with
    | nil => exact .pure b
    | cons i r ih =>
      exact (h.discreet_item (.int i)).bind fun x => (hf b x).bind (consults_proceed ih)
  | chunks c =>
    show Discreet (foldChunks f c (Nat.pow 2 32) 0 b)
    generalize Nat.pow 2 32 = most, 0 = i
    induction most generalizing i b with
    | zero => exact .pure b
    | succ most ih =>
      exact c.discreet_size.bind fun _ => .ite (.pure b)
        ((c.discreet_itemAt i).bind fun x => (hf b x).bind (consults_proceed fun b => ih b (i + 1)))

end Supply

namespace Value

theorem solitary_supply (v : Value) : Solitary v.supply := by
  unfold supply
  split
  · split
    · exact (CodeCompleteResults.solitary_results _).map
    · exact .pure _
    · exact .pure _
    · exact .pure _
    · exact .pure _
    · exact .throw rfl
  · exact .pure _
  · exact .pure _
  · split
    · exact .pure _
    · exact .throw rfl

theorem discreet_holds (v : Value) : Discreet v.holds := by
  unfold holds
  split
  · exact .ite (Handle.discreet_size _ |>.bind fun _ => .pure _) (.pure _)
  · exact .pure _

theorem discreet_elements (v : Value) : Discreet v.elements := by
  refine v.solitary_supply.of_solitary.bind fun s => .bind ?_ fun _ =>
    (Supply.discreet_fold (fun _ _ => .pure _) s []).bind fun _ => .pure _
  unfold hintSize
  split
  · exact .ite ((Handle.discreet_size _).bind fun _ => .pure _) (.pure _)
  · exact .pure _

end Value

namespace Marshal

theorem discreet_argv (arguments : Value) : Discreet (argv arguments) := by
  refine arguments.discreet_holds.bind fun _ => .ite ?_ (.pure _)
  refine arguments.solitary_supply.of_solitary.bind fun s => .bind ?_ fun _ => .pure _
  exact s.discreet_fold
    (fun _ _ => (Consults.lift fun _ => Value.plain_of_toBytes).bind fun _ => .pure _) []

theorem solitary_readContents (v : Value) : Solitary (readContents v) := by
  unfold readContents
  split
  · exact .keeping _ _ fun _ => rfl
  · exact .pure _
  · exact .pure _

theorem discreet_asPair (v : Value) : Discreet (asPair v) := by
  refine v.solitary_supply.of_solitary.bind fun s =>
    (s.discreet_fold (fun _ _ => .pure _) []).bind fun _ => ?_
  split
  · exact .pure _
  · exact .throw rfl

namespace UnsavedFile

theorem solitary_ofPair (name contents : Value) : Solitary (ofPair name contents) :=
  (solitary_readContents contents).bind fun _ =>
    (Consults.lift fun _ => Value.plain_of_toBytes).bind fun _ =>
    (Consults.lift fun _ => Value.plain_of_toBytes).bind fun _ => .pure _

theorem discreet_ofItem (item : Value) : Discreet (ofItem item) :=
  (discreet_asPair item).bind fun _ => (solitary_ofPair _ _).of_solitary

theorem discreet_ofValue (files : Value) : Discreet (ofValue files) := by
  unfold ofValue
  split
  · exact .pure _
  · exact .pure _
  · exact .mapM fun _ _ => (solitary_ofPair _ _).of_solitary
  · exact files.discreet_elements.bind fun _ => .mapM fun _ _ => discreet_ofItem _

end UnsavedFile

end Marshal

end ClangIndex
