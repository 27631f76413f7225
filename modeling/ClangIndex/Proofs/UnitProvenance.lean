import ClangIndex.Proofs.RememberedUnits

/-!
Where cursors and types come from: chains of operations that start at a unit, or at a cursor of no
unit. Every link of a chain remembers the unit at its start.
-/

namespace ClangIndex

open Native (Function Side)

namespace Value

/-- Whether what a value has under a name is a way to cursors and types. All names of cursors and
types count. -/
def leads (name : String) : Value → Prop
  | .handle h =>
    h.cls = .translationUnit ∧ name ∈ Handle.unitLeads ∨ h.cls = .tokens ∧ name = "annotate"
  | x => x.isCursorOrType

inductive Offers (x : Value) : Binding Value → Prop
  | property {name m} (leads : x.leads name)
      (e : lookup name (Interface.attributes x) = some (.property m)) : Offers x m
  | method {name k} (leads : x.leads name)
      (e : lookup name (Interface.attributes x) = some (.method k)) (arguments : List Value)
      (named : List (String × Value)) :
      Offers x (Routine.apply k.parameters k.action arguments named)
  | item (i : Value) : Offers x (x.item i)
  | elements : Offers x (Value.list <$> x.elements)

/-- A link of a chain that started at this unit, or at no unit. -/
structure Belongs (u : Option Handle) (w : World) (x : Value) : Prop where
  whole : ∀ t ∈ u, t.cls = .translationUnit
  leads : x.isLink = true ∨ ∃ t, x = .handle t ∧ t.cls = .translationUnit
  remembers : x.Remembers u w

variable {u : Option Handle} {side : Side} {v w : World} {x r : Value} {m : Binding Value}

theorem gives_of_offers
    (attributes : ∀ {name a}, x.leads name → lookup name (Interface.attributes x) = some a →
      a.Gives u)
    (item : ∀ i, (x.item i).Gives u) (elements : (Value.list <$> x.elements).Gives u)
    (offers : x.Offers m) : m.Gives u := by
  cases offers with
  | property leads e => exact attributes leads e
  | method leads e arguments named =>
    exact Routine.apply_of_all (fun e => .throw e) (attributes leads e) arguments named
  | item i => exact item i
  | elements => exact elements

theorem gives_of_cursor {c : Cursor} {id : Identity}
    (whole : ∀ t ∈ c.unit, t.cls = .translationUnit)
    (offers : (Value.object (.cursor c) id).Offers m) : m.Gives c.unit :=
  gives_of_offers (fun _ e => Interface.gives_ofCursor whole _ (mem_of_lookup e))
    (fun _ => .throw _) (.throw _) offers

theorem gives_of_type {t : TypeRef} {id : Identity}
    (whole : ∀ u ∈ t.unit, u.cls = .translationUnit)
    (offers : (Value.object (.type t) id).Offers m) : m.Gives t.unit :=
  gives_of_offers (fun _ e => Interface.gives_ofType whole _ (mem_of_lookup e))
    (fun _ => .throw _) (.throw _) offers

theorem gives_of_unit {t : Handle} (unit : t.cls = .translationUnit)
    (offers : (Value.handle t).Offers m) : m.Gives (some t) := by
  refine gives_of_offers (fun leads e => ?_) (fun i => ?_) ?_ offers
  · obtain ⟨-, lead⟩ | ⟨other, -⟩ := leads
    · exact Handle.gives_ofUnit unit lead e
    · simp [unit] at other
  · simp only [item, Handle.item, unit]
    exact .throw _
  · simp only [elements, supply, unit]
    exact .throw _

theorem handsOn_of_array {h : Handle} (link : h.cls = .tokens ∨ h.cls = .overriddenCursors)
    (remembers : (Value.handle h).Remembers u w) (offers : (Value.handle h).Offers m)
    (e : m.exec side w = (.ok r, v)) : r.HandsOn u v := by
  have annotated {name : String} {a : Attribute} (leads : (Value.handle h).leads name)
      (found : lookup name (Interface.attributes (.handle h)) = some a) :
      h.cls = .tokens ∧ some a = some (.method0 (Value.list <$> Tokens.annotate h)) := by
    obtain ⟨unit, -⟩ | ⟨cls, rfl⟩ := leads
    · simp [unit] at link
    · have attributes : Interface.attributes (.handle h) =
          Interface.ofAnyHandle h ++ Interface.ofTokens h := by
        simp only [Interface.attributes, Interface.ofHandle, cls]
      rw [attributes] at found
      exact ⟨cls, found.symm⟩
  cases offers with
  | property leads found => cases (annotated leads found).2
  | method leads found arguments named =>
    obtain ⟨cls, same⟩ := annotated leads found
    cases same
    cases arguments with
    | cons => cases e
    | nil =>
      cases named with
      | cons => cases e
      | nil => exact Handle.handsOn_of_annotate cls remembers e
  | item i => exact (Handle.handsOn_of_item link remembers e).2
  | elements => exact Handle.handsOn_of_elements link remembers e

theorem handsOn_of_offers (b : x.Belongs u w) (offers : x.Offers m)
    (e : m.exec side w = (.ok r, v)) : r.HandsOn u v := by
  obtain ⟨whole, leads, remembers⟩ := b
  cases x with
  | object o id =>
    obtain link | ⟨t, is, -⟩ := leads
    · cases o with
      | cursor c =>
        obtain rfl : c.unit = u := remembers
        exact gives_of_cursor whole offers side w r v e
      | type t =>
        obtain rfl : t.unit = u := remembers
        exact gives_of_type whole offers side w r v e
      | _ => cases link
    · cases is
  | handle h =>
    by_cases array : h.cls = .tokens ∨ h.cls = .overriddenCursors
    · exact handsOn_of_array array remembers offers e
    · obtain link | ⟨t, is, unit⟩ := leads
      · exact absurd (by simpa [isLink] using link) array
      · cases is
        obtain ⟨-, rfl⟩ := remembers.resolve_right fun other => other.1 unit
        exact gives_of_unit unit offers side w r v e
  | _ =>
    obtain link | ⟨t, is, -⟩ := leads
    · cases link
    · cases is

end Value

namespace Cursor

variable {c d child parent : Cursor}

theorem visit_congr {f g : Visitor Cursor}
    (same : ∀ s p, f ⟨s, c.unit⟩ ⟨p, c.unit⟩ = g ⟨s, c.unit⟩ ⟨p, c.unit⟩) :
    c.visit f = c.visit g := by
  simp only [visit, same]

theorem findReferences_congr {file : Value} {f g : Visitor Symbol}
    (same : ∀ s range, f ⟨s, c.unit⟩ range = g ⟨s, c.unit⟩ range) :
    c.findReferences file f = c.findReferences file g := by
  simp only [findReferences, same]

/-- Some visitor is told these two: what it does about them makes a difference to the visit. -/
def Tells (c : Cursor) (side : Side) (w : World) (child parent : Cursor) : Prop :=
  ∃ f g : Visitor Cursor, (∀ a b, (a, b) ≠ (child, parent) → f a b = g a b) ∧
    (c.visit f).exec side w ≠ (c.visit g).exec side w

def TellsReference (c : Cursor) (side : Side) (w : World) (reference : Cursor) : Prop :=
  ∃ (file : Value) (f g : Visitor Symbol), (∀ a range, a ≠ reference → f a range = g a range) ∧
    (c.findReferences file f).exec side w ≠ (c.findReferences file g).exec side w

variable {side : Side} {w : World}

theorem unit_of_tells (h : c.Tells side w child parent) :
    child.unit = c.unit ∧ parent.unit = c.unit := by
  obtain ⟨f, g, apart, differ⟩ := h
  refine Classical.byContradiction fun other => differ ?_
  rw [visit_congr fun s p => apart _ _ fun same => other ?_]
  cases same
  exact ⟨rfl, rfl⟩

theorem unit_of_tellsReference (h : c.TellsReference side w d) : d.unit = c.unit := by
  obtain ⟨file, f, g, apart, differ⟩ := h
  refine Classical.byContradiction fun other => differ ?_
  rw [findReferences_congr fun s range => apart _ _ fun same => other ?_]
  cases same
  rfl

end Cursor

/-- The links of the chains that start at a unit, or at the null cursor, up to a state. Each one
comes of an operation on the link before it, or is told to a visitor of that. An object that callers
give another unit themselves is no longer the same link. -/
inductive Derived (side : Side) : Option Handle → World → Value → Prop
  | unit {t w} (cls : t.cls = .translationUnit) : Derived side (some t) w (.handle t)
  | null {w r v} (e : (Function.getNullCursor.ask []).exec side w = (.ok r, v)) :
      Derived side none v r
  | later {u w v x} (h : Derived side u w x) (k : w.Evolves v) : Derived side u v x
  | kept {u w o id} (h : Derived side u w (.object o id)) (other : Identity) :
      Derived side u w (.object o other)
  | step {u w v x m r y} (h : Derived side u w x) (offers : x.Offers m)
      (e : m.exec side w = (.ok r, v)) (part : y ∈ r.parts) (link : y.isLink = true) :
      Derived side u v y
  | child {u w c id child parent} (h : Derived side u w (.object (.cursor c) id))
      (told : c.Tells side w child parent) : Derived side u w (.cursor child)
  | parent {u w c id child parent} (h : Derived side u w (.object (.cursor c) id))
      (told : c.Tells side w child parent) : Derived side u w (.cursor parent)
  | reference {u w c id d} (h : Derived side u w (.object (.cursor c) id))
      (told : c.TellsReference side w d) : Derived side u w (.cursor d)

namespace Derived

variable {side : Side} {u : Option Handle} {v w : World} {x : Value} {t : Handle}

theorem belongs (h : Derived side u w x) : x.Belongs u w := by
  induction h with
  | unit cls =>
    exact ⟨fun t is => Option.some.inj is ▸ cls, .inr ⟨_, rfl, cls⟩, .inl ⟨cls, rfl⟩⟩
  | null e =>
    obtain ⟨x, w', called, e⟩ := Binding.exec_bind_cases e
    obtain ⟨answer, w'', -, called⟩ := Binding.exec_bind_cases called
    cases called
    cases e
    exact ⟨nofun, .inl rfl, rfl⟩
  | later h k ih => exact ⟨ih.whole, ih.leads, ih.remembers.evolves k⟩
  | @kept u w o id h other ih =>
    obtain ⟨whole, leads, remembers⟩ := ih
    have link := leads.resolve_right fun ⟨_, is, _⟩ => nomatch is
    cases o with
    | cursor | type => exact ⟨whole, .inl rfl, remembers⟩
    | _ => cases link
  | step h offers e part link ih =>
    exact ⟨ih.whole, .inl link, Value.handsOn_of_offers ih offers e _ part link⟩
  | child h told ih =>
    exact ⟨ih.whole, .inl rfl, (Cursor.unit_of_tells told).1.trans ih.remembers⟩
  | parent h told ih =>
    exact ⟨ih.whole, .inl rfl, (Cursor.unit_of_tells told).2.trans ih.remembers⟩
  | reference h told ih =>
    exact ⟨ih.whole, .inl rfl, (Cursor.unit_of_tellsReference told).trans ih.remembers⟩

theorem exec_translationUnit (h : Derived side (some t) w x) (is : x.isCursorOrType = true) :
    (x.read "translation_unit").exec side v = (.ok (.handle t), v) := by
  have own := h.belongs.remembers
  cases x with
  | object o id =>
    cases o with
    | cursor c =>
      have own : c.unit = some t := own
      rw [Value.read_of_property (m := c.translationUnit) rfl, Cursor.translationUnit, own]
      rfl
    | type y =>
      have own : y.unit = some t := own
      rw [Value.read_of_property (m := pure ((y.unit.map Value.handle).getD .none)) rfl, own]
      rfl
    | _ => cases is
  | _ => cases is

theorem unit?_of_none (h : Derived side none w x) (is : x.isCursorOrType = true) :
    x.unit? = none := by
  have own := h.belongs.remembers
  cases x with
  | object => exact own
  | _ => cases is

end Derived

/-- Every cursor and every type that is derived from a unit answers with that unit, in every state
and with no call; one that is derived from none remembers none. What is derived stays so in the
later states of a session. -/
theorem derived_remembers_unit (side : Side) :
    (∀ t w x, Derived side (some t) w x → x.isCursorOrType = true →
      ∀ v, (x.read "translation_unit").exec side v = (.ok (.handle t), v)) ∧
    (∀ w x, Derived side none w x → x.isCursorOrType = true → x.unit? = none) ∧
    ∀ steps, (Session.states side steps).Pairwise fun w v =>
      ∀ u x, Derived side u w x → Derived side u v x :=
  ⟨fun _ _ _ h is _ => h.exec_translationUnit is, fun _ _ h is => h.unit?_of_none is,
    fun steps => (Session.pairwise_states side steps).imp fun k _ _ h => h.later k⟩

def oneChild : Side where
  children := fun s => if s = "root" then ["member"] else []
  answer _ c := match c.function with
    | .getTranslationUnitCursor => { result := .struct "root" }
    | .getCursorType => { result := .struct "int" }
    | _ => {}

def oneUnit : World :=
  ((Handle.create .translationUnit (.handle (some "unit")) (.unit .none true)).exec oneChild {}).2

def stoppingAt (child parent : Cursor) : Visitor Cursor := fun a b =>
  return .int (if (a, b) = (child, parent) then 0 else 1)

theorem derived_remembers_unit_member :
    (∀ v, ((Value.type ⟨"int", some ⟨.translationUnit, 0⟩⟩).read "translation_unit").exec oneChild
        v = (.ok (.handle ⟨.translationUnit, 0⟩), v)) ∧
      (Value.cursor ⟨zeroSymbol, none⟩).unit? = none := by
  let t : Handle := ⟨.translationUnit, 0⟩
  let root : Cursor := ⟨"root", some t⟩
  let member : Cursor := ⟨"member", some t⟩
  let asked := (Function.getTranslationUnitCursor.ask [.handle t]).exec oneChild oneUnit
  have all := derived_remembers_unit oneChild
  have leads : (Value.handle t).leads "cursor" := .inl ⟨rfl, by decide⟩
  have unit : Derived oneChild (some t) oneUnit (.handle t) := .unit rfl
  have first : Derived oneChild (some t) asked.2 (.cursor root) :=
    unit.step (.property leads rfl) rfl (Value.mem_parts_of_isLink rfl) rfl
  have told : root.Tells oneChild asked.2 member root := by
    refine ⟨stoppingAt member root, fun _ _ => return .int 1, fun a b other => ?_, fun same => ?_⟩
    · rw [stoppingAt, if_neg other]
    · exact absurd (congrArg (·.1.toOption) same) (by decide +kernel)
  have leads : (Value.cursor member).leads "type" := rfl
  have type : Derived oneChild (some t) _ (.type ⟨"int", some t⟩) :=
    (first.child told).step (.property leads rfl) rfl (Value.mem_parts_of_isLink rfl) rfl
  have null : Derived oneChild none _ (.cursor ⟨zeroSymbol, none⟩) := .null (w := oneUnit) rfl
  exact ⟨all.1 t _ _ type rfl, all.2.1 _ _ null rfl⟩

end ClangIndex
