import ClangIndex.Interface.Objects
import ClangIndex.Proofs.OwnedDiagnostics
import ClangIndex.Proofs.Traversals

namespace ClangIndex

open Native (CType Function HandleClass Side)
open Interface (ofCursor ofType)

namespace Value

def parts : Value → List Value
  | .list xs => xs
  | v => [v]

def isCursorOrType : Value → Bool
  | .object (.cursor _) _ | .object (.type _) _ => true
  | _ => false

/-- What leads on to cursors and types: these themselves, and arrays of cursors or tokens. -/
def isLink : Value → Bool
  | .handle h => h.cls = .tokens ∨ h.cls = .overriddenCursors
  | v => v.isCursorOrType

theorem mem_parts_of_isLink {x : Value} (link : x.isLink = true) : x ∈ x.parts := by
  cases x with
  | list => cases link
  | _ => exact List.mem_singleton.mpr rfl

/-- The unit that a value remembers is this one, or none. A unit counts as its own. -/
def Remembers (u : Option Handle) (w : World) : Value → Prop
  | .handle h =>
    h.cls = .translationUnit ∧ u = some h ∨
      h.cls ≠ .translationUnit ∧ ∃ s, w.accounts.standing? h = some s ∧ s.unit? = u
  | v => v.unit? = u

/-- All links among the parts of a result remember this unit. -/
def HandsOn (u : Option Handle) (w : World) (r : Value) : Prop :=
  ∀ x ∈ r.parts, x.isLink = true → x.Remembers u w

variable {u : Option Handle} {v w : World} {x r : Value}

theorem Remembers.evolves (h : x.Remembers u w) (k : w.Evolves v) : x.Remembers u v := by
  cases x with
  | handle o =>
    refine Or.imp_right (fun ⟨other, s, stands, same⟩ => ?_) h
    obtain ⟨t, still, -, -, kept, -⟩ := Evolution.standing k stands
    exact ⟨other, t, still, kept.trans same⟩
  | _ => exact h

theorem handsOn_of_no_link (h : ∀ x ∈ r.parts, x.isLink = false) : r.HandsOn u w :=
  fun x mem link => absurd link (by simp [h x mem])

theorem handsOn_single (h : r.isLink = false) (alone : r.parts = [r]) : r.HandsOn u w :=
  handsOn_of_no_link (by rw [alone]; exact List.forall_mem_singleton.mpr h)

end Value

namespace Binding

/-- An operation that hands on a unit to what it gives. -/
def Gives (u : Option Handle) (m : Binding Value) : Prop :=
  ∀ side w r v, m.exec side w = (.ok r, v) → r.HandsOn u v

namespace Gives

variable {α : Type} {u : Option Handle}

theorem pure {r : Value} (h : ∀ w, r.HandsOn u w) : Gives u (pure r) := by
  intro side w r v e
  cases e
  exact h w

theorem throw (e : Failure) : Gives u (throw e) := fun _ _ _ _ e => nomatch e

theorem bind {m : Binding α} {g : α → Binding Value} (h : ∀ a, Gives u (g a)) :
    Gives u (m >>= g) := by
  intro side w r v e
  obtain ⟨a, u, -, e⟩ := exec_bind_cases e
  exact h a side u r v e

theorem map {m : Binding α} {g : α → Value} (h : ∀ a w, (g a).HandsOn u w) : Gives u (g <$> m) :=
  bind fun a => pure (h a)

end Gives

end Binding

theorem CodeCompleteResults.cls_of_ofAnswer {answer : Native.Answer} {unit : Option Handle}
    {side : Side} {v w : World} {h : Handle}
    (e : (ofAnswer answer unit).exec side w = (.ok h, v)) : h.cls = .codeCompleteResults := by
  unfold ofAnswer at e
  split at e <;> (cases e; rfl)

namespace Native.Function

variable {f : Function} {actuals : List Actual} {keeps : f.releases = false} {side : Side}
  {u : Option Handle} {v w : World} {self r : Value} {vs : List Value}

theorem unit?_of_argument {x : Value} {a : Native.Argument}
    (e : x.argument? w .uint32 = some a) : x.unit? = none := by
  cases x with
  | object o id => cases o <;> cases e
  | handle h => cases e
  | _ => rfl

theorem unitAmong_of_convert {ts : List CType} {arguments : List Native.Argument}
    (e : Actual.convert w ts (vs.map .value) = some arguments) (numbers : ∀ t ∈ ts, t = .uint32) :
    unitAmong (vs.map .value) = none := by
  induction vs generalizing ts arguments with
  | nil => rfl
  | cons x r ih =>
    cases ts with
    | nil => cases e
    | cons t ts =>
      obtain ⟨a, first, e⟩ := Option.bind_eq_some_iff.mp e
      obtain ⟨as, others, -⟩ := Option.bind_eq_some_iff.mp e
      obtain rfl := numbers t List.mem_cons_self
      have none := ih others fun t mem => numbers t (List.mem_cons_of_mem _ mem)
      change (x.unit? <|> unitAmong (r.map .value)) = _
      rw [unit?_of_argument first, none]
      rfl

theorem handsOn_of_wrap? {c : HandleClass} {h : Option Symbol} {fits : Role.plain.fits c = true}
    (e : (wrap? c h fits).exec side w = (.ok r, v)) : r.HandsOn u v := by
  cases h with
  | none =>
    cases e
    exact Value.handsOn_single rfl rfl
  | some s =>
    cases e
    -- What is wrapped in this way has no other role than to be held.
    refine Value.handsOn_single ?_ rfl
    cases c <;> first | rfl | cases fits

theorem result_of_unchecked (f : Function) : f.signature.check = none →
    f.signature.result ≠ some (.struct .cursor) ∧ f.signature.result ≠ some (.struct .type) := by
  cases f <;> decide

theorem handsOn_unchecked {answer : Native.Answer} {call : Native.Call} {t : Option CType}
    (other : t ≠ some (.struct .cursor) ∧ t ≠ some (.struct .type)) :
    (unchecked answer call t).HandsOn u v := by
  unfold unchecked
  split
  case h_2 => exact absurd rfl other.1
  case h_3 => exact absurd rfl other.2
  all_goals exact Value.handsOn_single rfl rfl

theorem handsOn_of_call (e : (f.call actuals keeps).exec side w = (.ok r, v)) :
    (∃ arguments, Actual.convert w f.inputs actuals = some arguments) ∧
      r.HandsOn (unitAmong actuals) v := by
  obtain ⟨⟨call, answer⟩, w', invoked, e⟩ := Binding.exec_bind_cases e
  refine ⟨converted_of_invoke invoked, ?_⟩
  dsimp only at e
  split at e
  case h_4 | h_5 =>
    cases e
    exact List.forall_mem_singleton.mpr fun _ => rfl
  case h_2 =>
    cases e
    cases answer.text <;> exact Value.handsOn_single rfl rfl
  case h_6 | h_7 => exact handsOn_of_wrap? e
  case h_11 plain =>
    cases e
    exact handsOn_unchecked (f.result_of_unchecked plain)
  case h_3 =>
    cases e
    exact Value.handsOn_single rfl rfl
  case h_1 =>
    obtain ⟨s, _, -, e⟩ := Binding.exec_bind_cases e
    cases e
    exact Value.handsOn_single rfl rfl
  case h_8 | h_9 =>
    cases e
    exact Value.handsOn_single rfl rfl
  case h_10 =>
    obtain ⟨h, _, made, e⟩ := Binding.exec_bind_cases e
    cases e
    refine Value.handsOn_single ?_ rfl
    rw [Value.isLink, CodeCompleteResults.cls_of_ofAnswer made]
    rfl

theorem handsOn_of_apply {reading : Reading} {x : Value} (h : x.HandsOn u w)
    (e : (reading.apply x).exec side w = (.ok r, v)) : r.HandsOn u v := by
  unfold Reading.apply at e
  split at e
  case h_2 =>
    obtain ⟨m, _, -, e⟩ := Binding.exec_bind_cases e
    cases e
    exact Value.handsOn_single rfl rfl
  case h_4 =>
    cases e
    exact h
  all_goals
    cases e
    exact Value.handsOn_single rfl rfl

theorem gives_call (self : Value) (vs : List Value)
    (others : self.unit? ≠ none ∨ vs = [] ∨ ∀ t ∈ f.inputs.tail, t = .uint32) :
    (f.call ((self :: vs).map .value) keeps).Gives self.unit? := by
  intro side w r v e
  obtain ⟨⟨arguments, converted⟩, given⟩ := handsOn_of_call e
  have first : unitAmong ((self :: vs).map .value) = self.unit? := by
    change (self.unit? <|> unitAmong (vs.map .value)) = _
    cases own : self.unit? with
    | some t => rfl
    | none =>
      obtain rfl | numbers := others.resolve_left fun ne => ne own
      · rfl
      · cases inputs : f.inputs with
        | nil => rw [inputs] at converted; cases converted
        | cons t ts =>
          rw [inputs] at converted numbers
          obtain ⟨a, -, e⟩ := Option.bind_eq_some_iff.mp converted
          obtain ⟨as, rest, -⟩ := Option.bind_eq_some_iff.mp e
          exact unitAmong_of_convert rest numbers
  exact first ▸ given

theorem gives_ask (self : Value) (vs : List Value)
    (others : self.unit? ≠ none ∨ vs = [] ∨ ∀ t ∈ f.inputs.tail, t = .uint32)
    (reading : Reading) : (f.ask (self :: vs) reading keeps).Gives self.unit? := by
  intro side w r v e
  obtain ⟨x, w', called, applied⟩ := Binding.exec_bind_cases e
  exact handsOn_of_apply (gives_call self vs others side w x w' called) applied

end Native.Function

namespace Routine

def All (p : Binding Value → Prop) : (ps : List Parameter) → Routine ps → Prop
  | [], m => p m
  | _ :: ps, f => ∀ v, All p ps (f v)

variable {p : Binding Value → Prop} {ps : List Parameter}

theorem all_ofList {f : List Value → Binding Value} (h : ∀ vs, p (f vs)) :
    All p ps (ofList ps f) := by
  induction ps generalizing f with
  | nil => exact h []
  | cons q r ih => exact fun v => ih fun vs => h (v :: vs)

theorem apply_left_out (q : Parameter) (f : Routine (q :: ps)) (named : List (String × Value)) :
    apply (q :: ps) f [] named = match lookup q.name named, q.default? with
      | some v, _ => apply ps (f v) [] (named.filter fun e => e.1 != q.name)
      | none, some v => apply ps (f v) [] named
      | none, none => throw Failure.typeError := rfl

theorem apply_of_all (fails : ∀ e, p (throw e)) {f : Routine ps} (h : All p ps f)
    (arguments : List Value) (named : List (String × Value)) : p (apply ps f arguments named) := by
  induction ps generalizing arguments named with
  | nil =>
    cases arguments with
    | nil =>
      cases named with
      | nil => exact h
      | cons => exact fails _
    | cons => exact fails _
  | cons q r ih =>
    cases arguments with
    | cons v vs =>
      change p (if isNamed q.name named then throw Failure.typeError else apply r (f v) vs named)
      by_cases twice : isNamed q.name named = true
      · rw [if_pos twice]
        exact fails _
      · rw [if_neg twice]
        exact ih (h v) vs named
    | nil =>
      rw [apply_left_out]
      cases lookup q.name named with
      | some v => exact ih (h v) [] _
      | none =>
        cases q.default? with
        | some v => exact ih (h v) [] named
        | none => exact fails _

end Routine

namespace Attribute

def Gives (u : Option Handle) : Attribute → Prop
  | .property m => m.Gives u
  | .method k => Routine.All (·.Gives u) k.parameters k.action
  | .field .. | .function .. => True

variable {f : Function} {self : Value} {u : Option Handle} {reading : Reading}
  {keeps : f.releases = false}

theorem gives_asks (own : self.unit? = u) : (asks f self reading keeps).Gives u :=
  own ▸ Function.gives_ask self [] (.inr (.inl rfl)) reading

theorem gives_asksWith {names : List String} (own : self.unit? = u)
    (others : self.unit? ≠ none ∨ ∀ t ∈ f.inputs.tail, t = .uint32) :
    (asksWith names f self reading keeps).Gives u :=
  own ▸ Routine.all_ofList fun vs =>
    Function.gives_ask self vs (others.imp_right .inr) reading

end Attribute

namespace Binding

variable {α β : Type} {side : Side} {v w : World}

theorem exec_mapM_mem {g : α → Binding β} {xs : List α} {ys : List β} {y : β}
    (e : (xs.mapM g).exec side w = (.ok ys, v)) (mem : y ∈ ys) :
    ∃ x ∈ xs, ∃ w' v', (g x).exec side w' = (.ok y, v') ∧ v'.Evolves v := by
  induction xs generalizing w ys with
  | nil =>
    cases e
    cases mem
  | cons x r ih =>
    rw [List.mapM_cons] at e
    obtain ⟨b, u, first, e⟩ := exec_bind_cases e
    obtain ⟨bs, u', others, e⟩ := exec_bind_cases e
    cases e
    obtain rfl | mem := List.mem_cons.mp mem
    · exact ⟨x, List.mem_cons_self, w, u, first, .of_result others⟩
    · obtain ⟨x', among, rest⟩ := ih others mem
      exact ⟨x', List.mem_cons_of_mem x among, rest⟩

theorem Gives.list {u : Option Handle} {g : α → Binding Value} {xs : List α}
    (h : ∀ a, (g a).Gives u) : Gives u (Value.list <$> xs.mapM g) := by
  intro side w r v e
  obtain ⟨ys, v', made, e⟩ := exec_bind_cases e
  cases e
  intro y mem link
  obtain ⟨a, -, w', u', given, later⟩ := exec_mapM_mem made mem
  exact (h a side w' y u' given y (Value.mem_parts_of_isLink link) link).evolves later

end Binding

namespace Cursor

variable {c : Cursor} {side : Side} {v w : World} {cs : List Cursor}

def Filled (u : Option Handle) (list : Nat) (w : World) : Prop :=
  ∀ x ∈ w.supply list, ∀ d, ofValue? x = some d → d.unit = u

theorem Filled.of_supplies {u : Option Handle} {list : Nat} (h : Filled u list w)
    (same : v.supplies = w.supplies) : Filled u list v := by
  unfold Filled World.supply at *
  rwa [same]

theorem Filled.collect {u : Option Handle} {list : Nat} (h : Filled u list w)
    {child parent : Cursor} (own : child.unit = u) :
    Filled u list ((collect list child parent).exec side w).2 := by
  have appended : ((Cursor.collect list child parent).exec side w).2.supply list =
      ((w.supplies[list]?).map (· ++ [.cursor child])).getD [] := by
    change ((w.supplies.modify list (· ++ [.cursor child]))[list]?).getD [] = _
    rw [Array.getElem?_modify, if_pos rfl]
  intro x mem d is
  rw [appended] at mem
  cases there : w.supplies[list]? with
  | none => simp [there] at mem
  | some xs =>
    rw [there, Option.map_some, Option.getD_some] at mem
    obtain before | new := List.mem_append.mp mem
    · exact h x (by rwa [World.supply, there]) d is
    · obtain rfl := List.mem_singleton.mp new
      cases is
      exact own

theorem filled_of_visit (list : Nat) :
    (c.visit (collect list)).Within fun w v => Filled c.unit list w → Filled c.unit list v := by
  refine within_visit (R := fun w v => Filled c.unit list w → Filled c.unit list v) (fun _ => id)
    (fun h k => k ∘ h) (fun side w filled => ?_)
    (fun level logger message side w filled => filled.of_supplies rfl)
    (fun child parent side w filled => ?told)
  case told =>
    have collected : Filled c.unit list
        ((collect list ⟨child, c.unit⟩ ⟨parent, c.unit⟩).exec side w).2 := filled.collect rfl
    exact collected
  obtain ⟨x, refused⟩ | ⟨d, made, -⟩ :=
    Function.visitChildren.perform_cases none [.value (.cursor c)] side w
  · exact filled.of_supplies (congrArg (·.2.supplies) refused)
  · exact filled.of_supplies (congrArg (·.2.supplies) made)

theorem unit_of_children (e : c.children.exec side w = (.ok cs, v)) :
    ∀ d ∈ cs, d.unit = c.unit := by
  obtain ⟨list, w', started, e⟩ := Binding.exec_bind_cases e
  cases started
  obtain ⟨stopped, v', visited, e⟩ := Binding.exec_bind_cases e
  cases e
  have kept := filled_of_visit (c := c) w.supplies.size side
    { w with supplies := w.supplies.push [] }
  rw [visited] at kept
  have filled : Filled c.unit w.supplies.size v := kept fun x mem => by simp [World.supply] at mem
  intro d mem
  obtain ⟨x, among, is⟩ := List.mem_filterMap.mp mem
  exact filled x among d is

theorem unit_of_preorder {depth : Nat} (e : (preorder depth c).exec side w = (.ok cs, v)) :
    ∀ d ∈ cs, d.unit = c.unit := by
  induction depth generalizing c w v cs with
  | zero =>
    cases e
    exact List.forall_mem_singleton.mpr rfl
  | succ depth ih =>
    obtain ⟨children, w', listed, e⟩ := Binding.exec_bind_cases e
    obtain ⟨below, v', made, e⟩ := Binding.exec_bind_cases e
    cases e
    refine List.forall_mem_cons.mpr ⟨rfl, fun d mem => ?_⟩
    obtain ⟨ds, among, mem⟩ := List.mem_flatten.mp mem
    obtain ⟨child, isChild, w', v', walked, -⟩ := Binding.exec_mapM_mem made among
    exact (ih walked d mem).trans (unit_of_children listed child isChild)

end Cursor

theorem Handle.remembers_create {cls : Native.HandleClass} {held : Held} {role : Role}
    {fits : role.fits cls = true} {side : Side} {v w : World} {h : Handle}
    (other : cls ≠ .translationUnit)
    (e : (Handle.create cls held role fits).exec side w = (.ok h, v)) :
    (Value.handle h).Remembers role.unit? v := by
  cases e
  exact .inr ⟨other, _, by rw [World.standing?_accounts, World.handle?_of_push rfl]; rfl, rfl⟩

namespace Cursor

variable {c : Cursor}

theorem gives_translationUnit (whole : ∀ t ∈ c.unit, t.cls = .translationUnit) :
    c.translationUnit.Gives c.unit := by
  intro side w r v e
  unfold translationUnit at e
  split at e
  · rename_i t own
    cases e
    refine Value.handsOn_single ?_ rfl
    simp [Value.isLink, whole t own]
  · obtain ⟨s, u, -, e⟩ := Binding.exec_bind_cases e
    split at e <;> (cases e; exact Value.handsOn_single rfl rfl)

theorem gives_overriddenCursors : (Value.handle <$> c.overriddenCursors).Gives c.unit := by
  intro side w r v e
  obtain ⟨h, u, e, made⟩ := Binding.exec_bind_cases e
  cases made
  obtain ⟨answer, u', -, e⟩ := Binding.exec_bind_cases e
  exact List.forall_mem_singleton.mpr fun _ => Handle.remembers_create (by decide) e

theorem gives_arguments : c.arguments.Gives c.unit :=
  .bind fun _ => .list fun i =>
    Function.gives_call (.cursor c) [.int i] (.inr (.inr (by decide)))

theorem gives_referenceNameRange (flags piece : Value) :
    (c.referenceNameRange flags piece).Gives c.unit :=
  .bind fun n =>
    Function.gives_call (.cursor c) [.int n, piece] (.inr (.inr (by decide)))

theorem gives_children : (Binding.Gives c.unit do return .list ((← c.children).map .cursor)) := by
  intro side w r v e
  obtain ⟨cs, u, listed, e⟩ := Binding.exec_bind_cases e
  cases e
  refine List.forall_mem_map.mpr fun d mem _ => unit_of_children listed d mem

theorem gives_walk {id : Identity} :
    (Binding.Gives c.unit do
      return .list (.object (.cursor c) id :: ((← c.walk).drop 1).map .cursor)) := by
  intro side w r v e
  obtain ⟨cs, u, walked, e⟩ := Binding.exec_bind_cases e
  cases e
  obtain ⟨side', u', asked, walked⟩ := Binding.exec_bind_cases walked
  refine List.forall_mem_cons.mpr ⟨fun _ => rfl, List.forall_mem_map.mpr fun d mem _ => ?_⟩
  exact unit_of_preorder walked d (List.mem_of_mem_drop mem)

end Cursor

theorem TypeRef.gives_argumentTypes {t : TypeRef} : t.argumentTypes.Gives t.unit :=
  .bind fun _ => .list fun i =>
    Function.gives_call (.type t) [.int i] (.inr (.inr (by decide)))

namespace Layout

variable {u : Option Handle}

theorem gives_check {n : Int} : (check n).Gives u := by
  unfold check
  split
  · exact .bind fun _ => .bind fun _ => .throw _
  · exact .pure fun _ => Value.handsOn_single rfl rfl

theorem gives_offsetOfField {c : Cursor} : (offsetOfField c).Gives u := by
  refine .bind fun n => ?_
  split
  · exact .bind fun _ => .throw _
  · exact .pure fun _ => Value.handsOn_single rfl rfl

end Layout

namespace Interface

open Attribute

variable {c : Cursor} {t : TypeRef} {id : Identity} {u : Option Handle}

theorem gives_form {α : Type} {m : Binding α} {form : α → Value}
    (h : ∀ a, (form a).isLink = false) (alone : ∀ a, (form a).parts = [form a]) :
    (form <$> m).Gives u :=
  .map fun a _ => Value.handsOn_single (h a) (alone a)

theorem gives_ofCursor (whole : ∀ t ∈ c.unit, t.cls = .translationUnit) :
    ∀ e ∈ ofCursor (.object (.cursor c) id) c, e.2.Gives c.unit := by
  -- In the order of the attributes. Most ask one function, the others have a lemma of their own.
  refine List.forall_mem_cons.mpr ⟨gives_form (fun _ => rfl) fun _ => rfl, ?_⟩
  repeat refine List.forall_mem_cons.mpr ⟨gives_asks rfl, ?_⟩
  refine List.forall_mem_cons.mpr ⟨Cursor.gives_translationUnit whole, ?_⟩
  repeat refine List.forall_mem_cons.mpr ⟨gives_asks rfl, ?_⟩
  refine List.forall_mem_cons.mpr ⟨trivial, List.forall_mem_cons.mpr ⟨trivial, ?_⟩⟩
  refine List.forall_mem_cons.mpr ⟨gives_asksWith rfl (.inr (by decide)), ?_⟩
  refine List.forall_mem_cons.mpr ⟨gives_form (fun _ => rfl) fun _ => rfl, ?_⟩
  refine List.forall_mem_cons.mpr ⟨Cursor.gives_overriddenCursors, ?_⟩
  refine List.forall_mem_cons.mpr ⟨gives_asksWith rfl (.inr (by decide)), ?_⟩
  refine List.forall_mem_cons.mpr ⟨Cursor.gives_arguments, ?_⟩
  refine List.forall_mem_cons.mpr ⟨gives_asksWith rfl (.inr (by decide)), ?_⟩
  refine List.forall_mem_cons.mpr ⟨fun _ => gives_form (fun _ => rfl) fun _ => rfl, ?_⟩
  refine List.forall_mem_cons.mpr ⟨Cursor.gives_children, ?_⟩
  refine List.forall_mem_cons.mpr ⟨Cursor.gives_walk, ?_⟩
  iterate 4 refine List.forall_mem_cons.mpr ⟨gives_asksWith rfl (.inr (by decide)), ?_⟩
  refine List.forall_mem_cons.mpr ⟨Cursor.gives_referenceNameRange, ?_⟩
  refine List.forall_mem_cons.mpr ⟨Layout.gives_offsetOfField, ?_⟩
  exact List.forall_mem_singleton.mpr fun _ _ => gives_form (fun _ => rfl) fun _ => rfl

theorem gives_ofType (whole : ∀ u ∈ t.unit, u.cls = .translationUnit) :
    ∀ e ∈ ofType t, e.2.Gives t.unit := by
  refine List.forall_mem_cons.mpr ⟨gives_form (fun _ => rfl) fun _ => rfl, ?_⟩
  refine List.forall_mem_cons.mpr ⟨.pure fun w => ?_, List.forall_mem_cons.mpr ⟨trivial, ?_⟩⟩
  · cases own : t.unit with
    | none => exact Value.handsOn_single rfl rfl
    | some u => exact Value.handsOn_single (by simp [Value.isLink, whole u own]) rfl
  repeat refine List.forall_mem_cons.mpr ⟨gives_asks rfl, ?_⟩
  refine List.forall_mem_cons.mpr ⟨gives_asksWith rfl (.inr (by decide)), ?_⟩
  refine List.forall_mem_cons.mpr ⟨TypeRef.gives_argumentTypes, ?_⟩
  iterate 2 refine List.forall_mem_cons.mpr ⟨gives_asks rfl, ?_⟩
  refine List.forall_mem_cons.mpr ⟨.bind fun _ => Layout.gives_check, ?_⟩
  refine List.forall_mem_cons.mpr ⟨.bind fun _ => Layout.gives_check, ?_⟩
  refine List.forall_mem_cons.mpr ⟨fun _ => .bind fun _ => Layout.gives_check, ?_⟩
  exact List.forall_mem_singleton.mpr (gives_form (fun _ => rfl) fun _ => rfl)

end Interface

namespace Handle

variable {h : Handle} {u : Option Handle} {side : Side} {v w : World} {x r : Value}

theorem unit?_of_remembers (remembers : (Value.handle h).Remembers u w)
    (other : h.cls ≠ .translationUnit) : (w.role h).unit? = u := by
  obtain ⟨-, s, stands, same⟩ := remembers.resolve_left fun unit => other unit.1
  rw [World.standing?_accounts] at stands
  obtain ⟨t, found, rfl⟩ := Option.map_eq_some_iff.mp stands
  rw [← same, World.role, found]
  rfl

theorem unit_of_contents (cls : h.cls = .overriddenCursors) :
    (OverriddenCursors.contents w h).1 = (w.role h).unit? := by
  cases role : w.role h with
  | tokens => cases cls.symm.trans (cls_of_role (c := .tokens) (w := w) (by rw [role]; rfl))
  | completions =>
    cases cls.symm.trans (cls_of_role (c := .codeCompleteResults) (w := w) (by rw [role]; rfl))
  | _ => simp [OverriddenCursors.contents, role, Role.unit?]

theorem unit_of_tokens {t : Handle} {n : Nat} {items : List Symbol}
    (e : Tokens.contents w h = some (t, n, items)) : (w.role h).unit? = some t := by
  unfold Tokens.contents at e
  split at e
  · rename_i role
    cases e
    rw [role]
    rfl
  · cases e

theorem handsOn_of_annotate (cls : h.cls = .tokens) (remembers : (Value.handle h).Remembers u w)
    (e : (Value.list <$> Tokens.annotate h).exec side w = (.ok r, v)) : r.HandsOn u v := by
  obtain ⟨xs, v', e, made⟩ := Binding.exec_bind_cases e
  cases made
  obtain ⟨count, w₁, sized, e⟩ := Binding.exec_bind_cases e
  split at e
  · cases e
    exact fun x mem => nomatch mem
  · obtain ⟨array, w₂, held, e⟩ := Binding.exec_bind_cases e
    obtain ⟨now, w₃, asked, e⟩ := Binding.exec_bind_cases e
    cases asked
    have later : w.Evolves w₂ := .trans (.of_result sized) (.of_result held)
    have own := unit?_of_remembers (remembers.evolves later) (by simp [cls])
    split at e
    · cases e
      exact fun x mem => nomatch mem
    · rename_i t n items kept
      obtain ⟨⟨call, answer⟩, w₄, -, e⟩ := Binding.exec_bind_cases e
      cases e
      refine List.forall_mem_map.mpr fun s _ _ => ?_
      exact (unit_of_tokens kept).symm.trans own

theorem handsOn_of_itemAt {i : Nat} (link : h.cls = .tokens ∨ h.cls = .overriddenCursors)
    (remembers : (Value.handle h).Remembers u w)
    (e : (h.itemAt i).exec side w = (.ok x, v)) : x.parts = [x] ∧ x.HandsOn u v := by
  obtain cls | cls := link
  · obtain ⟨w', v', now, e⟩ := Binding.exec_bind_cases e
    cases now
    rw [cls] at e
    cases e
    split <;> exact ⟨rfl, Value.handsOn_single rfl rfl⟩
  · obtain ⟨w', v', now, e⟩ := Binding.exec_bind_cases e
    cases now
    rw [cls] at e
    cases e
    refine ⟨rfl, List.forall_mem_singleton.mpr fun _ => ?_⟩
    exact (unit_of_contents cls).trans (unit?_of_remembers remembers (by simp [cls]))

theorem item_of_array (link : h.cls = .tokens ∨ h.cls = .overriddenCursors) (i : Value) :
    h.item i = i.ensureWithin h.size >>= fun _ =>
      (i.number?.map fun n => h.itemAt n.toNat).getD (throw Failure.typeError) := by
  obtain cls | cls := link <;>
    (simp only [item, cls]; cases i.number? <;> rfl)

theorem handsOn_of_item {i : Value} (link : h.cls = .tokens ∨ h.cls = .overriddenCursors)
    (remembers : (Value.handle h).Remembers u w)
    (e : (h.item i).exec side w = (.ok x, v)) : x.parts = [x] ∧ x.HandsOn u v := by
  rw [item_of_array link] at e
  obtain ⟨⟨⟩, w', within_, e⟩ := Binding.exec_bind_cases e
  cases n : i.number? with
  | none => rw [n] at e; cases e
  | some n' =>
    rw [n] at e
    exact handsOn_of_itemAt link (remembers.evolves (.of_result within_)) e

theorem handsOn_of_foldArray (link : h.cls = .tokens ∨ h.cls = .overriddenCursors)
    (remembers : (Value.handle h).Remembers u w) {is : List Nat} {xs ys : List Value}
    (before : (Value.list xs).HandsOn u w)
    (e : (Supply.foldArray (fun xs x => pure (.more (x :: xs))) h is xs).exec side w =
      (.ok ys, v)) : (Value.list ys).HandsOn u v := by
  induction is generalizing xs w with
  | nil =>
    cases e
    exact before
  | cons i r ih =>
    obtain ⟨x, w', taken, e⟩ := Binding.exec_bind_cases e
    have later : w.Evolves w' := .of_result taken
    obtain ⟨alone, given⟩ := handsOn_of_item link remembers taken
    refine ih (remembers.evolves later) (List.forall_mem_cons.mpr ⟨?_, fun y mem isLink => ?_⟩) e
    · exact given x (by rw [alone]; exact List.mem_singleton_self x)
    · exact (before y mem isLink).evolves later

theorem supply_of_array (link : h.cls = .tokens ∨ h.cls = .overriddenCursors) :
    (Value.handle h).supply = pure (.array h) := by
  obtain cls | cls := link <;> simp only [Value.supply, cls]

theorem handsOn_of_elements (link : h.cls = .tokens ∨ h.cls = .overriddenCursors)
    (remembers : (Value.handle h).Remembers u w)
    (e : (Value.list <$> (Value.handle h).elements).exec side w = (.ok r, v)) :
    r.HandsOn u v := by
  obtain ⟨ys, v', e, made⟩ := Binding.exec_bind_cases e
  cases made
  rw [Value.elements, supply_of_array link] at e
  obtain ⟨s, w₀, supplied, e⟩ := Binding.exec_bind_cases e
  cases supplied
  obtain ⟨⟨⟩, w₁, hinted, e⟩ := Binding.exec_bind_cases e
  obtain ⟨xs, w₂, folded, e⟩ := Binding.exec_bind_cases e
  cases e
  obtain ⟨n, w₃, sized, folded⟩ := Binding.exec_bind_cases folded
  have later : w.Evolves w₃ := .trans (.of_result hinted) (.of_result sized)
  have start : (Value.list []).HandsOn u w₃ := nofun
  have inOrder := handsOn_of_foldArray link (remembers.evolves later) start folded
  exact fun x mem => inOrder x (List.mem_reverse.mp mem)

theorem gives_tokenize (unit : h.cls = .translationUnit) (extent : Value) :
    (Value.handle <$> Tokens.ofExtent h extent).Gives (some h) := by
  intro side w r v e
  obtain ⟨array, w', e, made⟩ := Binding.exec_bind_cases e
  cases made
  obtain ⟨answer, w'', -, e⟩ := Binding.exec_bind_cases e
  have kept {count : Nat} {items : List Symbol} :
      (Role.tokens h.id count items).unit? = some h := by
    rw [Role.unit?, ← unit]
  exact List.forall_mem_singleton.mpr fun _ => kept ▸ remembers_create (by decide) e

def unitLeads : List String := ["cursor", "cursor_at", "tokenize"]

theorem gives_ofUnit (unit : h.cls = .translationUnit) {name : String} {a : Attribute}
    (lead : name ∈ unitLeads) (e : lookup name (Interface.attributes (.handle h)) = some a) :
    a.Gives (some h) := by
  have attributes : Interface.attributes (.handle h) =
      Interface.ofAnyHandle h ++ Interface.ofUnit h := by
    simp only [Interface.attributes, Interface.ofHandle, unit]
  rw [attributes] at e
  have own : (Value.handle h).unit? = some h := by rw [Value.unit?, if_pos unit]
  simp only [unitLeads, List.mem_cons, List.not_mem_nil, or_false] at lead
  obtain rfl | rfl | rfl := lead
  · have found : some (Attribute.asks .getTranslationUnitCursor (.handle h)) = some a := e
    cases found
    exact Attribute.gives_asks own
  · have found : some (Attribute.asksWith ["location"] .getCursor (.handle h)) = some a := e
    cases found
    exact Attribute.gives_asksWith own (.inl (by simp [own]))
  · have found : some (Attribute.method1 (Interface.required "extent") fun extent =>
      Value.handle <$> Tokens.ofExtent h extent) = some a := e
    cases found
    exact gives_tokenize unit

end Handle

end ClangIndex
