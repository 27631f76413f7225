import ClangIndex.Binding.Bounds
import ClangIndex.Binding.Visit

namespace ClangIndex

open Native (Function Side)

namespace Binding

variable {α β : Type} {R : World → World → Prop}

/-- An operation that leads from each state to one that is related with it. -/
def Within (R : World → World → Prop) (m : Binding α) : Prop :=
  ∀ (side : Side) (w : World), R w (m.exec side w).2

variable {m : Binding α} {g : α → Binding β}

theorem Within.bind (trans : ∀ {u v w}, R u v → R v w → R u w) (h : m.Within R)
    (k : ∀ a, (g a).Within R) : (m >>= g).Within R := by
  intro side w
  have first := h side w
  cases e : m.exec side w with
  | mk r v =>
    rw [e] at first
    cases r with
    | ok a =>
      rw [exec_bind_ok e]
      exact trans first (k a side v)
    | error x =>
      rw [exec_bind_error e]
      exact first

end Binding

section

variable {R : World → World → Prop} (refl : ∀ w, R w w)
  (trans : ∀ {u v w}, R u v → R v w → R u w)

include refl trans

theorem Binding.Within.mapM {α β : Type} {g : α → Binding β} {xs : List α}
    (h : ∀ a ∈ xs, (g a).Within R) : (xs.mapM g).Within R := by
  induction xs with
  | nil => exact fun _ => refl
  | cons x r ih =>
    rw [List.mapM_cons]
    exact (h x List.mem_cons_self).bind trans fun _ =>
      (ih fun a mem => h a (List.mem_cons_of_mem _ mem)).bind trans fun _ _ => refl

theorem Handle.within_symbol (h : Handle) : h.symbol.Within R := by
  have now : World.now.Within R := fun _ => refl
  have alive : h.ensureAlive.Within R := by
    refine now.bind trans fun _ => ?_
    split <;> exact fun _ => refl
  have held : h.held.Within R := alive.bind trans fun _ => now.bind trans fun _ _ => refl
  exact held.bind trans fun _ => now.bind trans fun _ _ => refl

theorem Value.within_ensureWithin (i : Value) {size : Binding Nat} (h : size.Within R) :
    (i.ensureWithin size).Within R := by
  have bounded (n : Int ⊕ Number.Binary64) :
      (size >>= fun k => if reaches k n then throw i.outOfRange else pure ()).Within R := by
    refine h.bind trans fun k => ?_
    split <;> exact fun _ => refl
  have refused : (throw i.outOfRange : Binding Unit).Within R := fun _ => refl
  unfold ensureWithin
  split
  · exact fun _ => refl
  · split
    · exact refused.bind trans fun _ => bounded _
    · exact bounded _

namespace Traversal

theorem within_heed {judge : Value → Binding Direction} {m : Binding Value}
    (h : (m >>= judge).Within R) : (heed judge m).Within R := by
  have attempted : (Binding.attempt (m >>= judge)).Within R := h
  refine attempted.bind trans fun r => ?_
  cases r <;> exact fun _ => refl

theorem within_untilStop {α : Type} {step : α → Binding Verdict} (h : ∀ x, (step x).Within R)
    (xs : List α) : (untilStop step xs).Within R := by
  induction xs with
  | nil => exact fun _ => refl
  | cons x r ih =>
    refine (h x).bind trans fun d => ?_
    cases d with
    | stop => exact fun _ => refl
    | goOn | descend => exact ih

theorem within_below {visit : Symbol → Symbol → Binding Verdict}
    (h : ∀ child parent, (visit child parent).Within R) (depth : Nat) (parent : Symbol) :
    (below visit depth parent).Within R := by
  induction depth generalizing parent with
  | zero => exact fun _ => refl
  | succ depth ih =>
    have asked : (MonadReaderOf.read : Binding Side).Within R := fun _ => refl
    refine asked.bind trans fun _ => within_untilStop refl trans (fun child => ?_) _
    refine (h child parent).bind trans fun d => ?_
    cases d with
    | descend => exact ih child
    | goOn | stop => exact fun _ => refl

end Traversal

theorem Cursor.within_visit {c : Cursor} {visitor : Visitor Cursor}
    (called : (Function.visitChildren.invoke [.value (.cursor c)]).Within R)
    (logged : ∀ level logger message, (Binding.log level logger message).Within R)
    (told : ∀ child parent,
      (visitor ⟨child, c.unit⟩ ⟨parent, c.unit⟩ >>= Direction.ofAnswer).Within R) :
    (c.visit visitor).Within R := by
  have asked : (MonadReaderOf.read : Binding Side).Within R := fun _ => refl
  refine called.bind trans fun _ => asked.bind trans fun _ => ?_
  refine (Traversal.within_below refl trans (fun child parent =>
    Traversal.within_heed refl trans (told child parent)) _ _).bind trans fun d => ?_
  refine .bind trans ?_ fun _ _ => refl
  unfold Traversal.raisePending
  split
  · exact (logged _ _ _).bind trans fun _ _ => refl
  · exact fun _ => refl

end

end ClangIndex
