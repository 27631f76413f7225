import ClangIndex.Binding.Visit

/-!
A visit as its two sides see it. The native side gets numbers only, for which a failure is a break;
the failure itself is saved beside the traversal, in a place that only this traversal has.
-/

namespace ClangIndex

open Native (Function Side)

namespace Verdict

/-- The number that the native side gets for an answer; a failure looks like a break. -/
def number : Verdict → Int
  | .stop _ => 0
  | .goOn => 1
  | .descend => 2

def cause? : Verdict → Option Failure
  | .stop c => c
  | _ => none

def split (d : Verdict) : Int × Option Failure := (d.number, d.cause?)

end Verdict

namespace NativeTraversal

variable {m : Type → Type} [Monad m] {α : Type}

def untilBreak (step : α → m Int) : List α → m Int
  | [] => pure 1
  | x :: r => do
    if (← step x) = 0 then return 0 else untilBreak step r

def enter (visit : Symbol → Symbol → m Int) (inside : Symbol → m Int) (parent child : Symbol) :
    m Int := do
  let n ← visit child parent
  if n = 2 then inside child else return n

def below [MonadReaderOf Side m] (visit : Symbol → Symbol → m Int) : Nat → Symbol → m Int
  | 0, _ => pure 1
  | depth + 1, parent => do
    untilBreak (enter visit (below visit depth) parent) ((← readThe Side).children parent)

end NativeTraversal

abbrev Saving : Type → Type := StateT (Option Failure) Binding

def dispatch (judge : Value → Binding Direction) (m : Binding Value) : Saving Int := do
  match ← Binding.attempt (m >>= judge) with
  | .ok d => return d.verdict.number
  | .error e =>
    set (some e)
    return 0

/-- A visit with a fresh place for its failure, which is raised when the native call returned. -/
def Cursor.visitSaving (c : Cursor) (visitor : Visitor Cursor) : Binding Bool := do
  let (call, answer) ← Function.visitChildren.invoke [.value (.cursor c)]
  let (n, saved) ← (NativeTraversal.below
    (fun child parent => dispatch Direction.ofAnswer (visitor ⟨child, c.unit⟩ ⟨parent, c.unit⟩))
    (← read).depth c.symbol).run none
  match saved with
  | some e =>
    Binding.log .debug "clangbind.cursor" ("Traversal stopped by " ++ e.kind ++ " from visitor")
    throw e
  | none =>
    return match answer.result with
      | .default => n == 0
      | _ => answer.number call != 0

/-- Callbacks give the numbers of some verdicts, and save the causes of those that stop. -/
def Saves (m : Saving Int) (n : Binding Verdict) : Prop := m.run none = Verdict.split <$> n

namespace Saves

variable {visit : Symbol → Symbol → Saving Int} {told : Symbol → Symbol → Binding Verdict}

theorem dispatch (judge : Value → Binding Direction) (m : Binding Value) :
    Saves (dispatch judge m) (Traversal.heed judge m) := by
  simp only [Saves, ClangIndex.dispatch, Traversal.heed, StateT.run_bind, StateT.run_monadLift,
    map_bind, bind_pure_comp, bind_map_left]
  refine congrArg _ (funext fun r => ?_)
  cases r with
  | error e => rfl
  | ok d => cases d <;> rfl

/-- Nothing is saved as long as the traversal goes on, so each step starts as the first one. -/
theorem untilBreak {α : Type} {step : α → Saving Int} {told : α → Binding Verdict}
    (h : ∀ x, Saves (step x) (told x)) (xs : List α) :
    Saves (NativeTraversal.untilBreak step xs) (Traversal.untilStop told xs) := by
  induction xs with
  | nil => rfl
  | cons x r ih =>
    rw [Saves, NativeTraversal.untilBreak, StateT.run_bind, h x, bind_map_left,
      Traversal.untilStop, map_bind]
    refine congrArg _ (funext fun d => ?_)
    cases d with
    | stop c => rfl
    | goOn | descend => exact ih

theorem enter (h : ∀ child parent, Saves (visit child parent) (told child parent))
    {inside : Symbol → Saving Int} {within : Symbol → Binding Verdict}
    (k : ∀ s, Saves (inside s) (within s)) (parent child : Symbol) :
    Saves (NativeTraversal.enter visit inside parent child)
      (Traversal.enter told within parent child) := by
  rw [Saves, NativeTraversal.enter, StateT.run_bind, h child parent, bind_map_left,
    Traversal.enter, map_bind]
  refine congrArg _ (funext fun d => ?_)
  cases d with
  | stop | goOn => rfl
  | descend => exact k child

theorem below (h : ∀ child parent, Saves (visit child parent) (told child parent)) (depth : Nat)
    (parent : Symbol) :
    Saves (NativeTraversal.below visit depth parent) (Traversal.below told depth parent) := by
  induction depth generalizing parent with
  | zero => rfl
  | succ depth ih =>
    rw [Saves, NativeTraversal.below, StateT.run_bind, Traversal.below, map_bind]
    change (read >>= fun side => pure (side, none)) >>= _ = _
    rw [bind_assoc]
    refine congrArg _ (funext fun side => ?_)
    rw [pure_bind]
    exact untilBreak (enter h ih parent) (side.children parent)

end Saves

theorem Cursor.visitSaving_eq_visit (c : Cursor) (visitor : Visitor Cursor) :
    c.visitSaving visitor = c.visit visitor := by
  have saves := Saves.below fun child parent =>
    Saves.dispatch Direction.ofAnswer (visitor ⟨child, c.unit⟩ ⟨parent, c.unit⟩)
  rw [visitSaving, visit]
  refine congrArg _ (funext fun (call, answer) => ?_)
  refine congrArg (MonadReaderOf.read >>= ·) (funext fun side => ?_)
  rw [saves side.depth c.symbol, bind_map_left]
  refine congrArg _ (funext fun d => ?_)
  cases d with
  | stop cause =>
    cases cause with
    | none => rfl
    | some e => rfl
  | goOn => rfl
  | descend => rfl

end ClangIndex
