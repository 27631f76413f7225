import ClangIndex.Binding.Shown

/-!
Traversals that call back. The native side walks the children and asks a visitor about each; what
the visitor fails with ends the traversal and is passed on when the native call returns.
-/

namespace ClangIndex

open Native (Function)

abbrev Visitor (other : Type) := Cursor → other → Binding Value

inductive Verdict
  | goOn
  | descend
  | stop (cause : Option Failure)

inductive Direction
  | stop
  | goOn
  | descend

namespace Direction

def ofNumber? : Int → Option Direction
  | 0 => some .stop
  | 1 => some .goOn
  | 2 => some .descend
  | _ => none

/-- An answer is a member of the enumeration of answers or a number, but no truth value. One that is
neither is shown in the failure, and what showing it fails with comes first. -/
def ofAnswer (v : Value) : Binding Direction :=
  match v with
  | .member ⟨.childVisitResult, n⟩ | .int n => ofInt n v
  | .flags _ n => ofInt n v
  | _ => do throw (.notVisitAnswer (← v.repr))
where
  ofInt (n : Int) (v : Value) : Binding Direction :=
    match ofNumber? n with
    | some d => pure d
    | none => do throw (.notMember (← v.repr) Enumeration.childVisitResult.name)

def ofReferenceAnswer (v : Value) : Binding Direction := do
  match ← ofAnswer v with
  | .descend => throw (.notReferenceAnswer (← v.repr))
  | d => return d

def verdict : Direction → Verdict
  | .stop => .stop none
  | .goOn => .goOn
  | .descend => .descend

end Direction

namespace Traversal

def heed (judge : Value → Binding Direction) (m : Binding Value) : Binding Verdict := do
  match ← Binding.attempt (m >>= judge) with
  | .ok d => return d.verdict
  | .error e => return .stop (some e)

def untilStop (step : α → Binding Verdict) : List α → Binding Verdict
  | [] => pure .goOn
  | x :: r => do
    match ← step x with
    | .stop cause => return .stop cause
    | _ => untilStop step r

def enter (visit : Symbol → Symbol → Binding Verdict) (inside : Symbol → Binding Verdict)
    (parent child : Symbol) : Binding Verdict := do
  match ← visit child parent with
  | .descend => inside child
  | d => return d

def below (visit : Symbol → Symbol → Binding Verdict) : Nat → Symbol → Binding Verdict
  | 0, _ => pure .goOn
  | depth + 1, parent => do
    untilStop (enter visit (below visit depth) parent) ((← read).children parent)

def stopped : Verdict → Bool
  | .stop _ => true
  | _ => false

def raisePending : Verdict → Binding Unit
  | .stop (some e) => do
    Binding.log .debug "clangbind.cursor" ("Traversal stopped by " ++ e.kind ++ " from visitor")
    throw e
  | _ => pure ()

end Traversal

namespace Cursor

open Traversal

def visit (c : Cursor) (visitor : Visitor Cursor) : Binding Bool := do
  let (call, answer) ← Function.visitChildren.invoke [.value (.cursor c)]
  let d ← below
    (fun child parent => heed Direction.ofAnswer (visitor ⟨child, c.unit⟩ ⟨parent, c.unit⟩))
    (← read).depth c.symbol
  raisePending d
  return match answer.result with
    | .default => stopped d
    | _ => answer.number call != 0

def findReferences (c : Cursor) (file : Value) (visitor : Visitor Symbol) : Binding Member := do
  let (call, answer) ← Function.findReferencesInFile.invoke [.value (.cursor c), .value file]
  let d ← untilStop
    (fun (reference, range) =>
      heed Direction.ofReferenceAnswer (visitor ⟨reference, c.unit⟩ range))
    answer.references
  raisePending d
  let code :=
    if stopped d then Number.Width.int32.wrap (answer.broken.getD 2) else answer.number call
  Enumeration.result.require code

def collect (list : Nat) : Visitor Cursor := fun child _ => do
  Binding.update fun w => { w with supplies := w.supplies.modify list (· ++ [.cursor child]) }
  return .member ⟨.childVisitResult, 1⟩

def ofValue? : Value → Option Cursor
  | .object (.cursor c) _ => some c
  | _ => none

def children (c : Cursor) : Binding (List Cursor) := do
  let list ← Binding.keeping fun w =>
    (w.supplies.size, { w with supplies := w.supplies.push [] })
  let _ ← c.visit (collect list)
  return ((← World.now).supply list).filterMap ofValue?

def preorder : Nat → Cursor → Binding (List Cursor)
  | 0, c => pure [c]
  | depth + 1, c => do
    let below ← (← c.children).mapM (preorder depth)
    return c :: below.flatten

def walk (c : Cursor) : Binding (List Cursor) := do preorder (← read).depth c

end Cursor

end ClangIndex
