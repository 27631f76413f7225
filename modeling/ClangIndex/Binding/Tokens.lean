import ClangIndex.Binding.Cursor
import ClangIndex.Binding.Disposal

namespace ClangIndex

open Native (Function)

namespace Token

def withUnit (t : Token) (f : Function)
    (keeps : f.releases = false := by first | exact Eq.refl false | assumption) : Binding Value :=
  match t.unit with
  | some unit => f.call [.value (.handle unit), .value (.token t)]
  | none => throw Failure.attributeError

def kind (t : Token) : Binding Member := do
  Enumeration.tokenKind.require (← Function.getTokenKind.number [.value (.token t)])

def spelling (t : Token) : Binding Value := t.withUnit .getTokenSpelling

end Token

namespace Tokens

def ofExtent (unit : Handle) (extent : Value) : Binding Handle := do
  let (_, answer) ← Function.tokenize.invoke [.value (.handle unit), .value extent]
  let count := (Number.Width.uint32.wrap (answer.count.getD 0)).toNat
  let count := if answer.array.isSome then count else 0
  Handle.create .tokens (.handle answer.array) (.tokens unit.id count (padded count answer.items))

def contents (w : World) (h : Handle) : Option (Handle × Nat × List Symbol) :=
  match w.role h with
  | .tokens unit count items => some (⟨.translationUnit, unit⟩, count, items)
  | _ => none

def size (h : Handle) : Binding Nat := do
  let w ← World.now
  if w.isDisposed h then throw .tokensDisposed
  else return (contents w h).elim 0 fun (_, n, _) => n

def annotate (h : Handle) : Binding (List Value) := do
  let count ← size h
  if count = 0 then return []
  else
    let array ← h.symbol
    match contents (← World.now) h with
    | none => return []
    | some (unit, _, _) =>
      let (_, answer) ← Function.annotateTokens.invokeOn h
        [.value (.handle unit), .native (.handle array), .native (.int count)]
      return (padded count answer.cursors).map fun s => .cursor ⟨s, some unit⟩

end Tokens

end ClangIndex
