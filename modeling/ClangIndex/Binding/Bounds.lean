import ClangIndex.Binding.Operation
import ClangIndex.Value.Conversion

namespace ClangIndex.Value

def outOfRange : Value → Failure
  | .int n => .outOfRange n
  | .flags _ n => .outOfRange n
  | _ => .plain .index

def isBelow (n : Int) : Int ⊕ Number.Binary64 → Bool
  | .inl i => i < n
  | .inr x => x.isBelow n

def reaches (n : Int) : Int ⊕ Number.Binary64 → Bool
  | .inl i => n ≤ i
  | .inr x => x.reaches n

/-- Refuses an index that is no number, one below zero, and one that reaches the size. The size is
asked for only in the end. -/
def ensureWithin (i : Value) (size : Binding Nat) : Binding Unit := do
  match i.numeric? with
  | Option.none => throw Failure.typeError
  | some n =>
    if isBelow 0 n then throw i.outOfRange
    let size ← size
    if reaches size n then throw i.outOfRange

end ClangIndex.Value
