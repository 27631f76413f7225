import ClangIndex.Binding.Disposal
import ClangIndex.Binding.Sequence

/-!
Equality and membership. Cursors, types, locations and ranges are compared by the native side, files
by their handles, and other objects are equal to themselves only. In a list or a tuple one object is
equal to itself without being asked.
-/

namespace ClangIndex

open Native (Function)

namespace Object

/-- What the contents of two objects say; the rest are equal only if they are one object. -/
def equal : Object → Object → Binding Bool
  | .cursor a, .cursor b => a.equal b
  | .type a, .type b => a.equal b
  | .location a, .location b => Location.equal a b
  | .range a, .range b => Range.equal a b
  | .uniqueId a b c, .uniqueId x y z => pure (a == x && b == y && c == z)
  | _, _ => pure false

def isComparable : Object → Bool
  | .cursor _ | .type _ | .location _ | .range _ | .uniqueId .. => true
  | _ => false

end Object

namespace Value

def sameNumber : Int ⊕ Number.Binary64 → Int ⊕ Number.Binary64 → Bool
  | .inl a, .inl b => a == b
  | .inl a, .inr x | .inr x, .inl a => x.isInteger a
  | .inr x, .inr y => x.equal y

def same : Value → Value → Bool
  | .none, .none => true
  | .text a, .text b => a == b
  | .bytes a, .bytes b => a == b
  | .path a, .path b => a == b
  | .member a, .member b => a == b
  | .moment a, .moment b => a == b
  | a, b =>
    match a.numeric?, b.numeric? with
    | some x, some y => sameNumber x y
    | _, _ => isOneObject a b

def tupleItems? : Value → Option (List Value)
  | .tuple xs => some xs
  | v@(.filePosition ..) | v@(.presumedPosition ..) | v@(.fixIt ..) => v.items?
  | _ => Option.none

def listItems? : Value → Option (List Value)
  | .list xs | .diagnostics xs _ => some xs
  | _ => Option.none

section Items

variable (equal : Value → Value → Binding Bool)

def equalItem (x y : Value) : Binding Bool := if isOneObject x y then pure true else equal x y

def equalItems : List Value → List Value → Binding Bool
  | x :: xs, y :: ys => do if ← equalItem equal x y then equalItems xs ys else return false
  | _, _ => pure true

def equalEntries (ys : List (Key × Value)) : List (Key × Value) → Binding Bool
  | [] => pure true
  | (k, x) :: r => do
    match ys.lookup k with
    | some y => if ← equalItem equal x y then equalEntries ys r else return false
    | Option.none => return false

end Items

def equalWithin : Nat → Value → Value → Binding Bool
  | 0, _, _ => throw (.plain .recursion)
  | depth + 1, a, b =>
    match a, b with
    | .object x _, .object y _ =>
      if x.isComparable then x.equal y else pure (isOneObject a b)
    | .handle x, .handle y =>
      if x.cls = .file ∧ y.cls = .file then File.equal x y else pure (x == y)
    | .list xs, .diagnostics ys _ =>
      if xs.length = ys.length then equalItems (equalWithin depth) ys xs else pure false
    | .mapping xs, .mapping ys =>
      if xs.length = ys.length then equalEntries (equalWithin depth) ys xs else pure false
    | .availability x, .availability y => do
      let x ← Availability.state x
      let y ← Availability.state y
      equalItems (equalWithin depth) x.fields y.fields
    | a, b =>
      match a.listItems?, b.listItems?, a.tupleItems?, b.tupleItems? with
      | some xs, some ys, _, _ =>
        if xs.length = ys.length then equalItems (equalWithin depth) xs ys else pure false
      | _, _, some xs, some ys => do
        return (← equalItems (equalWithin depth) xs ys) && xs.length == ys.length
      | _, _, _, _ => pure (same a b)

def equal (a b : Value) : Binding Bool := equalWithin deepest a b

def isAmong (v : Value) (s : Supply) : Binding Bool :=
  s.fold (fun _ x => do if ← equalItem equal x v then return .enough true else return .more false)
    false

def occursIn [BEq α] (s : List α) : List α → Bool
  | [] => s.isEmpty
  | c :: r => s.isPrefixOf (c :: r) || occursIn s r

def isInBytes (x : Value) (b : Text.Bytes) : Except Failure Bool :=
  match x, x.number? with
  | .bytes y, _ => .ok (occursIn y b)
  | _, some n =>
    if 0 ≤ n ∧ n < 256 then .ok (b.contains (UInt8.ofNat n.toNat)) else .error Failure.valueError
  | _, Option.none => .error Failure.typeError

def contains (v x : Value) : Binding Bool :=
  match v, x with
  | .handle h, x =>
    if h.cls = .cursorSet then
      return (← Function.cxCursorSetContains.number [.value v, .value x]) != 0
    else do isAmong x (← v.supply)
  | .text s, .text t => pure (occursIn t.toList s.toList)
  | .text _, _ => throw Failure.typeError
  | .bytes b, x => isInBytes x b
  | .flags f n, .flags g m => if f = g then pure (m &&& n == m) else throw Failure.typeError
  | .flags .., _ => throw Failure.typeError
  | .mapping es, x => do
    x.ensureHashable
    return (x.key?.bind fun k => es.lookup k).isSome
  | v, x => do isAmong x (← v.supply)

end Value

end ClangIndex
