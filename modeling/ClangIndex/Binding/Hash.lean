import ClangIndex.Binding.Cursor
import ClangIndex.Binding.Identity
import ClangIndex.Number.Residue

namespace ClangIndex

open Text (Bytes)

inductive HashKey
  | number (n : Int)
  | buffer (b : Bytes)
  | none
  | path (s : String)
  | moment (seconds : Int)
  | address (s : Symbol)
  | holder (h : Holder)
  | iterator (id : Nat)
  | row (keys : List HashKey)
  deriving Repr, Inhabited

namespace HashKey

mutual

def same : HashKey → HashKey → Bool
  | .number a, .number b => a == b
  | .buffer a, .buffer b => a == b
  | .none, .none => true
  | .path a, .path b => a == b
  | .moment a, .moment b => a == b
  | .address a, .address b => a == b
  | .holder a, .holder b => a == b
  | .iterator a, .iterator b => a == b
  | .row a, .row b => sameAll a b
  | _, _ => false

def sameAll : List HashKey → List HashKey → Bool
  | [], [] => true
  | x :: xs, y :: ys => same x y && sameAll xs ys
  | _, _ => false

end

def number? : HashKey → Option Int
  | .number n => some n
  | _ => Option.none

def ofBuffer (b : Bytes) : HashKey := if b.isEmpty then .number 0 else .buffer b

def wide (width n : Nat) : Bytes := (List.range width).map fun i => UInt8.ofNat (n / Nat.pow 256 i)

def ofText (s : String) : HashKey :=
  let codes := s.toList.map Char.toNat
  let most := codes.foldl max 0
  let width := if most < 256 then 1 else if most < 65536 then 2 else 4
  ofBuffer (codes.flatMap (wide width))

def ofRow (keys : List HashKey) : HashKey :=
  match keys.mapM number? with
  | some ns => .number (Number.Residue.ofRow ns)
  | Option.none => .row keys

def ofInts (ns : List Int) : HashKey := ofRow (ns.map fun n => .number (Number.Residue.ofInt n))

def ofFile (h : Handle) : Binding HashKey := do
  return match ← h.symbol with
    | some s => .address s
    | Option.none => .none

def ofObject (o : Object) (id : Identity) : Binding HashKey :=
  match o with
  | .cursor c => return .number (Number.Residue.ofInt (← c.hash))
  | .uniqueId a b c => pure (ofInts [a, b, c])
  | .bytesPath _ | .unsavedFiles _ | .function _ | .method => pure (.holder (.object id))
  | _ => throw Failure.typeError

end HashKey

namespace Value

open HashKey (ofText ofInts ofRow)

def hashKey : Value → Binding HashKey
  | .none => pure .none
  | .bool b => pure (.number (if b then 1 else 0))
  | .int n => pure (.number (Number.Residue.ofInt n))
  | .float x => pure (.number (Number.Residue.ofBinary64 x))
  | .text s => pure (ofText s)
  | .bytes b => pure (HashKey.ofBuffer b)
  | .tuple xs => do return ofRow (← hashKeys xs)
  | .iterator id => pure (.iterator id)
  | .path s => pure (.path s)
  | .member m => pure (ofText m.name)
  | .flags _ n => pure (.number (Number.Residue.ofInt n))
  | .object o id => HashKey.ofObject o id
  | .handle h => if h.cls = .file then HashKey.ofFile h else pure (.holder (.handle h))
  | .filePosition f l c o => do
    let file ← match f with
      | some f => HashKey.ofFile f
      | Option.none => pure .none
    return ofRow (file :: [l, c, o].map fun n => .number (Number.Residue.ofInt n))
  | .presumedPosition f l c =>
    pure (ofRow (ofText f :: [l, c].map fun n => .number (Number.Residue.ofInt n)))
  | .moment s => pure (.moment s)
  | .fileLike _ id => pure (.holder (.object id))
  | .stream _ id => pure (.holder (.supply id))
  | .chunk id => pure (.holder (.chunk id))
  | .list _ | .mapping _ | .diagnostics .. | .platform _ | .availability _ | .fixIt .. |
    .document _ => throw Failure.typeError
where
  hashKeys : List Value → Binding (List HashKey)
    | [] => pure []
    | x :: r => do
      let k ← hashKey x
      return k :: (← hashKeys r)

/-- The hash of a value as far as it is a number that does not differ from run to run. -/
def hash (v : Value) : Binding Value := do
  match ← v.hashKey with
  | .number n => return .int n
  | _ => return .none

def sameHash (a b : Value) : Binding Bool := do
  let x ← a.hashKey
  return x.same (← b.hashKey)

def ensureHashable (v : Value) : Binding Unit := do
  let _ ← v.hashKey

end Value

end ClangIndex
