import ClangIndex.Binding.Sequence

namespace ClangIndex.Marshal

open Text (Bytes)

def argv (arguments : Value) : Binding (List Bytes) := do
  if ← arguments.holds then
    let s ← arguments.supply
    let xs ← s.fold (fun xs x => do return .more ((← x.toBytes) :: xs)) []
    return xs.reverse
  else return []

structure UnsavedFile where
  name : Bytes
  contents : Bytes
  deriving DecidableEq, Repr

def readContents : Value → Binding Value
  | .stream binary id => .keeping fun w =>
    (Value.joined binary (w.supply id), { w with supplies := w.supplies.set! id [] })
  | .fileLike v _ => pure v
  | v => pure v

/-- Takes a value apart that must have two items; no more than three are taken. -/
def asPair (v : Value) : Binding (Value × Value) := do
  let s ← v.supply
  let take (xs : List Value) (x : Value) : Progress (List Value) :=
    if xs.length < 2 then .more (x :: xs) else .enough (x :: xs)
  let xs ← s.fold (fun xs x => pure (take xs x)) []
  match xs with
  | [b, a] => return (a, b)
  | _ => throw Failure.valueError

namespace UnsavedFile

def ofPair (name contents : Value) : Binding UnsavedFile := do
  let contents ← readContents contents
  let name ← name.toBytes
  let contents ← contents.toBytes
  return ⟨name, contents⟩

def ofItem (item : Value) : Binding UnsavedFile := do
  let (name, contents) ← asPair item
  ofPair name contents

def ofValue : Value → Binding (List UnsavedFile)
  | .none => pure []
  | .object (.unsavedFiles files) _ => pure (files.map fun f => ⟨f.1, f.2⟩)
  | .mapping es => es.mapM fun e => ofPair e.1.value e.2
  | v => do (← v.elements).mapM ofItem

def keep (files : Value) : Binding Value := do
  return .object (.unsavedFiles ((← ofValue files).map fun f => (f.name, f.contents)))

def coerce : Value → Binding Value
  | v@(.object (.unsavedFiles _) _) => pure v
  | v => keep v

end UnsavedFile

def textArray (xs : List Bytes) : Option (List Bytes) :=
  if xs.isEmpty then none else some (xs.map Text.cString)

def fileArray (files : List UnsavedFile) : Option (List (Bytes × Bytes)) :=
  if files.isEmpty then none
  else some (files.map fun f => (Text.cString f.name, f.contents))

def newText : Value → Except Failure Bytes
  | .none => .ok []
  | v => v.toBytes

def readBack (b : Bytes) : String := Text.ofUtf8 (Text.cString b)

end ClangIndex.Marshal
