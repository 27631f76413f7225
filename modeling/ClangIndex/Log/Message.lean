import ClangIndex.Log.Place

namespace ClangIndex.Log

structure Arguments where
  left : List Value
  entries : Option (List (Key × Value)) := none

namespace Arguments

/-- A single argument that has entries is also where names are looked up. -/
def ofList (args : List Value) : Arguments :=
  match args with
  | [.mapping es] => if es.isEmpty then ⟨args, none⟩ else ⟨args, some es⟩
  | _ => ⟨args, none⟩

def isDone (a : Arguments) : Bool := a.left.isEmpty || a.entries.isSome

end Arguments

abbrev Filling := StateT Arguments Option

namespace Filling

def next : Filling Value := do
  match (← get).left with
  | v :: r =>
    modify fun a => { a with left := r }
    return v
  | [] => failure

def select (name : String) : Filling Unit := do
  let some v := (← get).entries.bind (List.lookup (.text name)) | failure
  modify fun a => { a with left := [v] }

def splitName : Nat → List Char → Option (List Char × List Char)
  | _, [] => none
  | 0, ')' :: r => some ([], r)
  | n + 1, ')' :: r => (splitName n r).map fun (s, r) => (')' :: s, r)
  | n, '(' :: r => (splitName (n + 1) r).map fun (s, r) => ('(' :: s, r)
  | n, c :: r => (splitName n r).map fun (s, r) => (c :: s, r)

def name (s : List Char) : Filling (List Char) := do
  match s with
  | '(' :: r =>
    if (← get).entries.isNone then failure
    else
      let some (name, r) := splitName 0 r | failure
      select (String.ofList name)
      return r
  | _ => return s

def flags (p : Place) : List Char → Place × List Char
  | '-' :: r => flags { p with left := true } r
  | '0' :: r => flags { p with zeros := true } r
  | '+' :: r => flags { p with plus := true } r
  | ' ' :: r => flags { p with space := true } r
  | '#' :: r => flags { p with marked := true } r
  | s => (p, s)

def isDigit (c : Char) : Bool := '0' ≤ c && c ≤ '9'

def count (s : List Char) : Filling (Int × List Char) := do
  match s with
  | '*' :: r =>
    let some n := Place.wholeNumber? (← next) | failure
    return (n, r)
  | _ =>
    let n : Nat := (s.takeWhile isDigit).foldl (fun n c => 10 * n + (c.toNat - 48)) 0
    return (n, s.dropWhile isDigit)

def width (p : Place) (s : List Char) : Filling (Place × List Char) := do
  let (n, s) ← count s
  return ({ p with width := n.natAbs, left := p.left || n < 0 }, s)

def precision (p : Place) (s : List Char) : Filling (Place × List Char) := do
  match s with
  | '.' :: r =>
    let (n, r) ← count r
    if Place.greatestCount < n.natAbs then failure
    else return ({ p with precision := some n.toNat }, r)
  | _ => return (p, s)

def skipSize : List Char → List Char
  | 'h' :: r => r
  | 'l' :: r => r
  | 'L' :: r => r
  | s => s

def place (s : List Char) : Filling (Place × List Char) := do
  let s ← name s
  let (p, s) := flags {} s
  let (p, s) ← width p s
  let (p, s) ← precision p s
  match skipSize s with
  | c :: r => return ({ p with letter := c }, r)
  | [] => failure

def fill : Nat → List Char → Filling (List Char)
  | 0, _ => failure
  | _ + 1, [] => do if (← get).isDone then return [] else failure
  | n + 1, '%' :: '%' :: s => do return '%' :: (← fill n s)
  | n + 1, '%' :: s => do
    let (p, s) ← place s
    let some written := p.write (← next) | failure
    return written ++ (← fill n s)
  | n + 1, c :: s => do return c :: (← fill n s)

end Filling

/-- A message with its arguments. One without arguments is taken as it is; nothing is said where
they do not fit. -/
def message? (pattern : String) (args : List Value) : Option String :=
  if args.isEmpty then some pattern
  else
    (((Filling.fill (pattern.length + 1) pattern.toList).run (.ofList args)).map (·.1)).map
      String.ofList

end ClangIndex.Log
