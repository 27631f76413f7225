import ClangIndex.Failure
import ClangIndex.Text.Blank
import ClangIndex.Text.Utf8

/-!
The files around a tool, as a tree. Paths are walked name by name, so that a name after a missing
directory, or after a file, leads nowhere. A relative path starts at the home of the tree.
-/

namespace ClangIndex.Files

open Text (Bytes)

abbrev Name := List Char

abbrev Location := List Name

inductive Entry
  | file (contents : Bytes)
  | directory
  deriving DecidableEq, Repr, Inhabited

inductive PathFault
  | missing
  | notDirectory
  | isDirectory
  | alreadyThere
  | malformed
  | tooLong
  deriving DecidableEq, Repr, Inhabited

def PathFault.failure : PathFault → Failure
  | .missing => .plain .missingFile
  | .notDirectory => .plain .notDirectory
  | .isDirectory => .plain .directory
  | .alreadyThere => .plain .fileExists
  | .malformed => .plain .value
  | .tooLong => .plain .system

/-- The latest entry for a location counts. -/
structure Tree where
  home : Location := []
  entries : List (Location × Entry) := []
  deriving Inhabited

namespace Tree

/-- What is at a location. The directories above an entry are there with it, and so are those above
the home. -/
def entryAt? (t : Tree) (l : Location) : Option Entry :=
  match t.entries.find? fun e => e.1 == l with
  | some e => some e.2
  | none =>
    if l.isPrefixOf t.home || t.entries.any fun e => l.isPrefixOf e.1 then some .directory else none

def put (t : Tree) (l : Location) (e : Entry) : Tree := { t with entries := (l, e) :: t.entries }

theorem entryAt?_put (t : Tree) (l : Location) (e : Entry) : (t.put l e).entryAt? l = some e := by
  simp [put, entryAt?]

def maxNameLength : Nat := 255

def pathLimit : Nat := 4096

def step (t : Tree) (l : Location) (n : Name) : Except PathFault Location :=
  match t.entryAt? l with
  | none => .error .missing
  | some (.file _) => .error .notDirectory
  | some .directory =>
    if n = [] ∨ n = ['.'] then .ok l
    else if n = ['.', '.'] then .ok l.dropLast
    else if maxNameLength < (Text.Utf8.encode n).length then .error .tooLong
    else .ok (l ++ [n])

/-- Where a path leads, whether anything is there or not. -/
def resolve (t : Tree) (path : List Char) : Except PathFault Location :=
  if path = [] then .error .missing
  else if path.contains '\x00' then .error .malformed
  else if pathLimit ≤ (Text.Utf8.encode path).length then .error .tooLong
  else (Text.splitAt '/' path).foldlM t.step (if path.head? = some '/' then [] else t.home)

def find (t : Tree) (path : List Char) : Except PathFault Entry := do
  match t.entryAt? (← t.resolve path) with
  | some e => pure e
  | none => throw .missing

def isFile (t : Tree) (path : List Char) : Bool :=
  match t.find path with
  | .ok (.file _) => true
  | _ => false

def isDirectory (t : Tree) (path : List Char) : Bool :=
  match t.find path with
  | .ok .directory => true
  | _ => false

def holds (t : Tree) (path : List Char) : Bool := t.isFile path || t.isDirectory path

def read (t : Tree) (path : List Char) : Except PathFault Bytes := do
  match ← t.find path with
  | .file b => pure b
  | .directory => throw .isDirectory

def write (t : Tree) (path : List Char) (b : Bytes) : Except PathFault Tree := do
  let l ← t.resolve path
  match t.entryAt? l with
  | some .directory => throw .isDirectory
  | _ => pure (t.put l (.file b))

def withoutEndSlashes (path : List Char) : List Char :=
  (path.reverse.dropWhile (· = '/')).reverse

def makeDirectory (t : Tree) (path : List Char) : Except PathFault Tree := do
  let l ← t.resolve (if path.all (· = '/') then path else withoutEndSlashes path)
  if (t.entryAt? l).isSome then throw .alreadyThere else pure (t.put l .directory)

def split (path : List Char) : List Char × List Char :=
  let tail := (path.reverse.takeWhile (· ≠ '/')).reverse
  let head := path.take (path.length - tail.length)
  (if head.all (· = '/') then head else withoutEndSlashes head, tail)

def ensureDirectory (t : Tree) (path : List Char) : Except PathFault Tree :=
  match t.makeDirectory path with
  | .ok t => .ok t
  | .error e => if t.isDirectory path then .ok t else .error e

def makeDirectoriesWithin : Nat → Tree → List Char → Except PathFault Tree
  | 0, _, _ => .error .missing
  | n + 1, t, path =>
    let (head, tail) := split path
    let (head, tail) := if tail = [] then split head else (head, tail)
    if head ≠ [] ∧ tail ≠ [] ∧ !t.holds head then do
      let t ← makeDirectoriesWithin n t head
      if tail = ['.'] then pure t else t.ensureDirectory path
    else t.ensureDirectory path

def makeDirectories (t : Tree) (path : List Char) : Except PathFault Tree :=
  makeDirectoriesWithin (path.length + 1) t path

end Tree

end ClangIndex.Files
