import ClangIndex.Native.Function
import ClangIndex.Value

/-!
Calls of the native side and its answers. The native side is any function of the calls made so far.
-/

namespace ClangIndex.Native

open Text (Bytes)

/-- An argument after its conversion to C. Arrays come with their items. A text of wide characters
and a record that is no symbol's stand only where a handle belongs. -/
inductive Argument
  | int (n : Int)
  | struct (s : Symbol)
  | handle (h : Option Symbol)
  | text (b : Option Bytes)
  | wide (s : String)
  | record (typeName : String)
  | argv (xs : Option (List Bytes))
  | files (xs : Option (List (Bytes × Bytes)))
  deriving DecidableEq, Repr

structure Call where
  function : Function
  arguments : List Argument
  deriving DecidableEq, Repr

inductive Result
  | default
  | int (n : Int)
  | struct (s : Symbol)
  | handle (h : Option Symbol)
  | text (b : Option Bytes)
  deriving DecidableEq, Repr, Inhabited

structure PlatformEntry where
  platform : Option Bytes := none
  introduced : Version := ⟨-1, -1, -1⟩
  deprecated : Version := ⟨-1, -1, -1⟩
  obsoleted : Version := ⟨-1, -1, -1⟩
  unavailable : Int := 0
  message : Option Bytes := none
  deriving Repr, Inhabited

def PlatformEntry.blank : PlatformEntry where
  introduced := ⟨0, 0, 0⟩
  deprecated := ⟨0, 0, 0⟩
  obsoleted := ⟨0, 0, 0⟩

/-- What the native side gives back: a result, and what it writes to the caller's memory. An output
that is `none` is not written. -/
structure Answer where
  result : Result := .default
  file : Option (Option Symbol) := none
  line : Option Int := none
  column : Option Int := none
  offset : Option Int := none
  filename : Option (Option Bytes) := none
  uniqueId : Option (Nat × Nat × Nat) := none
  disable : Option (Option Bytes) := none
  range : Option Symbol := none
  code : Option Int := none
  array : Option Symbol := none
  count : Option Int := none
  items : List Symbol := []
  cursors : List Symbol := []
  alwaysDeprecated : Option Int := none
  deprecatedMessage : Option (Option Bytes) := none
  alwaysUnavailable : Option Int := none
  unavailableMessage : Option (Option Bytes) := none
  platforms : List PlatformEntry := []
  references : List (Symbol × Symbol) := []
  broken : Option Int := none
  completions : List (Int × Option Symbol) := []
  order : Option (List Nat) := none
  deriving Inhabited

/-- The native side: the kinds of its cursors and types, the children of its cursors, and its
answer to a call after the earlier calls, the latest first. Children nest at most `depth` deep. -/
structure Side where
  cursorKind : Symbol → Int := fun _ => 0
  typeKind : Symbol → Int := fun _ => 0
  children : Symbol → List Symbol := fun _ => []
  depth : Nat := 1
  answer : List Call → Call → Answer := fun _ _ => {}

instance : Inhabited Side := ⟨{}⟩

/-- The number that stands for a result the native side leaves open: whether two structures are the
same, whether one is all zero, else zero. -/
def defaultNumber (c : Call) : Int :=
  match c.function, c.arguments with
  | .equalLocations, [.struct a, .struct b] | .equalRanges, [.struct a, .struct b]
  | .equalCursors, [.struct a, .struct b] | .equalTypes, [.struct a, .struct b] =>
    if a = b then 1 else 0
  | .cursorIsNull, [.struct a] | .rangeIsNull, [.struct a] => if a = zeroSymbol then 1 else 0
  | _, _ => 0

namespace Answer

def number (a : Answer) (c : Call) : Int :=
  let n := match a.result with
    | .int n => n
    | _ => defaultNumber c
  match c.function.signature.result.bind CType.width? with
  | some w => w.wrap n
  | none => n

def struct (a : Answer) : Symbol :=
  match a.result with
  | .struct s => s
  | _ => zeroSymbol

def handle (a : Answer) : Option Symbol :=
  match a.result with
  | .handle h => h
  | _ => none

def text (a : Answer) : Option Bytes :=
  match a.result with
  | .text b => b
  | _ => none

end Answer

end ClangIndex.Native
