import ClangIndex.Binding.Availability
import ClangIndex.Binding.Layout
import ClangIndex.Binding.Source
import ClangIndex.Value.Conversion

namespace ClangIndex

open Native (Function)

def indicesBelow (n : Int) : List Int := (List.range n.toNat).map Int.ofNat

/-- The items of an array that the native side wrote, zeroed from where it stopped. -/
def padded (count : Nat) (items : List Symbol) : List Symbol :=
  items.take count ++ List.replicate (count - items.length) zeroSymbol

theorem getD_padded {count i : Nat} (lt : i < count) (items : List Symbol) :
    (padded count items).getD i zeroSymbol = items.getD i zeroSymbol := by
  simp only [padded, List.getD_eq_getElem?_getD]
  by_cases written : i < items.length
  · rw [List.getElem?_append_left (by simp; omega), List.getElem?_take_of_lt lt]
  · have missing : items[i]? = none := List.getElem?_eq_none (Nat.le_of_not_lt written)
    rw [List.getElem?_append_right (by simp; omega), List.getElem?_replicate, missing]
    split <;> rfl

namespace Cursor

def kind (c : Cursor) : Binding Member :=
  return ⟨.cursorKind, Number.Width.int32.wrap ((← read).cursorKind c.symbol)⟩

def equal (a b : Cursor) : Binding Bool :=
  return (← Function.equalCursors.number [.value (.cursor a), .value (.cursor b)]) != 0

def isNull (c : Cursor) : Binding Bool :=
  return (← Function.cursorIsNull.number [.value (.cursor c)]) != 0

def spelling (c : Cursor) : Binding String := Function.getCursorSpelling.text [.value (.cursor c)]

def hash (c : Cursor) : Binding Int := Function.hashCursor.number [.value (.cursor c)]

/-- The unit that the cursor remembers, else one that the native side names and still owns. -/
def translationUnit (c : Cursor) : Binding Value := do
  match c.unit with
  | some h => return .handle h
  | none =>
    match ← Function.cursorGetTranslationUnit.handle [.value (.cursor c)] with
    | none => return .none
    | some s =>
      return .handle (← Handle.create .translationUnit (.handle (some s)) (.unit .none false))

def argument (c : Cursor) (i : Value) : Binding Value :=
  Function.cursorGetArgument.call [.value (.cursor c), .value i]

def arguments (c : Cursor) : Binding Value := do
  let n ← Function.cursorGetNumArguments.number [.value (.cursor c)]
  return .list (← (indicesBelow n).mapM fun i => c.argument (.int i))

def overriddenCursors (c : Cursor) : Binding Handle := do
  let (_, answer) ← Function.getOverriddenCursors.invoke [.value (.cursor c)]
  let count := (Number.Width.uint32.wrap (answer.count.getD 0)).toNat
  Handle.create .overriddenCursors (.handle answer.array)
    (.overridden c.unit (if answer.array.isSome then count else 0) (padded count answer.items))

def referenceNameRange (c : Cursor) (flags piece : Value) : Binding Value := do
  let flags ← flags.toInteger
  Function.getCursorReferenceNameRange.call
    [.value (.cursor c), .value (.int flags), .value piece]

def platformAvailability (c : Cursor) : Binding Nat := do
  let f := Function.getCursorPlatformAvailability
  let (call, first) ← f.invoke [.value (.cursor c), .value (.int 0)]
  discard (Binding.copying
    (ForeignString.copyBoth first.deprecatedMessage first.unavailableMessage)
    (ForeignString.settles_copyBoth _ _))
  let count := (first.number call).toNat
  let (_, second) ← f.invoke [.value (.cursor c), .value (.int count)]
  Availability.receive count first second

end Cursor

namespace TypeRef

def kind (t : TypeRef) : Binding Member :=
  return ⟨.typeKind, Number.Width.int32.wrap ((← read).typeKind t.symbol)⟩

def isValid (t : TypeRef) : Binding Bool := return (← t.kind).number != 0

def spelling (t : TypeRef) : Binding String := Function.getTypeSpelling.text [.value (.type t)]

def equal (a b : TypeRef) : Binding Bool :=
  return (← Function.equalTypes.number [.value (.type a), .value (.type b)]) != 0

def argumentTypes (t : TypeRef) : Binding Value := do
  let n ← Function.getNumArgTypes.number [.value (.type t)]
  return .list (← (indicesBelow n).mapM fun i =>
    Function.getArgType.call [.value (.type t), .value (.int i)])

end TypeRef

namespace Comment

def kind (s : Symbol) : Binding Member := do
  Enumeration.commentKind.require (← Function.commentGetKind.number [.value (.comment s)])

def isNull (s : Symbol) : Binding Bool := return (← kind s).number == 0

def children (s : Symbol) : Binding Value := do
  let n ← Function.commentGetNumChildren.number [.value (.comment s)]
  return .list (← (indicesBelow n).mapM fun i =>
    Function.commentGetChild.call [.value (.comment s), .value (.int i)])

end Comment

end ClangIndex
