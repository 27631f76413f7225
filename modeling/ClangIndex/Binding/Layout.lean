import ClangIndex.Binding.Call

namespace ClangIndex.Layout

open Native (Function)

def refuse (n : Int) : Binding Member := Enumeration.typeLayoutErrorKind.require n

def check (n : Int) : Binding Value :=
  if n < 0 then do
    let kind ← refuse n
    Binding.log .debug "clangbind.cxtype"
      ("Type layout query rejected: " ++ kind.spelling?.getD kind.name)
    throw (.layoutRejected kind)
  else pure (.int n)

def sizeOf (t : TypeRef) : Binding Value := do
  check (← Function.typeGetSizeOf.number [.value (.type t)])

def alignOf (t : TypeRef) : Binding Value := do
  check (← Function.typeGetAlignOf.number [.value (.type t)])

def offsetOf (t : TypeRef) (field : Value) : Binding Value := do
  check (← Function.typeGetOffsetOf.number [.value (.type t), .value field])

def offsetOfField (c : Cursor) : Binding Value := do
  let n ← Function.cursorGetOffsetOfField.number [.value (.cursor c)]
  if n < 0 then throw (.layoutRejected (← refuse n)) else return .int n

end ClangIndex.Layout
