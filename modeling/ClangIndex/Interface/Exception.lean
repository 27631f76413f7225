import ClangIndex.Interface.Objects

namespace ClangIndex.ErrorClass

structure Instance where
  message : String
  attributes : List (String × Value) := []

def plainMessage : List Value → Binding String
  | [] => pure ""
  | [v] => v.str
  | vs => (Value.tuple vs).repr

def part (v : Value) (name : String) : Binding Value := do (← v.named name).get

def textOf (v : Value) (name : String) : Binding String := do (← part v name).str

def messageOr (message : Value) (m : Binding String) : Binding String := do
  if ← message.holds then message.str else m

def causeText (e : Value) : Binding String := do
  let n ← (← part e "value").toInteger
  return "Error " ++ toString n ++ " (" ++ (← textOf e "name") ++ ")"

def reparseText (code : Value) : Binding String := do
  return "Reparse failed with code " ++ (← code.str)

def databaseText (e : Value) : Binding String := do
  return "Compilation database error: " ++ (← textOf e "name")

def instanceOf (message : String) (name : String) (v : Value) : Instance := ⟨message, [(name, v)]⟩

def make (c : ErrorClass) (arguments : List Value) : Binding Instance :=
  match c, arguments with
  | .library, vs | .disposedHandle, vs | .unitLoad, vs => do return ⟨← plainMessage vs, []⟩
  | .unitReparse, [code] => do return instanceOf (← reparseText code) "code" code
  | .unitReparse, [code, message] => do
    return instanceOf (← messageOr message (reparseText code)) "code" code
  | .unitSave, [e] => do return instanceOf (← causeText e) "save_error" e
  | .unitSave, [e, message] => do
    if ← message.holds then
      let cause ← causeText e
      return instanceOf (cause ++ ": " ++ (← message.str)) "save_error" e
    else return instanceOf (← causeText e) "save_error" e
  | .database, [e] => do return instanceOf (← databaseText e) "cdb_error" e
  | .database, [e, message] => do
    return instanceOf (← messageOr message (databaseText e)) "cdb_error" e
  | .typeLayout, [kind] => do
    return instanceOf ("TypeLayout=" ++ (← textOf kind "spelling")) "kind" kind
  | .fileUniqueID, [code] => do
    return instanceOf ("Could not get FileUniqueID (err=" ++ (← code.str) ++ ")") "code" code
  | _, _ => throw Failure.typeError

end ClangIndex.ErrorClass
