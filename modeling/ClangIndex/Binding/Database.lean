import ClangIndex.Binding.Bounds
import ClangIndex.Binding.Shown

namespace ClangIndex

open Native (Function)

namespace CompilationDatabase

def cause (code : Member) : Member :=
  if code.name = "NO_ERROR" then
    (Enumeration.compilationDatabaseErrorCode.ofMemberName? "CAN_NOT_LOAD_DATABASE").getD code
  else code

def fromDirectory (directory : Value) : Binding Handle := do
  let shown ← (← directory.toPath).str
  Binding.log .debug "clangbind.compilation_db" ("Loading compilation database from " ++ shown)
  let (_, answer) ← Function.compilationDatabaseFromDirectory.invoke [.value directory]
  let s := answer.handle
  let code ← Enumeration.compilationDatabaseErrorCode.require
    (Number.Width.uint32.wrap (answer.code.getD 0))
  if code.name = "NO_ERROR" ∧ s.isSome then Handle.create .compilationDatabase (.handle s)
  else
    if s.isSome then discard (Function.compilationDatabaseDispose.invokeBare (.handle s))
    Binding.log .warning "clangbind.compilation_db"
      ("Could not load compilation database from " ++ shown)
    throw (.databaseNotLoaded (cause code))

def commandsOf (db : Handle) (filename : Value) : Binding Handle := do
  let s ← Function.compilationDatabaseGetCompileCommands.handle
    [.value (.handle db), .value filename]
  Handle.create .compileCommands (.handle s) (.commands (.handle db))

def allCommands (db : Handle) : Binding Handle := do
  let s ← Function.compilationDatabaseGetAllCompileCommands.handle [.value (.handle db)]
  Handle.create .compileCommands (.handle s) (.commands (.handle db))

end CompilationDatabase

namespace CompileCommands

def size (h : Handle) : Binding Nat := do
  match ← h.symbol with
  | none => return 0
  | some _ => return (← Function.compileCommandsGetSize.number [.value (.handle h)]).toNat

def command (h : Handle) (i : Value) : Binding Value := do
  i.ensureWithin (size h)
  match ← Function.compileCommandsGetCommand.handle [.value (.handle h), .value i] with
  | none => throw i.outOfRange
  | some s =>
    let held : Held := .handle (some s)
    return .handle (← Handle.create .compileCommand held (.command (.handle h)))

/-- The commands in order. The size is asked first, and asked again as a hint of the length. -/
def commands (h : Handle) : Binding (List Value) := do
  let _ ← size h
  let n ← size h
  (List.range n).mapM fun (i : Nat) => command h (.int i)

end CompileCommands

namespace CompileCommand

def arguments (h : Handle) : Binding (List String) := do
  let n ← Function.compileCommandGetNumArgs.number [.value (.handle h)]
  (indicesBelow n).mapM fun i =>
    Function.compileCommandGetArg.text [.value (.handle h), .value (.int i)]

end CompileCommand

end ClangIndex
