import ClangIndex.Binding.Marshal
import ClangIndex.Binding.Shown

namespace ClangIndex

open Native (Function)

namespace Marshal

def UnsavedFile.actuals (files : List UnsavedFile) : Actual × Actual :=
  (.native (.files (fileArray files)), .native (.int files.length))

def argvActuals (xs : List Text.Bytes) : Actual × Actual :=
  (.native (.argv (textArray xs)), .native (.int xs.length))

end Marshal

open Marshal (UnsavedFile)

namespace TranslationUnit

def spelling (u : Handle) : Binding String :=
  Function.getTranslationUnitSpelling.text [.value (.handle u)]

def cursor (u : Handle) : Binding Cursor :=
  return ⟨← Function.getTranslationUnitCursor.struct [.value (.handle u)], some u⟩

def diagnostics (u : Handle) : Binding Value :=
  Diagnostics.ofOwner u .getNumDiagnostics .getDiagnostic

def optionsOr (preferred : Binding Int) : Value → Binding Value
  | .none => return .int (← preferred)
  | v => return v

/-- The tokens of a range, or between two locations. The array is disposed of at once. -/
def tokens (u : Handle) (locations extent : Value) : Binding Value := do
  let extent ← match extent with
    | .none => do
      let start ← locations.item (.int 0)
      let stop ← locations.item (.int 1)
      Range.between start stop
    | v => pure v
  let array ← Tokens.ofExtent u extent
  Binding.releasing array do return .list (← (Value.handle array).elements)

def reparse (u : Handle) (files options : Value) : Binding Unit := do
  let files ← UnsavedFile.ofValue files
  let options ← optionsOr (Function.defaultReparseOptions.number [.value (.handle u)]) options
  Binding.log .debug "clangbind.translation_unit" ("Reparsing " ++ (← spelling u))
  let options ← options.toInteger
  let (array, count) := UnsavedFile.actuals files
  let code ← Function.reparseTranslationUnit.number
    [.value (.handle u), count, array, .value (.int options)]
  if code ≠ 0 then
    Binding.log .warning "clangbind.translation_unit" ("Reparse failed with code " ++ toString code)
    throw (.notReparsed code)

def save (u : Handle) (filename options : Value) : Binding Unit := do
  let options ← optionsOr (Function.defaultSaveOptions.number [.value (.handle u)]) options
  let path ← filename.toPath
  Binding.log .debug "clangbind.translation_unit" ("Saving translation unit to " ++ (← path.str))
  let options ← options.toInteger
  let code ← Function.saveTranslationUnit.number
    [.value (.handle u), .value filename, .value (.int options)]
  if code ≠ 0 then
    let cause ← Enumeration.saveError.require code
    Binding.log .warning "clangbind.translation_unit"
      ("Saving translation unit failed: " ++ cause.name)
    throw (.notSaved cause)

def completeAt (u : Handle) (path line column files options : Value) : Binding Handle := do
  let files ← UnsavedFile.ofValue files
  let options ← optionsOr (Function.defaultCodeCompleteOptions.number []) options
  let options ← options.toInteger
  let (array, count) := UnsavedFile.actuals files
  let (_, answer) ← Function.codeCompleteAt.invoke
    [.value (.handle u), .value path, .value line, .value column, array, count,
      .value (.int options)]
  CodeCompleteResults.ofAnswer answer (some u)

def ofHandle (index : Handle) (failed : Failure) (warn : Binding Unit) :
    Option Symbol → Binding Handle
  | some s => Handle.create .translationUnit (.handle (some s)) (.unit (.handle index) true)
  | none => do
    warn
    throw failed

end TranslationUnit

namespace Index

def logger : String := "clangbind.index"

def make (excludeDeclarations displayDiagnostics : Value) : Binding Handle := do
  let exclude ← excludeDeclarations.toInteger
  let display ← displayDiagnostics.toInteger
  let s ← Function.createIndex.handle [.value (.int exclude), .value (.int display)]
  Binding.logLazily .debug logger do
    return "Created index (exclude_declarations_from_pch=" ++ (← excludeDeclarations.str) ++
      ", display_diagnostics=" ++ (← displayDiagnostics.str) ++ ")"
  Handle.create .index (.handle s)

def setGlobalOptions (h : Handle) (options : Value) : Binding Unit := do
  let options ← options.toInteger
  Function.cxIndexSetGlobalOptions.run [.value (.handle h), .value (.int options)]

def parse (h : Handle) (path arguments files options : Value) : Binding Handle := do
  let arguments ← Marshal.argv arguments
  let files ← UnsavedFile.ofValue files
  Binding.logLazily .debug logger do
    return "Parsing " ++ (← path.str) ++ " with " ++ toString arguments.length ++ " argument(s)"
  let options ← options.toInteger
  let (argv, argc) := Marshal.argvActuals arguments
  let (array, count) := UnsavedFile.actuals files
  let s ← Function.parseTranslationUnit.handle
    [.value (.handle h), .value path, argv, argc, array, count, .value (.int options)]
  let warn := Binding.logLazily .warning logger do
    return "Error parsing translation unit " ++ (← path.str)
  TranslationUnit.ofHandle h .unitNotParsed warn s

def readUnit (h : Handle) (file : Value) : Binding Handle := do
  let shown ← (← file.toPath).str
  Binding.log .debug logger ("Loading AST file " ++ shown)
  let s ← Function.createTranslationUnit.handle [.value (.handle h), .value file]
  let warn := Binding.log .warning logger ("Error reading AST file " ++ shown)
  TranslationUnit.ofHandle h (.astNotRead shown) warn s

def createUnit (h : Handle) (filename arguments files : Value) : Binding Handle := do
  let arguments ← Marshal.argv arguments
  let files ← UnsavedFile.ofValue files
  Binding.logLazily .debug logger do
    return "Creating translation unit from " ++ (← filename.str)
  let (argv, argc) := Marshal.argvActuals arguments
  let (array, count) := UnsavedFile.actuals files
  let s ← Function.createTranslationUnitFromSourceFile.handle
    [.value (.handle h), .value filename, argc, argv, count, array]
  let warn := Binding.logLazily .warning logger do
    return "Error creating translation unit from " ++ (← filename.str)
  TranslationUnit.ofHandle h .unitNotCreated warn s

def given : Value → Binding Handle
  | .none => make (.bool false) (.bool false)
  | .handle h => if h.cls = .index then pure h else throw Failure.attributeError
  | _ => throw Failure.attributeError

end Index

end ClangIndex
