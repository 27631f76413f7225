import ClangIndex.Value

namespace ClangIndex

open Native (HandleClass)

inductive ErrorClass
  | library
  | disposedHandle
  | unitLoad
  | unitReparse
  | unitSave
  | database
  | typeLayout
  | fileUniqueID
  deriving DecidableEq, Repr

namespace ErrorClass

def name : ErrorClass → String
  | .library => "LibclangError"
  | .disposedHandle => "DisposedHandleError"
  | .unitLoad => "TranslationUnitLoadError"
  | .unitReparse => "TranslationUnitReparseError"
  | .unitSave => "TranslationUnitSaveError"
  | .database => "CompilationDatabaseError"
  | .typeLayout => "TypeLayoutError"
  | .fileUniqueID => "FileUniqueIDError"

def all : List ErrorClass := [
    .library, .disposedHandle, .unitLoad, .unitReparse, .unitSave, .database, .typeLayout,
    .fileUniqueID]

def ofName? (s : String) : Option ErrorClass := all.find? fun c => c.name == s

def bases : ErrorClass → List String
  | .library => ["RuntimeError"]
  | _ => ["LibclangError", "RuntimeError"]

end ErrorClass

/-- Errors that carry no message of the interface. -/
inductive PlainError
  | type
  | value
  | attribute
  | key
  | index
  | argument
  | overflow
  | system
  | decoding
  | directory
  | missingModule
  | recursion
  | assertion
  | runtime
  | fileExists
  | notDirectory
  | missingFile
  deriving DecidableEq, Repr

namespace PlainError

def name : PlainError → String
  | .type => "TypeError"
  | .value => "ValueError"
  | .attribute => "AttributeError"
  | .key => "KeyError"
  | .index => "IndexError"
  | .argument => "ArgumentError"
  | .overflow => "OverflowError"
  | .system => "OSError"
  | .decoding => "UnicodeDecodeError"
  | .directory => "IsADirectoryError"
  | .missingModule => "ModuleNotFoundError"
  | .recursion => "RecursionError"
  | .assertion => "AssertionError"
  | .runtime => "RuntimeError"
  | .fileExists => "FileExistsError"
  | .notDirectory => "NotADirectoryError"
  | .missingFile => "FileNotFoundError"

end PlainError

inductive Failure
  | plain (e : PlainError)
  | disposed (c : HandleClass)
  | tokensDisposed
  | platformDisposed
  | ownerDisposed (owner : HandleClass)
  | unitNotParsed
  | unitNotCreated
  | astNotRead (name : String)
  | notReparsed (code : Int)
  | notSaved (cause : Member)
  | databaseNotLoaded (cause : Member)
  | layoutRejected (cause : Member)
  | noUniqueID (code : Int)
  | libraryNotLoaded (attempts : List (String × String))
  | symbolMissing (text : String)
  | settingFrozen (what : String)
  | notText (typeName : String)
  | notInteropText (typeName : String)
  | notMember (value : String) (kind : String)
  | notVisitAnswer (value : String)
  | notReferenceAnswer (value : String)
  | outOfRange (i : Int)
  | fileMissing (path : String)
  | invalidSettings (message : String)
  | raised (kind message : String)

namespace Failure

def class? : Failure → Option ErrorClass
  | .disposed _ | .tokensDisposed | .platformDisposed | .ownerDisposed _ => some .disposedHandle
  | .unitNotParsed | .unitNotCreated | .astNotRead _ => some .unitLoad
  | .notReparsed _ => some .unitReparse
  | .notSaved _ => some .unitSave
  | .databaseNotLoaded _ => some .database
  | .layoutRejected _ => some .typeLayout
  | .noUniqueID _ => some .fileUniqueID
  | .libraryNotLoaded _ | .symbolMissing _ | .settingFrozen _ => some .library
  | _ => none

def kind : Failure → String
  | .plain e => e.name
  | .notText _ | .notInteropText _ | .notVisitAnswer _ => "TypeError"
  | .notMember .. | .notReferenceAnswer _ => "ValueError"
  | .outOfRange _ => "IndexError"
  | .fileMissing _ => "FileNotFoundError"
  | .invalidSettings _ => "ConfigValidationError"
  | .raised k _ => k
  | f => match f.class? with
    | some c => c.name
    | none => "RuntimeError"

def message? : Failure → Option String
  | .plain _ => none
  | .disposed c => some (c.name ++ " has already been disposed")
  | .tokensDisposed => some "Tokens have already been disposed"
  | .platformDisposed => some "PlatformAvailability has already been disposed"
  | .ownerDisposed c => some ("Diagnostic belongs to a disposed " ++ c.name)
  | .unitNotParsed => some "Error parsing translation unit."
  | .unitNotCreated => some "Error creating translation unit from source file."
  | .astNotRead n => some ("Error reading AST file: " ++ n)
  | .notReparsed code => some ("Reparse failed with code " ++ toString code)
  | .notSaved m =>
    some ("Error " ++ toString m.number ++ " (" ++ m.name ++ "): Error saving TU.")
  | .databaseNotLoaded _ => some "CompilationDatabase loading failed"
  | .layoutRejected m => some ("TypeLayout=" ++ m.spelling?.getD m.name)
  | .noUniqueID code => some ("Could not get FileUniqueID (err=" ++ toString code ++ ")")
  | .libraryNotLoaded attempts =>
    some ("Unable to load libclang (" ++
      "; ".intercalate (attempts.map fun (file, text) => file ++ ": " ++ text) ++
      "). To provide a path to libclang use Config.set_library_path(), " ++
      "Config.set_library_file() or the CLANGBIND_LIBRARY_FILE / " ++
      "CLANGBIND_LIBRARY_PATH environment variables.")
  | .symbolMissing text =>
    some (text ++ ". Please ensure that the bindings are compatible with " ++
      "your libclang version.")
  | .settingFrozen what =>
    some (what ++ " must be set before using any other functionalities in libclang.")
  | .notText t => some ("Cannot convert " ++ t ++ " to a C string")
  | .notInteropText t => some ("Cannot convert '" ++ t ++ "' to 'c_interop_string'")
  | .notMember v k => some (v ++ " is not a valid " ++ k)
  | .notVisitAnswer v => some ("visitor must return a ChildVisitResult, got " ++ v)
  | .notReferenceAnswer v =>
    some ("reference visitor must return CONTINUE or BREAK, got " ++ v)
  | .outOfRange i => some (toString i)
  | .fileMissing p => some ("could not open file [" ++ p ++ "]")
  | .invalidSettings m => some m
  | .raised _ m => some m

def typeError : Failure := .plain .type
def valueError : Failure := .plain .value
def attributeError : Failure := .plain .attribute
def argumentError : Failure := .plain .argument

end Failure

end ClangIndex
