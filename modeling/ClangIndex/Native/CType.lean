import ClangIndex.Number.Integer

namespace ClangIndex.Native

inductive HandleClass
  | index
  | translationUnit
  | file
  | module
  | diagnostic
  | tokens
  | cursorSet
  | overriddenCursors
  | completionString
  | codeCompleteResults
  | compilationDatabase
  | compileCommands
  | compileCommand
  deriving DecidableEq, Repr, Inhabited

namespace HandleClass

def name : HandleClass → String
  | .index => "Index"
  | .translationUnit => "TranslationUnit"
  | .file => "File"
  | .module => "Module"
  | .diagnostic => "Diagnostic"
  | .tokens => "Tokens"
  | .cursorSet => "CursorSet"
  | .overriddenCursors => "OverriddenCursors"
  | .completionString => "CompletionString"
  | .codeCompleteResults => "CodeCompleteResults"
  | .compilationDatabase => "CompilationDatabase"
  | .compileCommands => "CompileCommands"
  | .compileCommand => "CompileCommand"

end HandleClass

inductive Struct
  | string
  | unsavedFile
  | fileUniqueID
  | sourceLocation
  | sourceRange
  | type
  | cursor
  | token
  | comment
  | version
  | platformAvailability
  | completionResult
  | codeCompleteResultsData
  | cursorAndRangeVisitor
  deriving DecidableEq, Repr, Inhabited

namespace Struct

def name : Struct → String
  | .string => "CXString"
  | .unsavedFile => "UnsavedFile"
  | .fileUniqueID => "FileUniqueID"
  | .sourceLocation => "SourceLocation"
  | .sourceRange => "SourceRange"
  | .type => "Type"
  | .cursor => "Cursor"
  | .token => "Token"
  | .comment => "Comment"
  | .version => "Version"
  | .platformAvailability => "PlatformAvailability"
  | .completionResult => "CompletionResult"
  | .codeCompleteResultsData => "_CodeCompleteResultsData"
  | .cursorAndRangeVisitor => "_CursorAndRangeVisitor"

def all : List Struct := [
    .string, .unsavedFile, .fileUniqueID, .sourceLocation, .sourceRange, .type, .cursor, .token,
    .comment, .version, .platformAvailability, .completionResult, .codeCompleteResultsData,
    .cursorAndRangeVisitor]

def ofName? (s : String) : Option Struct := all.find? fun t => t.name == s

end Struct

inductive CType
  | int32
  | uint32
  | int64
  | uint64
  | voidPointer
  | charPointer
  | text
  | object
  | callback
  | cursorKind
  | struct (s : Struct)
  | wrapper (c : HandleClass)
  | pointer (t : CType)
  | array (t : CType) (length : Nat)
  deriving DecidableEq, Repr, Inhabited

namespace CType

abbrev handle : CType := .pointer .voidPointer

def name : CType → String
  | .int32 => "int32"
  | .uint32 => "uint32"
  | .int64 => "int64"
  | .uint64 => "uint64"
  | .voidPointer => "void*"
  | .charPointer => "char*"
  | .text => "c_interop_string"
  | .object => "object"
  | .callback => "callback"
  | .cursorKind => "CursorKind"
  | .struct s => s.name
  | .wrapper c => c.name
  | .pointer t => "*" ++ t.name
  | .array t n => t.name ++ "[" ++ toString n ++ "]"

def width? : CType → Option Number.Width
  | .int32 => some .int32
  | .uint32 => some .uint32
  | .int64 => some .int64
  | .uint64 => some .uint64
  | _ => none

end CType

namespace Struct

def fields : Struct → List (String × CType)
  | .string => [("data", .voidPointer), ("private_flags", .uint32)]
  | .unsavedFile => [("Filename", .charPointer), ("Contents", .charPointer), ("Length", .uint64)]
  | .fileUniqueID => [("_data", .array .uint64 3)]
  | .sourceLocation => [("ptr_data", .array .voidPointer 2), ("int_data", .uint32)]
  | .sourceRange =>
    [("ptr_data", .array .voidPointer 2), ("begin_int_data", .uint32), ("end_int_data", .uint32)]
  | .type => [("_kind_id", .int32), ("data", .array .voidPointer 2)]
  | .cursor => [("_kind_id", .int32), ("xdata", .int32), ("data", .array .voidPointer 3)]
  | .token => [("int_data", .array .uint32 4), ("ptr_data", .voidPointer)]
  | .comment => [("ASTNode", .voidPointer), ("TranslationUnit", .voidPointer)]
  | .version => [("Major", .int32), ("Minor", .int32), ("Subminor", .int32)]
  | .platformAvailability =>
    [("Platform", .struct .string), ("Introduced", .struct .version),
      ("Deprecated", .struct .version), ("Obsoleted", .struct .version), ("Unavailable", .int32),
      ("Message", .struct .string)]
  | .completionResult => [("cursorKind", .int32), ("completionString", .handle)]
  | .codeCompleteResultsData =>
    [("Results", .pointer (.struct .completionResult)), ("NumResults", .uint32)]
  | .cursorAndRangeVisitor => [("context", .object), ("visit", .callback)]

end Struct

def alignUp (unit n : Nat) : Nat := (n + unit - 1) / unit * unit

def CType.extent (known : Struct → Nat × Nat) : CType → Nat × Nat
  | .int32 | .uint32 => (4, 4)
  | .struct s => known s
  | .array t n => let (size, unit) := t.extent known; (n * size, unit)
  | _ => (8, 8)

/-- Size and alignment of a structure whose fields nest at most so deep. -/
def Struct.extent : Nat → Struct → Nat × Nat
  | 0, _ => (0, 1)
  | depth + 1, s =>
    let (size, unit) := s.fields.foldl
      (fun (size, unit) f =>
        let (n, u) := f.2.extent (Struct.extent depth)
        (alignUp u size + n, max unit u))
      (0, 1)
    (alignUp unit size, unit)

structure Field where
  name : String
  type : CType
  offset : Nat
  size : Nat
  deriving Repr

namespace Struct

def size (s : Struct) : Nat := (s.extent 2).1

def layoutFrom (offset : Nat) : List (String × CType) → List Field
  | [] => []
  | (n, t) :: r =>
    let (size, unit) := t.extent (Struct.extent 2)
    let here := alignUp unit offset
    ⟨n, t, here, size⟩ :: layoutFrom (here + size) r

def layout (s : Struct) : List Field := layoutFrom 0 s.fields

end Struct

end ClangIndex.Native
