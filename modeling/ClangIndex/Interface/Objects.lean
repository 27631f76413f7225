import ClangIndex.Binding.TranslationUnit
import ClangIndex.Interface.Structures
import ClangIndex.Text.Path

namespace ClangIndex

open Native (Function HandleClass)

namespace Interface

open Attribute

def parameterOf : Value → Binding Value
  | .handle h => h.pointer
  | v => pure v

/-- An object around a pointer, which stays the pointer of the object; without a pointer it counts
as disposed of. -/
def around (cls : HandleClass) (role : Role) (pointer : Value)
    (fits : role.fits cls = true := by exact Eq.refl true) : Binding Value := do
  let held : Option Held ← match pointer with
    | .none => pure none
    | .object (.pointer _ s) _ => pure (some (.handle s))
    | .handle h => some <$> h.held
    | _ => pure (some (.handle none))
  let own := match pointer with
    | .object _ id => if id = .passing then none else some id
    | _ => none
  return .handle (← Handle.make { cls, held, role, pointer := own, fits })

def aroundSome (cls : HandleClass) (fits : Role.plain.fits cls = true) (pointer _ : Value) :
    Binding Value := do
  if ← pointer.holds then around cls .plain pointer fits else return .none

def diagnosticOfResult (pointer arguments : Value) : Binding Value := do
  let owner ← if ← arguments.holds then arguments.item (.int 0) else pure .none
  around .diagnostic (.diagnostic (match owner with
    | .handle h => some h
    | _ => none)) pointer

def resultsOfResult (pointer _ : Value) : Binding Value := do
  if !(← pointer.holds) then CodeCompleteResults.warn
  around .codeCompleteResults (.completions none) pointer

def ofAnyHandle (h : Handle) : List (String × Attribute) := [
    ("disposed", reads World.now fun w => .bool (w.isDisposed h)),
    ("obj", .property h.pointer),
    ("from_param", method1 (required "value") parameterOf),
    ("ensure_alive", method0 (done h.ensureAlive)),
    ("dispose", method0 (done h.dispose))]

def ofIndex (h : Handle) : List (String × Attribute) :=
  let self := Value.handle h
  [ ("create", .function "Index.create" ⟨[optional "exclude_decls" (.bool false)], fun v =>
      Value.handle <$> Index.make v (.bool false)⟩),
    ("global_options",
      .field (Function.cxIndexGetGlobalOptions.ask [self] (.flags .globalOptions))
        (Index.setGlobalOptions h)),
    ("parse", .method ⟨[required "path", optional "args", optional "unsaved_files",
        optional "options" (.flags .translationUnitFlags 0)],
      fun path args files options => Value.handle <$> Index.parse h path args files options⟩),
    ("create_translation_unit", method1 (required "ast_file") fun file =>
      Value.handle <$> Index.readUnit h file),
    ("create_translation_unit_from_source_file", .method
      ⟨[required "filename", optional "args", optional "unsaved_files"],
      fun filename args files => Value.handle <$> Index.createUnit h filename args files⟩)]

def unitFromSource : Method where
  parameters := [required "filename", optional "args", optional "unsaved_files",
    optional "options" (.flags .translationUnitFlags 0), optional "index"]
  action := fun filename args files options index => (do
    let index ← Index.given index
    return .handle (← Index.parse index filename args files options) : Binding Value)

def unitFromAstFile : Method where
  parameters := [required "filename", optional "index"]
  action := fun filename index => (do
    let index ← Index.given index
    return .handle (← Index.readUnit index filename) : Binding Value)

def keptValue (h : Handle) : Attribute :=
  .field (return ((← World.now).role h).value) fun v =>
    Binding.update (·.setHandle h (.exchange v)) (·.accounts_exchange h v)

def ofUnit (h : Handle) : List (String × Attribute) :=
  let self := Value.handle h
  [ ("index", keptValue h),
    ("from_source", .method unitFromSource),
    ("from_ast_file", .method unitFromAstFile),
    ("is_valid", method0 (Value.bool <$> h.isValid)),
    ("spelling", asks .getTranslationUnitSpelling self),
    ("cursor", asks .getTranslationUnitCursor self),
    ("file", asksWith ["name"] .getFile self),
    ("get_file", asksWith ["name"] .getFile self),
    ("is_file_multiple_include_guarded",
      asksWith ["file"] .isFileMultipleIncludeGuarded self .truth),
    ("cursor_at", asksWith ["location"] .getCursor self),
    ("location", asksWith ["file", "line", "column"] .getLocation self),
    ("location_for_offset", asksWith ["file", "offset"] .getLocationForOffset self),
    ("diagnostics", .property (TranslationUnit.diagnostics h)),
    ("default_reparse_options", asks .defaultReparseOptions self (.flags .reparseFlags)),
    ("default_save_options", asks .defaultSaveOptions self (.flags .saveTranslationUnitFlags)),
    ("reparse", method2 (optional "unsaved_files") (optional "options") fun files options =>
      done (TranslationUnit.reparse h files options)),
    ("save", method2 (required "filename") (optional "options") fun filename options =>
      done (TranslationUnit.save h filename options)),
    ("complete_at", .method ⟨[required "path", required "line", required "column",
        optional "unsaved_files", optional "options"],
      fun path line column files options =>
        Value.handle <$> TranslationUnit.completeAt h path line column files options⟩),
    ("num_top_level_headers", asksWith ["module"] .moduleGetNumTopLevelHeaders self),
    ("top_level_header", asksWith ["module", "i"] .moduleGetTopLevelHeader self),
    ("tokenize", method1 (required "extent") fun extent =>
      Value.handle <$> Tokens.ofExtent h extent),
    ("get_tokens", method2 (optional "locations") (optional "extent") (TranslationUnit.tokens h)),
    ("token_spelling", asksWith ["token"] .getTokenSpelling self),
    ("token_location", asksWith ["token"] .getTokenLocation self),
    ("token_extent", asksWith ["token"] .getTokenExtent self)]

def ofFile (h : Handle) : List (String × Attribute) := [
    ofResult "File.from_result" (aroundSome .file rfl),
    ("name", asks .getFileName (.handle h)),
    ("mod_time", .property (File.modificationTime h)),
    ("unique_id", method0 (File.uniqueId h))]

def ofModule (h : Handle) : List (String × Attribute) :=
  let self := Value.handle h
  [ ofResult "Module.from_result" (fun pointer _ => around .module .plain pointer),
    ("is_null", method0 (Value.bool <$> h.isNull)),
    ("ast_file", asks .moduleGetASTFile self),
    ("parent", asks .moduleGetParent self),
    ("name", asks .moduleGetName self),
    ("full_name", asks .moduleGetFullName self),
    ("is_system", asks .moduleIsSystem self .truth)]

def ofDiagnostic (h : Handle) : List (String × Attribute) :=
  let self := Value.handle h
  [ ofResult "Diagnostic.from_result" diagnosticOfResult,
    ("severity", asks .getDiagnosticSeverity self (.member .diagnosticSeverity)),
    ("location", asks .getDiagnosticLocation self),
    ("spelling", asks .getDiagnosticSpelling self),
    ("option", .property (Diagnostic.option h)),
    ("ranges", .property (Diagnostic.ranges h)),
    ("fixits", .property (Diagnostic.fixits h)),
    ("category_number", asks .getDiagnosticCategory self),
    ("category_text", asks .getDiagnosticCategoryText self),
    ("format", method1 (optional "options") fun v => Value.text <$> Diagnostic.format h v)]

def ofTokens (h : Handle) : List (String × Attribute) := [
    ("annotate", method0 (Value.list <$> Tokens.annotate h))]

def ofCursorSet (h : Handle) : List (String × Attribute) := [
    ("contains", asksWith ["cursor"] .cxCursorSetContains (.handle h) .truth),
    ("insert", asksWith ["cursor"] .cxCursorSetInsert (.handle h) .truth)]

def ofCompletionString (h : Handle) : List (String × Attribute) :=
  let self := Value.handle h
  [ ofResult "CompletionString.from_result" (aroundSome .completionString rfl),
    ("chunks", reads (CompletionString.chunks h) .list),
    ("priority", asks .getCompletionPriority self),
    ("availability", asks .getCompletionAvailability self (.member .availabilityKind)),
    ("num_annotations", asks .getCompletionNumAnnotations self),
    ("annotation", asksWith ["i"] .getCompletionAnnotationAt self),
    ("parent", .property (Function.getCompletionParent.ask [self, .none])),
    ("brief_comment", asks .getCompletionBriefComment self)]

def ofCodeCompleteResults (h : Handle) : List (String × Attribute) := [
    ofResult "CodeCompleteResults.from_result" resultsOfResult,
    ("is_valid", method0 (Value.bool <$> CodeCompleteResults.isValid h)),
    ("results", reads (CodeCompleteResults.results h) .list),
    ("sort", method0 (done (CodeCompleteResults.sort h))),
    ("diagnostics", .property (CodeCompleteResults.diagnostics h)),
    ("contexts", asks .codeCompleteGetContexts (.handle h) (.flags .completionContext))]

def ofCompilationDatabase (h : Handle) : List (String × Attribute) := [
    ("from_directory", .function "CompilationDatabase.from_directory" ⟨[required "build_dir"],
      fun d => Value.handle <$> CompilationDatabase.fromDirectory d⟩),
    ("get_compile_commands", method1 (required "filename") fun f =>
      Value.handle <$> CompilationDatabase.commandsOf h f),
    ("get_all_compile_commands", method0 (Value.handle <$> CompilationDatabase.allCommands h))]

def ofCompileCommands (h : Handle) : List (String × Attribute) := [
    ("db", keptValue h),
    ("size", reads (CompileCommands.size h) fun n => .int n),
    ("command", method1 (required "i") (CompileCommands.command h)),
    ("commands", method0 (Value.list <$> (Value.handle h).elements))]

def ofCompileCommand (h : Handle) : List (String × Attribute) :=
  let self := Value.handle h
  [ ("ccmds", keptValue h),
    ("directory", asks .compileCommandGetDirectory self),
    ("filename", asks .compileCommandGetFilename self),
    ("num_args", asks .compileCommandGetNumArgs self),
    ("arg", asksWith ["i"] .compileCommandGetArg self),
    ("arguments", reads (CompileCommand.arguments h) fun xs => .list (xs.map .text)),
    ("num_mapped_sources", asks .compileCommandGetNumMappedSources self),
    ("mapped_source_path", asksWith ["i"] .compileCommandGetMappedSourcePath self),
    ("mapped_source_content", asksWith ["i"] .compileCommandGetMappedSourceContent self)]

def ofHandle (h : Handle) : List (String × Attribute) :=
  ofAnyHandle h ++
    match h.cls with
    | .index => ofIndex h
    | .translationUnit => ofUnit h
    | .file => ofFile h
    | .module => ofModule h
    | .diagnostic => ofDiagnostic h
    | .tokens => ofTokens h
    | .cursorSet => ofCursorSet h
    | .overriddenCursors => []
    | .completionString => ofCompletionString h
    | .codeCompleteResults => ofCodeCompleteResults h
    | .compilationDatabase => ofCompilationDatabase h
    | .compileCommands => ofCompileCommands h
    | .compileCommand => ofCompileCommand h

def aboutChunk (id : Nat) (f : Value → Value → Binding α) (form : α → Value) : Binding Value := do
  let c := (← World.now).chunk id
  form <$> f c.string c.key

def ofChunk (id : Nat) : List (String × Attribute) :=
  let chunk : Binding ChunkState := return (← World.now).chunk id
  let change (f : ChunkState → ChunkState) : Binding Unit :=
    .update fun w => { w with chunks := w.chunks.modify id f }
  [ ("cs", .field (ChunkState.string <$> chunk) fun x => change ({ · with string := x })),
    ("key", .field (ChunkState.key <$> chunk) fun x => change ({ · with key := x })),
    ("text", .property (aboutChunk id CompletionChunk.text .text)),
    ("kind_id", .property (aboutChunk id CompletionChunk.kindNumber .int)),
    ("kind", .property (aboutChunk id CompletionChunk.kind .member)),
    ("completion_string", .property (aboutChunk id CompletionChunk.nested fun v => v)),
    ("is_kind_optional", method0 (aboutChunk id (CompletionChunk.isKind "OPTIONAL") .bool)),
    ("is_kind_typed_text", method0 (aboutChunk id (CompletionChunk.isKind "TYPED_TEXT") .bool)),
    ("is_kind_placeholder", method0 (aboutChunk id (CompletionChunk.isKind "PLACEHOLDER") .bool))]

def changeEntry (array : Symbol) (i : Nat) (f : Int × Option Symbol → Int × Option Symbol) :
    Binding Unit :=
  CodeCompleteResults.changeArray array (·.modify i f)

def ofCompletionResult (array : Symbol) (i : Nat) : List (String × Attribute) := [
    ("cursorKind", intField (return (← CompletionResult.cursorKind array i).number)
      fun n => changeEntry array i fun e => (n, e.2)),
    ("completionString", .field
      (return .object (.pointer "c_void_p" (CompletionResult.entry (← World.now) array i).2))
      fun
        | .none => changeEntry array i fun e => (e.1, none)
        | .object (.pointer "c_void_p" s) _ => changeEntry array i fun e => (e.1, s)
        | _ => throw Failure.typeError),
    ("cursor_kind", reads (CompletionResult.cursorKind array i) .member),
    ("completion_string", reads (CompletionResult.completionString array i) .handle)]

def ofDiagnostics (items : List Value) (id : Nat) : List (String × Attribute) := [
    ("owner", .field (return (← World.now).owner id) fun x =>
      Binding.update fun w => { w with owners := w.owners.set! id x }),
    ("dispose", method0 (done (Value.diagnostics items id).dispose))]

def bytesOf : Value → Except Failure Text.Bytes
  | .bytes b => .ok b
  | .list xs | .tuple xs => xs.mapM fun x =>
    match x.number? with
    | some n => if 0 ≤ n ∧ n < 256 then .ok (UInt8.ofNat n.toNat) else .error Failure.valueError
    | none => .error Failure.typeError
  | _ => .error Failure.typeError

def numberOf (b : Text.Bytes) : Nat := b.foldl (fun n x => 256 * n + x.toNat) 0

def numberOfBytes (source order : Value) : Except Failure Value :=
  match order with
  | .text "big" => return .int (numberOf (← bytesOf source))
  | .text "little" => return .int (numberOf (← bytesOf source).reverse)
  | .text _ => .error Failure.valueError
  | _ => .error Failure.typeError

def ofNumber : List (String × Attribute) := [
    ("from_bytes", .function "int.from_bytes"
      ⟨[required "bytes", optional "byteorder" (.text "big")], fun source order => do
        numberOfBytes source order⟩)]

def ofObject (self : Value) : Object → List (String × Attribute)
  | .cursor c => ofCursor self c
  | .type t => ofType t
  | .token t => ofToken t
  | .location s => ofLocation s
  | .range s => ofRange s
  | .comment s => ofComment s
  | .uniqueId a b c => ofUniqueId a b c
  | .version cell => ofVersion cell
  | .completionResult array i => ofCompletionResult array i
  | .foreignString entry name => ofForeignString entry name
  | _ => []

def attributes : Value → List (String × Attribute)
  | .int _ => ofNumber
  | .member m => ofMember m
  | .flags f n => ofFlags f n
  | v@(.object o _) => ofObject v o
  | .handle h => ofHandle h
  | .diagnostics items id => ofDiagnostics items id
  | .platform id => ofPlatform id
  | .availability id => ofAvailability id
  | .chunk id => ofChunk id
  | .filePosition f l c o => ofFilePosition f l c o
  | .presumedPosition f l c => ofPresumedPosition f l c
  | .fixIt v r => ofFixIt v r
  | .path s => [("name", constant (.text (String.ofList (Text.Path.name s.toList))))]
  | _ => []

end Interface

namespace Value

def sibling? (v : Value) (name : String) : Option Value :=
  match v with
  | .member m => (m.kind.ofMemberName? name).map .member
  | .flags f _ => (f.maskOf? name).map (.flags f)
  | _ => Option.none

def named (v : Value) (name : String) : Binding Attribute := do
  match lookup name (Interface.attributes v), v.attribute? (← World.now) name, v.sibling? name with
  | some a, some x, _ => return if a.isProperty then a else .constant x
  | some a, Option.none, _ => return a
  | Option.none, some x, _ => return .constant x
  | Option.none, Option.none, some x => return .constant x
  | Option.none, Option.none, Option.none => throw Failure.attributeError

def assign (v : Value) (name : String) (x : Value) : Binding Unit :=
  match lookup name (Interface.attributes v) with
  | some (.field _ write) => write x
  | some (.property _) => throw Failure.attributeError
  | _ => if v.canHold then v.setAttribute name x else throw Failure.attributeError

end Value

namespace Interface

def functions : List (String × Method) := [
    ("Index", ⟨[optional "exclude_declarations_from_pch" (.bool false),
        optional "display_diagnostics" (.bool false)],
      fun exclude display => Value.handle <$> Index.make exclude display⟩),
    ("Index.create", ⟨[optional "exclude_decls" (.bool false)],
      fun exclude => Value.handle <$> Index.make exclude (.bool false)⟩),
    ("TranslationUnit.from_source", unitFromSource),
    ("TranslationUnit.from_ast_file", unitFromAstFile),
    ("Cursor.null", ⟨[], Function.getNullCursor.ask []⟩),
    ("SourceLocation.null", ⟨[], Value.location <$> Location.null⟩),
    ("SourceRange.null", ⟨[], Value.range <$> Range.null⟩),
    ("SourceRange.from_locations", ⟨[required "start", required "end"], Range.between⟩),
    ("CursorSet", ⟨[], do
      let s ← Function.createCXCursorSet.handle []
      return .handle (← Handle.create .cursorSet (.handle s))⟩),
    ("CompilationDatabase.from_directory", ⟨[required "build_dir"], fun d =>
      Value.handle <$> CompilationDatabase.fromDirectory d⟩),
    ("Diagnostics", ⟨[optional "iterable" (.list []), optional "owner"], fun items owner => do
      Value.diagnosticsOf (← items.elements) owner⟩),
    ("UnsavedFiles", ⟨[optional "files"], Marshal.UnsavedFile.keep⟩),
    ("UnsavedFiles.coerce", ⟨[required "files"], Marshal.UnsavedFile.coerce⟩),
    ("default_display_options",
      ⟨[], Function.defaultDiagnosticDisplayOptions.ask [] (.flags .diagnosticDisplayOptions)⟩),
    ("default_code_complete_options",
      ⟨[], Function.defaultCodeCompleteOptions.ask [] (.flags .codeCompleteFlags)⟩),
    ("get_clang_version", ⟨[], Function.getClangVersion.ask []⟩)]

def initialized (fields : List String) (v : Value) (arguments : List Value)
    (named : List (String × Value)) : Binding Value := do
  let v ← v.keep
  let byPlace := fields.zip arguments
  if fields.length < arguments.length ∨ byPlace.any fun e => Routine.isNamed e.1 named then
    throw Failure.typeError
  (byPlace ++ named).forM fun e => v.assign e.1 e.2
  return v

def uniqueIdOf : List Value → Binding Value
  | [] => pure (.uniqueId 0 0 0)
  | .tuple xs :: _ =>
    match xs.mapM Value.number? with
    | some ns =>
      let part (i : Nat) : Nat := (Number.Width.uint64.wrap (ns.getD i 0)).toNat
      if ns.length ≤ 3 then pure (.uniqueId (part 0) (part 1) (part 2))
      else throw (.plain .runtime)
    | none => throw (.plain .runtime)
  | _ => throw Failure.typeError

def makeStructure (name : String) (arguments : List Value) (named : List (String × Value)) :
    Binding Value := do
  match name, arguments with
  | "Version", _ =>
    let cell ← Version.store ⟨0, 0, 0⟩
    initialized ["Major", "Minor", "Subminor"] (.version cell) arguments named
  | "FileUniqueID", [] | "FileUniqueID", [_] =>
    initialized [] (← uniqueIdOf arguments) [] named
  | "FileUniqueID", _ => throw Failure.typeError
  | _, _ => throw Failure.attributeError

def make (name : String) (arguments : List Value) (named : List (String × Value)) :
    Binding Value :=
  match lookup name functions with
  | some m => Routine.apply m.parameters m.action arguments named
  | none => makeStructure name arguments named

def isMade (name : String) : Bool :=
  (lookup name functions).isSome || ["Version", "FileUniqueID"].contains name

end Interface

end ClangIndex
