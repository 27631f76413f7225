import ClangIndex.Binding.Completion
import ClangIndex.Binding.Platform
import ClangIndex.Binding.Tokens

namespace ClangIndex

open Native (Function)

def civil (days : Int) : Int × Int × Int :=
  let z := days + 719468
  let era := z.fdiv 146097
  let doe := z - era * 146097
  let yoe := (doe - doe / 1460 + doe / 36524 - doe / 146096) / 365
  let doy := doe - (365 * yoe + yoe / 4 - yoe / 100)
  let mp := (5 * doy + 2) / 153
  let day := doy - (153 * mp + 2) / 5 + 1
  let month := if mp < 10 then mp + 3 else mp - 9
  (yoe + era * 400 + (if month ≤ 2 then 1 else 0), month, day)

def digitsOf (width : Nat) (n : Int) : String :=
  let s := toString n
  String.ofList (List.replicate (width - s.length) '0') ++ s

def momentText (separator : String) (seconds : Int) : String :=
  let (year, month, day) := civil (seconds.fdiv 86400)
  let s := seconds.fmod 86400
  digitsOf 4 year ++ "-" ++ digitsOf 2 month ++ "-" ++ digitsOf 2 day ++ separator ++
    digitsOf 2 (s / 3600) ++ ":" ++ digitsOf 2 (s / 60 % 60) ++ ":" ++ digitsOf 2 (s % 60) ++
    "+00:00"

def momentParts (seconds : Int) : List Int :=
  let (year, month, day) := civil (seconds.fdiv 86400)
  let s := seconds.fmod 86400
  [year, month, day, s / 3600, s / 60 % 60] ++ if s % 60 = 0 then [] else [s % 60]

namespace Location

def repr (s : Symbol) : Binding String := do
  let p ← expansion s
  let file ← match p.file with
    | some f => Text.Literal.ofText <$> File.name f
    | none => pure "None"
  return "<SourceLocation file " ++ file ++ ", line " ++ toString p.line ++ ", column " ++
    toString p.column ++ ">"

end Location

namespace Range

def repr (s : Symbol) : Binding String := do
  let start ← Location.repr (← Function.getRangeStart.struct [.value (.range s)])
  let stop ← Location.repr (← Function.getRangeEnd.struct [.value (.range s)])
  return "<SourceRange start " ++ start ++ ", end " ++ stop ++ ">"

end Range

namespace Cursor

def repr (c : Cursor) : Binding String := do
  if ← c.isNull then return "<Cursor null>"
  else return "<Cursor " ++ (← c.kind).name ++ ": " ++ (← c.spelling) ++ ">"

end Cursor

namespace TypeRef

def repr (t : TypeRef) : Binding String := do
  return "<Type " ++ (← t.kind).name ++ ": " ++ (← t.spelling) ++ ">"

end TypeRef

namespace Value

def plainRepr (v : Value) : Binding String :=
  match v.literal? with
  | some s => pure s
  | Option.none => throw Failure.valueError

end Value

namespace Token

def repr (t : Token) : Binding String := do
  return "<Token " ++ (← t.kind).name ++ ": " ++ (← (← t.spelling).plainRepr) ++ ">"

end Token

namespace Diagnostic

def repr (d : Handle) : Binding String := do
  let severity ← severity d
  let location ← Location.repr (← location d)
  return "<Diagnostic severity " ++ severity.qualified ++ ", location " ++ location ++
    ", spelling " ++ Text.Literal.ofText (← spelling d) ++ ">"

end Diagnostic

namespace Handle

/-- A unit is valid until it is disposed of, unless it was null. -/
def isValid (h : Handle) : Binding Bool := do
  let w ← World.now
  return ((w.held? h).bind w.symbolOf).isSome

def isNull (h : Handle) : Binding Bool := return !(← h.isValid)

def text (f : Function) (h : Handle) (keeps : f.releases = false := by exact Eq.refl false) :
    Binding String :=
  f.text [.value (.handle h)]

def repr (h : Handle) : Binding String := do
  match h.cls with
  | .translationUnit =>
    if ← h.isValid then
      return "<TranslationUnit " ++ (← h.text .getTranslationUnitSpelling) ++ ">"
    else return "<TranslationUnit invalid>"
  | .file => return "<File: " ++ (← File.name h) ++ ">"
  | .module =>
    if ← h.isNull then return "<Module null>"
    else return "<Module " ++ (← h.text .moduleGetFullName) ++ ">"
  | .diagnostic => Diagnostic.repr h
  | .completionString => CompletionString.repr h
  | .codeCompleteResults => CodeCompleteResults.repr h
  | .compileCommand =>
    let filename ← h.text .compileCommandGetFilename
    return "<CompileCommand " ++ filename ++ " in " ++ (← h.text .compileCommandGetDirectory) ++ ">"
  | c => return "<" ++ c.name ++ ">"

end Handle

namespace Member

def str (m : Member) : Binding String := do
  match m.kind, m.spelling? with
  | .typeKind, _ => Function.getTypeKindSpelling.text [.value (.int m.number)]
  | _, some s => return s
  | _, none => return m.qualified

end Member

namespace Object

def repr : Object → Binding String
  | .cursor c => c.repr
  | .type t => t.repr
  | .token t => t.repr
  | .location s => Location.repr s
  | .range s => Range.repr s
  | .comment s => do return "<Comment " ++ (← Comment.kind s).name ++ ">"
  | .completionResult array i => do
    let kind ← CompletionResult.cursorKind array i
    let string ← CompletionResult.completionString array i
    return kind.name ++ ": " ++ (← CompletionString.repr string)
  | .uniqueId a b c =>
    pure ("<FileUniqueID (" ++ toString a ++ ", " ++ toString b ++ ", " ++ toString c ++ ")>")
  | .version cell => do
    let text := ((← World.now).version cell).text
    return "<Version " ++ (if text.isEmpty then "unknown" else text) ++ ">"
  | o => pure ("<" ++ o.typeName ++ ">")

end Object

namespace Value

/-- A value in the form that tells what it is; it may hold others so many levels deep. -/
def reprWithin : Nat → Value → Binding String
  | 0, _ => throw (.plain .recursion)
  | depth + 1, v =>
    match v with
    | .list xs | .diagnostics xs _ => do
      return Text.Literal.ofItems (← xs.mapM (reprWithin depth))
    | .tuple xs => do return bracketed (← xs.mapM (reprWithin depth))
    | .mapping es => do
      let parts ← es.mapM fun (k, x) => do
        return k.literal ++ ": " ++ (← reprWithin depth x)
      return Text.Literal.ofEntries parts
    | .object o _ => o.repr
    | .handle h => h.repr
    | .platform id => Platform.repr id
    | .availability id => do
      let a ← Availability.state id
      let alwaysDeprecated ← reprWithin depth a.alwaysDeprecated
      let deprecatedMessage ← reprWithin depth a.deprecatedMessage
      let alwaysUnavailable ← reprWithin depth a.alwaysUnavailable
      let unavailableMessage ← reprWithin depth a.unavailableMessage
      return "PlatformAvailabilityInfo(always_deprecated=" ++ alwaysDeprecated ++
        ", deprecated_message=" ++ deprecatedMessage ++
        ", always_unavailable=" ++ alwaysUnavailable ++
        ", unavailable_message=" ++ unavailableMessage ++
        ", platforms=" ++ (← reprWithin depth a.platforms) ++ ")"
    | .chunk id => do
      let c := (← World.now).chunk id
      CompletionChunk.repr c.string c.key
    | .filePosition f l c o => do
      let file ← match f with
        | some f => f.repr
        | Option.none => pure "None"
      return "FilePosition(file=" ++ file ++ ", line=" ++ toString l ++ ", column=" ++
        toString c ++ ", offset=" ++ toString o ++ ")"
    | .presumedPosition f l c =>
      pure ("PresumedPosition(filename=" ++ Text.Literal.ofText f ++ ", line=" ++ toString l ++
        ", column=" ++ toString c ++ ")")
    | .fixIt v r => do
      return "FixIt(value=" ++ Text.Literal.ofText v ++ ", range=" ++ (← reprWithin depth r) ++ ")"
    | .moment s =>
      pure ("datetime.datetime(" ++ ", ".intercalate ((momentParts s).map toString) ++
        ", tzinfo=datetime.timezone.utc)")
    | v => v.plainRepr

def repr (v : Value) : Binding String := v.reprWithin deepest

def str : Value → Binding String
  | .text s => pure s
  | .path s => pure s
  | .member m => m.str
  | .flags _ n => plainRepr (.int n)
  | .object (.version cell) _ => return ((← World.now).version cell).text
  | .moment s => pure (momentText " " s)
  | .chunk id => do
    let c := (← World.now).chunk id
    CompletionChunk.str c.string c.key
  | .handle h =>
    match h.cls with
    | .file => File.name h
    | .diagnostic => Diagnostic.format h .none
    | _ => h.repr
  | v => repr v

end Value

end ClangIndex
