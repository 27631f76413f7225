import ClangIndex.Files.Tree
import ClangIndex.Log.Record
import ClangIndex.Yaml.Document

namespace ClangIndex.Library

open Yaml (Datum Document)

abbrev Environment := List (String × String)

namespace Variable

def config : String := "CLANGBIND_CONFIG"
def libraryFile : String := "CLANGBIND_LIBRARY_FILE"
def libraryPath : String := "CLANGBIND_LIBRARY_PATH"
def compatibilityCheck : String := "CLANGBIND_COMPATIBILITY_CHECK"
def strict : String := "STRICT_CONFIG_VALIDATION"

end Variable

/-- The name of a file or a directory. A file of settings can give it as bytes. -/
inductive Name
  | text (s : String)
  | bytes (b : Text.Bytes)
  deriving DecidableEq, Repr, Inhabited

namespace Name

instance : Coe String Name := ⟨.text⟩

def isEmpty : Name → Bool
  | .text s => s.isEmpty
  | .bytes b => b.isEmpty

def shown : Name → String
  | .text s => s
  | .bytes b => Text.Literal.ofBytes b

def literal : Name → String
  | .text s => Text.Literal.ofText s
  | .bytes b => Text.Literal.ofBytes b

def path : Name → String
  | .text s => s
  | .bytes b => Text.ofUtf8 b

def hasZero : Name → Bool
  | .text s => s.toList.contains '\x00'
  | .bytes b => b.contains 0

end Name

structure Settings where
  libraryFile : Option Name := none
  libraryPath : Option Name := none
  compatibilityCheck : Bool := true
  deriving DecidableEq, Repr, Inhabited

namespace Settings

def file? (s : Settings) : Option Name := s.libraryFile.filter (!·.isEmpty)

def directory? (s : Settings) : Option Name := s.libraryPath.filter (!·.isEmpty)

end Settings

inductive Problem
  | fileMissing (path : String)
  | unreadable (path : String) (fault : Yaml.Fault)
  | notMapping (typeName : String)
  | unknownKeys (keys : List String)
  | notBoolean (key literal : String)
  deriving DecidableEq, Repr

namespace Problem

def message : Problem → String
  | .fileMissing path => "Library config file not found: " ++ path
  | .unreadable path fault =>
    "Failed to parse library config YAML at " ++ path ++ ": " ++ fault.message
  | .notMapping t => "Unexpected library config payload type: " ++ t
  | .unknownKeys keys => "Unknown library config keys: " ++ ", ".intercalate keys
  | .notBoolean key literal => "'" ++ key ++ "' must be a boolean, got " ++ literal

end Problem

/-- A computation that reports and may fail. What was reported before a failure stays. -/
abbrev Reporting := ExceptT Failure (StateM (List Log.Record))

namespace Reporting

def record (r : Log.Record) : Reporting Unit := fun rs => (.ok (), rs ++ [r])

def exec (m : Reporting α) : Except Failure α × List Log.Record := m.run []

end Reporting

namespace Settings

def logger : String := "core.library_config"

/-- A problem is an error in strict mode, and else a warning that says how it goes on. -/
def object (strict : Bool) (p : Problem) (remedy : String) : Reporting Unit :=
  if strict then throw (.invalidSettings p.message)
  else Reporting.record ⟨.warning, logger, p.message ++ "; " ++ remedy, {}⟩

def yesWords : List String := ["1", "true", "yes", "on"]

def noWords : List String := ["0", "false", "no", "off"]

def normalWord (s : String) : String := String.ofList (Text.lowerAscii (Text.trim s.toList))

def bool? (s : String) : Option Bool :=
  let w := normalWord s
  if yesWords.contains w then some true
  else if noWords.contains w then some false
  else none

inductive Answer
  | bool (b : Bool)
  | words (s literal : String)

namespace Answer

def ofText (s : String) : Answer := .words s (Text.Literal.ofText s)

def unshown : Document.Unshown → Failure
  | .manyDigits => Failure.valueError
  | .deep => .plain .recursion

def ofDatum (d : Document) (v : Datum) : Except Failure Answer :=
  match v, d.shown v with
  | .bool b, _ => .ok (.bool b)
  | _, .error e => .error (unshown e)
  | v, .ok literal => .ok (.words (v.text?.getD literal) literal)

end Answer

def readBool (answer : Answer) (key : String) (strict fallback : Bool) : Reporting Bool :=
  match answer with
  | .bool b => pure b
  | .words s literal =>
    match bool? s with
    | some b => pure b
    | none => do
      object strict (.notBoolean key literal) ("using " ++ Text.Literal.ofBool fallback)
      pure fallback

/-- Whether the environment asks for strict mode, if it says anything about it. Any word but those
for yes means no. -/
def strictIn? (env : Environment) : Option Bool :=
  (lookup Variable.strict env).map fun s => yesWords.contains (normalWord s)

inductive Key
  | libraryFile
  | libraryPath
  | compatibilityCheck
  deriving DecidableEq, Repr

namespace Key

def name : Key → String
  | .libraryFile => "library_file"
  | .libraryPath => "library_path"
  | .compatibilityCheck => "compatibility_check"

def all : List Key := [.libraryFile, .libraryPath, .compatibilityCheck]

end Key

def continuing : String := "continuing with defaults"

def refusal : Yaml.Refusal → Failure
  | .number .empty => .plain .index
  | .number .tooLarge => .plain .overflow
  | .fault .undecodable => .plain .decoding
  | .fault .deep => .plain .recursion
  | .fault (.noCharacter code) => .plain (if code < Nat.pow 2 31 then .value else .overflow)
  | .fault _ | .number .malformed | .noSuchMoment => .plain .value
  | .keyword => .plain .key
  | .notMoment => .plain .attribute
  | .notText => Failure.typeError

def payload (files : Files.Tree) (path : String) (strict : Bool) : Reporting Document :=
  match files.read path.toList with
  | .error .missing => do
    object strict (.fileMissing path) continuing
    pure {}
  | .error e => throw e.failure
  | .ok b =>
    match Document.ofSource (.ofBytes b) with
    | .ok d => pure d
    | .error (.fault f) => do
      if !f.isOfText then throw (refusal (.fault f))
      object strict (.unreadable path f) continuing
      pure {}
    | .error r => throw (refusal r)

def isKnownKey (d : Datum) : Bool := Key.all.any fun k => d.textIs k.name

def unknownKeys (es : List (Datum × Datum)) : Option (List String) :=
  (es.filter fun e => !isKnownKey e.1).mapM fun e => e.1.text?

def entries (d : Document) (strict : Bool) : Reporting (List (Datum × Datum)) := do
  match d.root with
  | .null => pure []
  | .map id =>
    match unknownKeys (d.entries id) with
    | none => throw Failure.typeError
    | some [] => pure (d.entries id)
    | some keys =>
      object strict (.unknownKeys (keys.mergeSort fun a b => a ≤ b)) "ignoring them"
      pure (d.entries id)
  | v =>
    object strict (.notMapping v.typeName) continuing
    pure []

def valueOf? (es : List (Datum × Datum)) (k : Key) : Option Datum :=
  (es.find? fun e => e.1.textIs k.name).map (·.2)

def named? : Datum → Option Name
  | .bytes b => some (.bytes b)
  | v => v.text?.map .text

def nameOf (d : Document) (es : List (Datum × Datum)) (k : Key) : Reporting (Option Name) :=
  match valueOf? es k with
  | none => pure none
  | some v =>
    if !d.truthy v then pure none
    else match named? v with
      | some s => pure (some s)
      | none => throw Failure.typeError

def ofFile (files : Files.Tree) (path : String) (strict : Bool) : Reporting Settings := do
  let d ← payload files path strict
  let es ← entries d strict
  let libraryFile ← nameOf d es .libraryFile
  let libraryPath ← nameOf d es .libraryPath
  let compatibilityCheck ← match valueOf? es .compatibilityCheck with
    | none => pure true
    | some v => readBool (← Answer.ofDatum d v) Key.compatibilityCheck.name strict true
  return { libraryFile, libraryPath, compatibilityCheck }

def nonEmpty (s : Option String) : Option String := s.filter (!·.isEmpty)

def preferred (s : Option String) (other : Option Name) : Option Name :=
  (nonEmpty s).map .text <|> other

/-- What the environment says takes the place of what was set before. An empty text says nothing
about a file or a path. -/
def withEnvironment (env : Environment) (strict : Bool) (s : Settings) : Reporting Settings := do
  let check ← match lookup Variable.compatibilityCheck env with
    | none => pure s.compatibilityCheck
    | some word => readBool (.ofText word) Variable.compatibilityCheck strict s.compatibilityCheck
  return {
    libraryFile := preferred (lookup Variable.libraryFile env) s.libraryFile
    libraryPath := preferred (lookup Variable.libraryPath env) s.libraryPath
    compatibilityCheck := check }

def shown (s : Settings) : String :=
  let name (o : Option Name) : String := o.elim "None" Name.literal
  "LibraryConfig(library_file=" ++ name s.libraryFile ++ ", library_path=" ++ name s.libraryPath ++
    ", compatibility_check=" ++ Text.Literal.ofBool s.compatibilityCheck ++ ")"

def load (env : Environment) (files : Files.Tree) (path : Option String) (strict : Option Bool) :
    Reporting Settings := do
  let strict := strict.getD ((strictIn? env).getD false)
  let s ← match nonEmpty path <|> nonEmpty (lookup Variable.config env) with
    | none => pure {}
    | some path => ofFile files path strict
  let s ← withEnvironment env strict s
  Reporting.record ⟨.debug, logger, "Resolved library config: " ++ s.shown, {}⟩
  return s

end Settings

end ClangIndex.Library
