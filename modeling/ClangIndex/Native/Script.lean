import ClangIndex.Json.Writer
import ClangIndex.Native.Call

namespace ClangIndex.Native

open Text (Bytes)

def bytesJson (b : Bytes) : Json :=
  match Text.ofUtf8? b with
  | some s => .text s
  | none => .object [("bytes", .text (String.ofList (Text.Hex.encode b)))]

def bytesOf? : Json → Option Bytes
  | .text s => some (Text.utf8 s)
  | j => (j.get? "bytes").bind fun h => h.text?.bind fun s => Text.Hex.decode s.toList

namespace Argument

def json : Argument → Json
  | .int n => .int n
  | .struct s => .text s
  | .handle (some s) => .text s
  | .handle none => .null
  | .text (some b) => bytesJson b
  | .text none => .null
  | .wide s | .record s => .text s
  | .argv (some xs) => .array (xs.map bytesJson)
  | .argv none => .null
  | .files (some xs) =>
    .array (xs.map fun (n, c) => .array [bytesJson n, bytesJson c, .int c.length])
  | .files none => .null

def key? : Argument → Option String
  | .int n => some (toString n)
  | .struct s => some s
  | .handle h => some (h.getD "null")
  | .text (some b) =>
    match Text.ofUtf8? b with
    | some s => some s
    | none => some ("\x7b\"bytes\": \"" ++ String.ofList (Text.Hex.encode b) ++ "\"\x7d")
  | .text none => some "null"
  | .wide s | .record s => some s
  | .argv _ => none
  | .files _ => none

end Argument

namespace Call

def json (c : Call) : Json := .array (.text c.function.symbol :: c.arguments.map Argument.json)

def key (c : Call) : String := ",".intercalate (c.arguments.filterMap Argument.key?)

end Call

structure Script where
  cursors : List (String × Json) := []
  types : List (String × Json) := []
  children : List (String × Json) := []
  functions : List (String × Json) := []
  deriving Inhabited

namespace Script

def ofJson (j : Json) : Script where
  cursors := (j.get? "cursors").elim [] Json.entries
  types := (j.get? "types").elim [] Json.entries
  children := (j.get? "children").elim [] Json.entries
  functions := (j.get? "fns").elim [] Json.entries

def kindIn (table : List (String × Json)) (s : Symbol) : Int :=
  if s = zeroSymbol then 0 else ((lookup s table).bind Json.int?).getD 0

def symbolOf : Json → Symbol
  | .text s => s
  | _ => zeroSymbol

def handleOf : Json → Option Symbol
  | .text s => some s
  | _ => none

def textOf (j : Json) : Option Bytes := (bytesOf? j).map Text.cString

def resultOf (t : CType) (j : Json) : Result :=
  match t with
  | .struct .string => .text (textOf j)
  | .struct _ => .struct (symbolOf j)
  | .pointer _ => .handle (handleOf j)
  | .text => .text (textOf j)
  | _ =>
    match j with
    | .int n => .int n
    | .bool b => .int (if b then 1 else 0)
    | _ => .default

def versionOf : Json → Version
  | .array [.int a, .int b, .int c] => ⟨a, b, c⟩
  | _ => ⟨-1, -1, -1⟩

def platformOf (j : Json) : PlatformEntry where
  platform := (j.get? "platform").bind textOf
  introduced := (j.get? "introduced").elim ⟨-1, -1, -1⟩ versionOf
  deprecated := (j.get? "deprecated").elim ⟨-1, -1, -1⟩ versionOf
  obsoleted := (j.get? "obsoleted").elim ⟨-1, -1, -1⟩ versionOf
  unavailable := ((j.get? "unavailable").bind Json.int?).getD 0
  message := (j.get? "message").bind textOf

def pairOf? : Json → Option (Symbol × Symbol)
  | .array [a, b] => some (symbolOf a, symbolOf b)
  | _ => none

def completionOf? : Json → Option (Int × Option Symbol)
  | .array [.int k, s] => some (k, handleOf s)
  | _ => none

def uniqueIdOf? : Json → Option (Nat × Nat × Nat)
  | .array [.int a, .int b, .int c] =>
    some ((Number.Width.uint64.wrap a).toNat, (Number.Width.uint64.wrap b).toNat,
      (Number.Width.uint64.wrap c).toNat)
  | _ => none

def answerOf (f : Function) (j : Json) : Answer :=
  let result (j : Json) : Result := f.signature.result.elim .default fun t => resultOf t j
  match f, j with
  | .codeCompleteAt, .object _ =>
    { result := .handle ((j.get? "handle").bind handleOf),
      completions := ((j.get? "results").elim [] Json.items).filterMap completionOf? }
  | .sortCodeCompletionResults, .array xs =>
    { order := some (xs.filterMap fun x => x.int?.map Int.toNat) }
  | _, .object _ =>
    match f.signature.result, j.get? "bytes" with
    | some (.struct .string), some _ => { result := result j }
    | _, _ =>
      { result := (j.get? "ret").elim .default result,
        file := (j.get? "file").map handleOf,
        line := (j.get? "line").bind Json.int?,
        column := (j.get? "column").bind Json.int?,
        offset := (j.get? "offset").bind Json.int?,
        filename := (j.get? "filename").map textOf,
        uniqueId := (j.get? "id").bind uniqueIdOf?,
        disable := (j.get? "disable").map textOf,
        range := (j.get? "range").map symbolOf,
        code := (j.get? "code").bind Json.int?,
        array := (j.get? "array").bind handleOf,
        count := (j.get? "count").bind Json.int?,
        items := ((j.get? "items").elim [] Json.items).map symbolOf,
        cursors := ((j.get? "cursors").elim [] Json.items).map symbolOf,
        alwaysDeprecated := (j.get? "always_deprecated").bind Json.int?,
        deprecatedMessage := (j.get? "deprecated_message").map textOf,
        alwaysUnavailable := (j.get? "always_unavailable").bind Json.int?,
        unavailableMessage := (j.get? "unavailable_message").map textOf,
        platforms := ((j.get? "platforms").elim [] Json.items).map platformOf,
        references := ((j.get? "refs").elim [] Json.items).filterMap pairOf?,
        broken := (j.get? "broken").bind Json.int? }
  | _, _ => { result := result j }

def rule? (s : Script) (c : Call) : Option (String × Json) := do
  let rules ← lookup c.function.symbol s.functions
  let entries := rules.entries
  let k := c.key
  match lookup k entries with
  | some j => pure (k, j)
  | none => (lookup "*" entries).map fun j => ("*", j)

def sameRule (s : Script) (f : Function) (k : String) (c : Call) : Bool :=
  c.function == f && (s.rule? c).map (·.1) == some k

/-- The item of a sequence of answers; the last one repeats. -/
def pick : List Json → Nat → Json
  | [], _ => .null
  | [x], _ => x
  | x :: _, 0 => x
  | _ :: y :: r, n + 1 => pick (y :: r) n

def answer (s : Script) (earlier : List Call) (c : Call) : Answer :=
  match s.rule? c with
  | none => {}
  | some (k, j) =>
    match j.get? "seq" with
    | some (.array xs) => answerOf c.function (pick xs (earlier.countP (s.sameRule c.function k)))
    | _ => answerOf c.function j

def toSide (s : Script) : Side where
  cursorKind := kindIn s.cursors
  typeKind := kindIn s.types
  children := fun c => ((lookup c s.children).elim [] Json.items).map symbolOf
  depth := s.children.length + 1
  answer := s.answer

end Script

end ClangIndex.Native
