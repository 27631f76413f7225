import ClangIndex.Interface.Objects
import ClangIndex.Native.Script

namespace ClangIndex

open Native (Side)

namespace Handle

def observe (w : World) (h : Handle) : Json :=
  match w.held? h with
  | none => .text "disposed"
  | some held => ((w.symbolOf held).map Json.text).getD .null

end Handle

namespace World

def observeUnit (w : World) : Option Handle → Json
  | some h => h.observe w
  | none => .null

def observeTracked (w : World) (cls : String) (s : Symbol) (unit : Option Handle) : Json :=
  .object [(cls, .text s), ("tu", w.observeUnit unit)]

def observeFile (w : World) : Option Handle → Json
  | some h => .object [(h.cls.name, h.observe w)]
  | none => .null

def observeObject (w : World) : Object → Json
  | .cursor c => w.observeTracked "Cursor" c.symbol c.unit
  | .type t => w.observeTracked "Type" t.symbol t.unit
  | .token t => w.observeTracked "Token" t.symbol t.unit
  | .location s => .object [("SourceLocation", .text s)]
  | .range s => .object [("SourceRange", .text s)]
  | .comment s => .object [("Comment", .text s)]
  | .completionResult array i =>
    let (kind, s) := CompletionResult.entry w array i
    .object [("CompletionResult",
      .array [.int (Number.Width.int32.wrap kind), (s.map Json.text).getD .null])]
  | .uniqueId a b c => .object [("FileUniqueID", .array [.int a, .int b, .int c])]
  | .version cell =>
    let v := w.version cell
    .object [("Version", .array [.int v.major, .int v.minor, .int v.subminor])]
  | o => .object [("object", .text o.typeName)]

def count (v : Value) : Json := .int ((v.items?.map List.length).getD 0)

def observeKey : Value → Json
  | .bool b => .bool b
  | .int n => .int n
  | .flags _ n => .int n
  | .float x => .float x
  | .text s => .text s
  | _ => .null

def observeString (w : World) : Value → Json
  | .handle h => h.observe w
  | _ => .null

mutual

def observeWith (w : World) (field : Value → Json) : Value → Json
  | .none => .null
  | .bool b => .bool b
  | .int n => .int n
  | .text s => .text s
  | .bytes b => .object [("bytes", .text (String.ofList (Text.Hex.encode b)))]
  | .list xs => .array (observeAll w field xs)
  | .tuple xs => .array (observeAll w field xs)
  | .diagnostics xs _ => .array (observeAll w field xs)
  | .member m => .object [("enum", .text m.qualified)]
  | .flags f n => .object [("flags", .text f.name), ("value", .int n)]
  | .object o _ => w.observeObject o
  | .handle h => .object [(h.cls.name, h.observe w)]
  | .availability id =>
    let a := (w.availabilities[id]?).getD default
    .object [("PlatformAvailabilityInfo", .object [
      ("always_deprecated", field a.alwaysDeprecated),
      ("deprecated_message", field a.deprecatedMessage),
      ("always_unavailable", field a.alwaysUnavailable),
      ("unavailable_message", field a.unavailableMessage),
      ("platforms", count a.platforms)])]
  | .chunk id =>
    let c := w.chunk id
    .object [("CompletionChunk", .array [w.observeString c.string, observeKey c.key])]
  | .filePosition f l c o =>
    .object [("FilePosition", .object [
      ("file", w.observeFile f), ("line", .int l), ("column", .int c), ("offset", .int o)])]
  | .presumedPosition f l c =>
    .object [("PresumedPosition", .object [
      ("filename", .text f), ("line", .int l), ("column", .int c)])]
  | .fixIt v r =>
    .object [("FixIt", .object [("value", .text v), ("range", observeWith w field r)])]
  | .moment s => .text (momentText "T" s)
  | .document j => j
  | v => .object [("object", .text v.typeName)]

def observeAll (w : World) (field : Value → Json) : List Value → List Json
  | [] => []
  | v :: r => observeWith w field v :: observeAll w field r

end

def observe (w : World) : Value → Json :=
  w.observeWith (w.observeWith fun _ => .null)

end World

end ClangIndex
