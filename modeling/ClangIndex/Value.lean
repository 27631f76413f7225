import ClangIndex.Enumeration.Basic
import ClangIndex.Enumeration.Flags
import ClangIndex.Json.Value
import ClangIndex.Native.CType
import ClangIndex.Text.Literal
import ClangIndex.Text.Utf8

/-!
The values that callers hand to the interface and get from it. What the native side owns is known
by its symbol only; objects that can be disposed are known by their number.
-/

namespace ClangIndex

open Native (HandleClass)
open Text (Bytes)

abbrev Symbol := String

def zeroSymbol : Symbol := "0"

structure Handle where
  cls : HandleClass
  id : Nat
  deriving DecidableEq, Repr, Inhabited

structure Cursor where
  symbol : Symbol
  unit : Option Handle := none
  deriving DecidableEq, Repr, Inhabited

structure TypeRef where
  symbol : Symbol
  unit : Option Handle := none
  deriving DecidableEq, Repr, Inhabited

structure Token where
  symbol : Symbol
  unit : Option Handle := none
  deriving DecidableEq, Repr, Inhabited

structure Version where
  major : Int
  minor : Int
  subminor : Int
  deriving DecidableEq, Repr, Inhabited

/-- What an object is known by. One that is only passed on is known by nothing, a pointer that
belongs to a handle's object by that object. -/
inductive Identity
  | passing
  | kept (n : Nat)
  | within (h : Handle)
  deriving DecidableEq, Repr, Inhabited

inductive EntryString
  | platform
  | message
  deriving DecidableEq, Repr, Inhabited

/-- Objects that are more than their contents: the native side compares them, or they are equal to
themselves only, or they can carry attributes. -/
inductive Object
  | cursor (c : Cursor)
  | type (t : TypeRef)
  | token (t : Token)
  | location (s : Symbol)
  | range (s : Symbol)
  | comment (s : Symbol)
  | uniqueId (a b c : Nat)
  | version (cell : Nat)
  | pointer (pointee : String) (s : Option Symbol)
  | completionResult (array : Symbol) (index : Nat)
  | foreignString (entry : Nat) (field : EntryString)
  | bytesPath (b : Bytes)
  | unsavedFiles (files : List (Bytes × Bytes))
  | function (name : String)
  | method
  deriving DecidableEq, Repr, Inhabited

namespace Object

def typeName : Object → String
  | .cursor _ => "Cursor"
  | .type _ => "Type"
  | .token _ => "Token"
  | .location _ => "SourceLocation"
  | .range _ => "SourceRange"
  | .comment _ => "Comment"
  | .uniqueId .. => "FileUniqueID"
  | .version _ => "Version"
  | .pointer t _ => "LP_" ++ t
  | .completionResult .. => "CompletionResult"
  | .foreignString .. => "CXString"
  | .bytesPath _ => "BytesPath"
  | .unsavedFiles _ => "UnsavedFiles"
  | .function _ => "function"
  | .method => "method"

end Object

inductive Key
  | text (s : String)
  | bytes (b : Bytes)
  | path (s : String)
  deriving DecidableEq, Repr, Inhabited

/-- Values. Lists of diagnostics, chunks, platforms, availabilities, iterators and streams change,
and are known by their numbers. -/
inductive Value
  | none
  | bool (b : Bool)
  | int (n : Int)
  | float (x : Number.Binary64)
  | text (s : String)
  | bytes (b : Bytes)
  | list (xs : List Value)
  | tuple (xs : List Value)
  | mapping (entries : List (Key × Value))
  | iterator (id : Nat)
  | stream (binary : Bool) (id : Nat)
  | fileLike (contents : Value) (id : Identity)
  | path (s : String)
  | member (m : Member)
  | flags (f : FlagSet) (n : Nat)
  | object (o : Object) (id : Identity := .passing)
  | handle (h : Handle)
  | diagnostics (items : List Value) (id : Nat)
  | platform (id : Nat)
  | availability (id : Nat)
  | chunk (id : Nat)
  | filePosition (file : Option Handle) (line column offset : Int)
  | presumedPosition (filename : String) (line column : Int)
  | fixIt (value : String) (range : Value)
  | moment (seconds : Int)
  | document (j : Json)
  deriving Inhabited

namespace Key

instance : Coe String Key := ⟨.text⟩

def value : Key → Value
  | .text s => .text s
  | .bytes b => .bytes b
  | .path s => .path s

def literal : Key → String
  | .text s => Text.Literal.ofText s
  | .bytes b => Text.Literal.ofBytes b
  | .path s => "PurePosixPath(" ++ Text.Literal.ofText s ++ ")"

end Key

namespace Value

def key? : Value → Option Key
  | .text s => some (.text s)
  | .bytes b => some (.bytes b)
  | .path s => some (.path s)
  | _ => Option.none

abbrev cursor (c : Cursor) : Value := .object (.cursor c)

abbrev type (t : TypeRef) : Value := .object (.type t)

abbrev token (t : Token) : Value := .object (.token t)

abbrev location (s : Symbol) : Value := .object (.location s)

abbrev range (s : Symbol) : Value := .object (.range s)

abbrev comment (s : Symbol) : Value := .object (.comment s)

abbrev uniqueId (a b c : Nat) : Value := .object (.uniqueId a b c)

abbrev version (cell : Nat) : Value := .object (.version cell)

def typeName : Value → String
  | .none => "NoneType"
  | .bool _ => "bool"
  | .int _ => "int"
  | .float _ => "float"
  | .text _ => "str"
  | .bytes _ => "bytes"
  | .list _ => "list"
  | .tuple _ => "tuple"
  | .mapping _ => "dict"
  | .iterator _ => "list_iterator"
  | .stream true _ => "BytesIO"
  | .stream false _ => "StringIO"
  | .fileLike .. => "FileLike"
  | .path _ => "PurePosixPath"
  | .member m => m.kind.name
  | .flags f _ => f.name
  | .object o _ => o.typeName
  | .handle h => h.cls.name
  | .diagnostics .. => "Diagnostics"
  | .platform _ => "PlatformAvailability"
  | .availability _ => "PlatformAvailabilityInfo"
  | .chunk _ => "CompletionChunk"
  | .filePosition .. => "FilePosition"
  | .presumedPosition .. => "PresumedPosition"
  | .fixIt .. => "FixIt"
  | .moment _ => "datetime"
  | .document _ => "dict"

def truthy : Value → Bool
  | .none => false
  | .bool b => b
  | .int n => n != 0
  | .float x => !x.isZero
  | .text s => !s.isEmpty
  | .bytes b => !b.isEmpty
  | .list xs => !xs.isEmpty
  | .tuple xs => !xs.isEmpty
  | .mapping es => !es.isEmpty
  | .flags _ n => n != 0
  | .diagnostics xs _ => !xs.isEmpty
  | .object (.pointer _ s) _ => s.isSome
  | .object (.unsavedFiles files) _ => !files.isEmpty
  | _ => true

mutual

/-- A plain value as messages show it. A number with too many digits cannot be shown. -/
def literal? : Value → Option String
  | .none => some "None"
  | .bool b => some (Text.Literal.ofBool b)
  | .int n => Number.writeInteger? n
  | .float x => some (String.ofList x.text)
  | .text s => some (Text.Literal.ofText s)
  | .bytes b => some (Text.Literal.ofBytes b)
  | .list xs => (literals? xs).map Text.Literal.ofItems
  | .mapping es => (literalEntries? es).map Text.Literal.ofEntries
  | .path s => some ("PurePosixPath(" ++ Text.Literal.ofText s ++ ")")
  | .member m => some m.qualified
  | .flags f n => some (f.shown n)
  | v => some ("<" ++ v.typeName ++ ">")

def literals? : List Value → Option (List String)
  | [] => some []
  | x :: r => do return (← literal? x) :: (← literals? r)

def literalEntries? : List (Key × Value) → Option (List String)
  | [] => some []
  | (k, v) :: r => do return (k.literal ++ ": " ++ (← literal? v)) :: (← literalEntries? r)

end

def bracketed : List String → String
  | [s] => "(" ++ s ++ ",)"
  | ss => "(" ++ ", ".intercalate ss ++ ")"

def unit? : Value → Option Handle
  | .handle h => if h.cls = .translationUnit then some h else Option.none
  | .object (.cursor c) _ => c.unit
  | .object (.type t) _ => t.unit
  | .object (.token t) _ => t.unit
  | _ => Option.none

end Value

end ClangIndex
