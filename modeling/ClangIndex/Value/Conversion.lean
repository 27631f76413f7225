import ClangIndex.Failure
import ClangIndex.Number.Integer
import ClangIndex.Text.Blank

namespace ClangIndex.Value

open Text (Bytes)

def readBytes (b : Bytes) : Option Int :=
  if b.all (· < 128) then Number.readInteger (b.map fun x => Char.ofNat x.toNat) else Option.none

def toInteger : Value → Except Failure Int
  | .int n => .ok n
  | .bool b => .ok (if b then 1 else 0)
  | .flags _ n => .ok n
  | .float x =>
    match x.truncate? with
    | some n => .ok n
    | Option.none => .error (.plain (if x = .nan then .value else .overflow))
  | .text s => ofReading (Number.readInteger s.toList)
  | .bytes b => ofReading (readBytes b)
  | _ => .error Failure.typeError
where
  ofReading : Option Int → Except Failure Int
    | some n => .ok n
    | Option.none => .error Failure.valueError

def numeric? : Value → Option (Int ⊕ Number.Binary64)
  | .int n => some (.inl n)
  | .bool b => some (.inl (if b then 1 else 0))
  | .flags _ n => some (.inl n)
  | .float x => some (.inr x)
  | _ => Option.none

def toBytes : Value → Except Failure Bytes
  | .bytes b => .ok b
  | .text s => .ok (Text.utf8 s)
  | .path s => .ok (Text.utf8 s)
  | .object (.bytesPath b) _ => .ok b
  | v => .error (.notText v.typeName)

def toPath : Value → Except Failure Value
  | .text s => .ok (.text s)
  | .bytes b => .ok (.bytes b)
  | .path s => .ok (.text s)
  | .object (.bytesPath b) _ => .ok (.bytes b)
  | _ => .error Failure.typeError

def asText? : Value → Option String
  | .text s => some s
  | .path s => some s
  | v => v.literal?

def linesFrom (line : List Char) : List Char → List (List Char)
  | [] => if line.isEmpty then [] else [line.reverse]
  | '\n' :: r => ('\n' :: line).reverse :: linesFrom [] r
  | c :: r => linesFrom (c :: line) r

def byteLinesFrom (line : Bytes) : Bytes → List Bytes
  | [] => if line.isEmpty then [] else [line.reverse]
  | b :: r =>
    if b = 10 then (b :: line).reverse :: byteLinesFrom [] r else byteLinesFrom (b :: line) r

def lines : Value → List Value
  | .text s => (linesFrom [] s.toList).map fun l => .text (String.ofList l)
  | .bytes b => (byteLinesFrom [] b).map .bytes
  | _ => []

def joined (binary : Bool) (xs : List Value) : Value :=
  if binary then .bytes (xs.flatMap bytesOf) else .text (String.join (xs.map textOf))
where
  bytesOf : Value → Bytes
    | .bytes b => b
    | _ => []
  textOf : Value → String
    | .text s => s
    | _ => ""

def items? : Value → Option (List Value)
  | .list xs => some xs
  | .tuple xs => some xs
  | .diagnostics xs _ => some xs
  | .text s => some (s.toList.map fun c => .text c.toString)
  | .bytes b => some (b.map fun x => .int x.toNat)
  | .mapping es => some (es.map fun e => e.1.value)
  | .flags f n => some ((f.bitsOf n).map fun m => .flags f m.2)
  | .filePosition f l c o => some [(f.map Value.handle).getD .none, .int l, .int c, .int o]
  | .presumedPosition f l c => some [.text f, .int l, .int c]
  | .fixIt v r => some [.text v, r]
  | .object (.unsavedFiles files) _ => some (files.map fun f => .tuple [.bytes f.1, .bytes f.2])
  | _ => Option.none

end ClangIndex.Value
