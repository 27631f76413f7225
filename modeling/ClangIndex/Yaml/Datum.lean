import ClangIndex.Text.Base64
import ClangIndex.Text.Literal
import ClangIndex.Yaml.Scalar
import ClangIndex.Yaml.Plain

namespace ClangIndex.Yaml

open Number (Binary64)

structure Moment where
  year : Nat
  month : Nat
  day : Nat
  hour : Nat
  minute : Nat
  second : Nat
  micro : Nat
  zone : Option Int
  deriving DecidableEq, Repr, Inhabited

inductive Datum
  | null
  | bool (b : Bool)
  | int (n : Int)
  | float (x : Binary64)
  | text (codes : List Nat)
  | bytes (b : Text.Bytes)
  | date (year month day : Nat)
  | moment (m : Moment)
  | list (id : Nat)
  | map (id : Nat)
  | set (id : Nat)
  deriving DecidableEq, Inhabited

inductive Refusal
  | fault (f : Fault)
  | number (f : NumberFault)
  | keyword
  | notMoment
  | notText
  | noSuchMoment
  deriving DecidableEq, Repr

namespace Moment

def isLeap (y : Nat) : Bool := (y % 4 = 0 && y % 100 ≠ 0) || y % 400 = 0

def daysIn (y m : Nat) : Nat :=
  if m = 2 then if isLeap y then 29 else 28
  else if m = 4 ∨ m = 6 ∨ m = 9 ∨ m = 11 then 30 else 31

def isDate (y m d : Nat) : Bool :=
  1 ≤ y && 1 ≤ m && m ≤ 12 && 1 ≤ d && d ≤ daysIn y m

def micros (ds : List Char) : Nat :=
  let ds := ds.take 6
  digitsNumber ds * Nat.pow 10 (6 - ds.length)

def daysBefore (y m d : Nat) : Nat :=
  let y' := y - 1
  365 * y' + y' / 4 - y' / 100 + y' / 400 + d +
    (List.range m).foldl (fun days k => days + if k = 0 then 0 else daysIn y k) 0

def clock (m : Moment) : Int :=
  let seconds := 86400 * daysBefore m.year m.month m.day + 3600 * m.hour + 60 * m.minute + m.second
  1000000 * seconds + m.micro

/-- Moments are the same if they are at one time, however their zones are written. A moment without
a zone is never the same as one with a zone. -/
def isSame (m n : Moment) : Bool :=
  match m.zone, n.zone with
  | some a, some b => m.clock - 1000000 * a == n.clock - 1000000 * b
  | none, none => m.clock == n.clock
  | _, _ => false

def isClock (h m s : Nat) : Bool := h < 24 && m < 60 && s < 60

def isZone : Option Int → Bool
  | some z => -86400 < z && z < 86400
  | none => true

def zoneLiteral (z : Int) : String :=
  if z = 0 then "datetime.timezone.utc"
  else
    let days := z.fdiv 86400
    let seconds := z.fmod 86400
    let parts :=
      (if days = 0 then [] else ["days=" ++ toString days]) ++
        (if seconds = 0 then [] else ["seconds=" ++ toString seconds])
    "datetime.timezone(datetime.timedelta(" ++ ", ".intercalate parts ++ "))"

def literal (m : Moment) : String :=
  let parts := [m.year, m.month, m.day, m.hour, m.minute] ++
    (if m.second = 0 ∧ m.micro = 0 then [] else [m.second]) ++
    if m.micro = 0 then [] else [m.micro]
  let zone := m.zone.elim [] fun z => ["tzinfo=" ++ zoneLiteral z]
  "datetime.datetime(" ++ ", ".intercalate (parts.map toString ++ zone) ++ ")"

end Moment

namespace Datum

def ofWritten (w : Written) : Except Refusal Datum :=
  if !Moment.isDate w.year w.month w.day then .error .noSuchMoment
  else match w.time with
    | none => .ok (.date w.year w.month w.day)
    | some (h, m, s, fraction) =>
      if Moment.isClock h m s && Moment.isZone w.zone then
        .ok (.moment ⟨w.year, w.month, w.day, h, m, s, Moment.micros fraction, w.zone⟩)
      else .error .noSuchMoment

def ofScalar (t : ScalarType) (s : List Char) : Except Refusal Datum :=
  match t with
  | .null => .ok .null
  | .bool =>
    match boolWords.find? fun w => Text.lowerAscii s == w.1.toList with
    | some (_, b) => .ok (.bool b)
    | none => .error .keyword
  | .int => (readInt s).map Datum.int |>.mapError .number
  | .float => (readFloat s).map Datum.float |>.mapError .number
  | .moment =>
    match readMoment s with
    | some w => ofWritten w
    | none => .error .notMoment
  | .merge => .error (.fault (.unknownTag "merge"))
  | .default => .error (.fault (.unknownTag "value"))
  | .text => .ok (.text (codes s))

def ofBase64 (s : List Nat) : Except Refusal Datum :=
  let written := if s.all (· < 128) then Text.Base64.decode? (s.map Char.ofNat) else none
  match written with
  | some b => .ok (.bytes b)
  | none => .error (.fault (.wrongKind "binary"))

def typeOfTag? (name : String) : Option ScalarType :=
  match name with
  | "null" => some .null
  | "bool" => some .bool
  | "int" => some .int
  | "float" => some .float
  | "timestamp" => some .moment
  | "str" => some .text
  | "merge" => some .merge
  | "value" => some .default
  | _ => none

def wholeNumber? : Datum → Option Int
  | .bool b => some (if b then 1 else 0)
  | .int n => some n
  | _ => none

/-- Numbers are equal by value, whatever their type. What is no number is one key only. -/
def sameKey : Datum → Datum → Bool
  | .null, .null => true
  | .text s, .text t => s == t
  | .bytes a, .bytes b => a == b
  | .date a b c, .date d e f => a == d && b == e && c == f
  | .moment m, .moment n => m.isSame n
  | .float x, .float y => x.equal y || x == y
  | .float x, d => d.wholeNumber?.any x.isInteger
  | d, .float x => d.wholeNumber?.any x.isInteger
  | x, y => x.wholeNumber?.isSome && x.wholeNumber? == y.wholeNumber?

def isHashable : Datum → Bool
  | .list _ | .map _ | .set _ => false
  | _ => true

def put (k v : Datum) : List (Datum × Datum) → List (Datum × Datum)
  | [] => [(k, v)]
  | (j, w) :: r => if j.sameKey k then (j, v) :: r else (j, w) :: put k v r

def typeName : Datum → String
  | .null => "NoneType"
  | .bool _ => "bool"
  | .int _ => "int"
  | .float _ => "float"
  | .text _ => "str"
  | .bytes _ => "bytes"
  | .date .. => "date"
  | .moment _ => "datetime"
  | .list _ => "list"
  | .map _ => "dict"
  | .set _ => "set"

def text? : Datum → Option String
  | .text s => some (String.ofList (s.map fun n =>
      if n.isValidChar then Char.ofNat n else Text.Utf8.replacement))
  | _ => none

def textIs (s : String) : Datum → Bool
  | .text t => t == codes s.toList
  | _ => false

end Datum

end ClangIndex.Yaml
