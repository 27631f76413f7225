import ClangIndex.Number.Arithmetic
import ClangIndex.Number.Integer
import ClangIndex.Yaml.Place

namespace ClangIndex.Yaml

open Number (Binary64)

inductive ScalarType
  | null
  | bool
  | int
  | float
  | moment
  | merge
  | default
  | text
  deriving DecidableEq, Repr, Inhabited

def isDigit (c : Char) : Bool := '0' ≤ c && c ≤ '9'

def isDigitOrGap (c : Char) : Bool := isDigit c || c = '_'

def unsigned : List Char → List Char
  | '-' :: r => r
  | '+' :: r => r
  | s => s

def nullWords : List String := ["", "~", "null", "Null", "NULL"]

def boolWords : List (String × Bool) := [
    ("yes", true), ("no", false), ("true", true), ("false", false), ("on", true), ("off", false)]

def capitalized : List Char → List Char
  | [] => []
  | c :: r => c.toUpper :: r

def isSpellingOf (word : String) (s : List Char) : Bool :=
  s == word.toList || s == capitalized word.toList || s == word.toList.map Char.toUpper

def afterSixties : Nat → List Char → Option (List Char)
  | 0, _ => none
  | n + 1, s =>
    match s with
    | ':' :: a :: r =>
      if !isDigit a then none
      else
        let rest := match r with
          | b :: r' => if a ≤ '5' && isDigit b then r' else r
          | [] => r
        match rest with
        | ':' :: _ => afterSixties n rest
        | _ => some rest
    | _ => none

def isExponent : List Char → Bool
  | [] => true
  | e :: sign :: r =>
    (e = 'e' || e = 'E') && (sign = '-' || sign = '+') && !r.isEmpty && r.all isDigit
  | _ => false

def isFraction (s : List Char) : Bool := isExponent (s.dropWhile isDigitOrGap)

def isPlainFloat (s : List Char) : Bool :=
  match s with
  | '.' :: c :: r => isDigit c && isFraction r
  | _ =>
    match unsigned s with
    | [] => false
    | c :: r =>
      isDigit c && match r.dropWhile isDigitOrGap with
        | '.' :: f => isFraction f
        | r =>
          match afterSixties (r.length + 1) r with
          | some ('.' :: f) => f.all isDigitOrGap
          | _ => false

def isFloat (s : List Char) : Bool :=
  isPlainFloat s || ([".inf", ".Inf", ".INF"].any fun w => unsigned s == w.toList) ||
    [".nan", ".NaN", ".NAN"].any fun w => s == w.toList

def isHexOrGap (c : Char) : Bool :=
  isDigitOrGap c || ('a' ≤ c && c ≤ 'f') || ('A' ≤ c && c ≤ 'F')

def isInt (s : List Char) : Bool :=
  match unsigned s with
  | ['0'] => true
  | '0' :: 'b' :: r => !r.isEmpty && r.all fun c => c = '0' || c = '1' || c = '_'
  | '0' :: 'x' :: r => !r.isEmpty && r.all isHexOrGap
  | '0' :: r => !r.isEmpty && r.all fun c => ('0' ≤ c && c ≤ '7') || c = '_'
  | c :: r =>
    isDigit c && match r.dropWhile isDigitOrGap with
      | [] => true
      | r => afterSixties (r.length + 1) r == some []
  | [] => false

structure Written where
  year : Nat
  month : Nat
  day : Nat
  time : Option (Nat × Nat × Nat × List Char) := none
  zone : Option Int := none
  full : Bool := true

def digitsNumber (ds : List Char) : Nat := ds.foldl (fun n c => 10 * n + (c.toNat - 48)) 0

def takeDigits (least most : Nat) (s : List Char) : Option (List Char × List Char) :=
  let ds := (s.take most).takeWhile isDigit
  if ds.length < least then none else some (ds, s.drop ds.length)

def takeMark (c : Char) : List Char → Option (List Char)
  | x :: r => if x = c then some r else none
  | [] => none

def readZone (s : List Char) : Option (Option Int) :=
  let bare (c : Char) : Bool := c = ' ' || c = '\t'
  match s, s.dropWhile bare with
  | [], _ => some none
  | _, ['Z'] => some (some 0)
  | _, sign :: r =>
    if sign = '-' || sign = '+' then do
      let (h, r) ← takeDigits 1 2 r
      let minutes ← match r with
        | [] => some 0
        | _ => do
          let (m, r) ← takeDigits 2 2 (← takeMark ':' r)
          if r.isEmpty then some (digitsNumber m) else none
      let distance : Int := 3600 * digitsNumber h + 60 * minutes
      some (some (if sign = '-' then -distance else distance))
    else none
  | _, [] => none

def readTime (s : List Char) : Option ((Nat × Nat × Nat × List Char) × Option Int) := do
  let (h, s) ← takeDigits 1 2 s
  let (m, s) ← takeDigits 2 2 (← takeMark ':' s)
  let (sec, s) ← takeDigits 2 2 (← takeMark ':' s)
  let (fraction, s) := match s with
    | '.' :: r => (r.takeWhile isDigit, r.dropWhile isDigit)
    | _ => ([], s)
  let zone ← readZone s
  some ((digitsNumber h, digitsNumber m, digitsNumber sec, fraction), zone)

def afterDate : List Char → Option (List Char)
  | 'T' :: r => some r
  | 't' :: r => some r
  | c :: r => if c = ' ' || c = '\t' then some (r.dropWhile fun c => c = ' ' || c = '\t') else none
  | [] => none

def withoutLineEnd (s : List Char) : List Char :=
  if s.getLast? = some '\n' then s.dropLast else s

def readMoment (s : List Char) : Option Written := do
  let s := withoutLineEnd s
  let (y, s) ← takeDigits 4 4 s
  let (m, s) ← takeDigits 1 2 (← takeMark '-' s)
  let (d, s) ← takeDigits 1 2 (← takeMark '-' s)
  let full := m.length = 2 && d.length = 2
  if s.isEmpty then
    some { year := digitsNumber y, month := digitsNumber m, day := digitsNumber d, full }
  else
    let (time, zone) ← readTime (← afterDate s)
    some {
      year := digitsNumber y, month := digitsNumber m, day := digitsNumber d, time, zone, full }

def isMoment (s : List Char) : Bool :=
  match readMoment s with
  | some w => w.time.isSome || w.full
  | none => false

def ScalarType.ofWord (s : List Char) : ScalarType :=
  if boolWords.any fun w => isSpellingOf w.1 s then .bool
  else if isFloat s then .float
  else if isInt s then .int
  else if s == ['<', '<'] then .merge
  else if nullWords.any fun w => s == w.toList then .null
  else if isMoment s then .moment
  else if s == ['='] then .default
  else .text

def ScalarType.ofPlain (s : List Char) : ScalarType :=
  if s == ['\n'] then .text else .ofWord (withoutLineEnd s)

inductive NumberFault
  | empty
  | malformed
  | tooLarge
  deriving DecidableEq, Repr

def sixtiesInteger? (s : List Char) : Option Int :=
  (Text.splitAt ':' s).foldl
    (fun n? part => do return 60 * (← n?) + (← Number.readInteger part)) (some 0)

def isNegative (s : List Char) : Bool := s.head? = some '-'

def withoutGaps (s : List Char) : List Char := s.filter (· != '_')

/-- A leading zero makes a number octal, a colon sexagesimal. -/
def readInt (s : List Char) : Except NumberFault Int :=
  let s := withoutGaps s
  let sign : Int := if isNegative s then -1 else 1
  let natural : List Char → Option Int
    | ['0'] => some 0
    | '0' :: 'b' :: r => Number.readInBase 2 'b' r
    | '0' :: 'x' :: r => Number.readInBase 16 'x' r
    | '0' :: r => Number.readInBase 8 'o' ('0' :: r)
    | r => if r.contains ':' then sixtiesInteger? r else Number.readInteger r
  if (unsigned s).isEmpty then .error .empty
  else match natural (unsigned s) with
    | some n => .ok (sign * n)
    | none => .error .malformed

def decimal? (s : List Char) : Option Binary64 := do
  let whole := s.takeWhile isDigit
  let s := s.dropWhile isDigit
  let (fraction, s) := match s with
    | '.' :: r => (r.takeWhile isDigit, r.dropWhile isDigit)
    | _ => ([], s)
  let digits := whole ++ fraction
  if digits.isEmpty then none
  else
    let power ← match s with
      | [] => some 0
      | e :: r =>
        if e ≠ 'e' then none
        else if (unsigned r).isEmpty || !(unsigned r).all isDigit then none
        else
          let n : Int := digitsNumber (unsigned r)
          some (if isNegative r then -n else n)
    some (Binary64.ofDecimal false (digitsNumber digits) (power - fraction.length))

def floatNumber? (s : List Char) : Option Binary64 :=
  let s := (Number.trimmed s).map Number.plainDigit
  let body := unsigned s
  let x? := if body == "inf".toList || body == "infinity".toList then some (.infinite false)
    else if body == "nan".toList then some .nan
    else decimal? body
  x?.map fun x => if isNegative s then x.negated else x

/-- The last part counts once, and each part before it sixty times the one after. The factors are
binary numbers as well. -/
def sixtiesSum (unit : Nat) (sum : Binary64) : List Binary64 → Except NumberFault Binary64
  | [] => .ok sum
  | x :: r =>
    let factor := Binary64.ofInteger unit
    if factor.isInfinite then .error .tooLarge
    else sixtiesSum (60 * unit) (sum.plus (x.times factor)) r

def readMagnitude (s : List Char) : Except NumberFault Binary64 :=
  if s == ".inf".toList then .ok (.infinite false)
  else if s == ".nan".toList then .ok .nan
  else if s.contains ':' then
    match (Text.splitAt ':' s).mapM floatNumber? with
    | some xs => sixtiesSum 1 (Binary64.zero false) xs.reverse
    | none => .error .malformed
  else match floatNumber? s with
    | some x => .ok x
    | none => .error .malformed

def readFloat (s : List Char) : Except NumberFault Binary64 :=
  let s := Text.lowerAscii (withoutGaps s)
  if s.isEmpty then .error .empty
  else (readMagnitude (unsigned s)).map fun x => if isNegative s then x.negated else x

end ClangIndex.Yaml
