/-!
Binary floating-point numbers of 64 bits, as exact values. A number is read from a ratio by
rounding to the nearest, and shown by the fewest decimal digits that read back.
-/

namespace ClangIndex.Number

/-- A finite number is `mantissa * 2 ^ exponent` with its sign. -/
inductive Binary64
  | nan
  | infinite (negative : Bool)
  | finite (negative : Bool) (mantissa : Nat) (exponent : Int)
  deriving DecidableEq, Repr, Inhabited

namespace Binary64

def leastExponent : Int := -1074

def greatestExponent : Int := 971

def zero (negative : Bool) : Binary64 := .finite negative 0 leastExponent

def roundQuotient (num den : Nat) : Nat :=
  let q := num / den
  let r := num % den
  if 2 * r < den then q else if den < 2 * r then q + 1 else q + q % 2

def scaled (num den : Nat) (e : Int) : Nat × Nat :=
  if 0 ≤ e then (num, den * Nat.pow 2 e.toNat) else (num * Nat.pow 2 (-e).toNat, den)

/-- The exponent at which a positive ratio has 53 bits before the point, if it is not too small. -/
def exponent (num den : Nat) : Int :=
  let e := (Nat.log2 num : Int) - Nat.log2 den - 52
  let p := scaled num den e
  max (if p.1 < p.2 * Nat.pow 2 52 then e - 1 else e) leastExponent

def carry (mantissa : Nat) (exponent : Int) : Nat × Int :=
  if mantissa = Nat.pow 2 53 then (Nat.pow 2 52, exponent + 1) else (mantissa, exponent)

def bounded (negative : Bool) (p : Nat × Int) : Binary64 :=
  if greatestExponent < p.2 then .infinite negative else .finite negative p.1 p.2

def ofRatio (negative : Bool) (num den : Nat) : Binary64 :=
  if num = 0 ∨ den = 0 then zero negative
  else
    let e := exponent num den
    let p := scaled num den e
    bounded negative (carry (roundQuotient p.1 p.2) e)

def ofDecimal (negative : Bool) (digits : Nat) (power : Int) : Binary64 :=
  if digits = 0 then zero negative
  else if 0 ≤ power then
    if 400 < power then .infinite negative
    else ofRatio negative (digits * Nat.pow 10 power.toNat) 1
  else if (Nat.log2 digits : Int) + 3 * power < -1200 then zero negative
  else ofRatio negative digits (Nat.pow 10 (-power).toNat)

def ratio (mantissa : Nat) (exponent : Int) : Nat × Nat :=
  if 0 ≤ exponent then (mantissa * Nat.pow 2 exponent.toNat, 1)
  else (mantissa, Nat.pow 2 (-exponent).toNat)

def truncate? : Binary64 → Option Int
  | .finite negative m e =>
    let (n, d) := ratio m e
    let q : Int := (n / d : Nat)
    some (if negative then -q else q)
  | _ => none

def tenAbove (num den : Nat) : Int :=
  let guess : Int := ((Nat.log2 num : Int) - Nat.log2 den) * 30103 / 100000
  let below (k : Int) : Bool :=
    if 0 ≤ k then num < den * Nat.pow 10 k.toNat else num * Nat.pow 10 (-k).toNat < den
  if below (guess - 1) then guess - 1
  else if below guess then guess
  else if below (guess + 1) then guess + 1
  else guess + 2

def neighbour? (mantissa : Nat) (exponent : Int) (above : Int) (n : Nat) : Option (Nat × Int) :=
  let (num, den) := ratio mantissa exponent
  let power := above - n
  let (num, den) :=
    if 0 ≤ power then (num, den * Nat.pow 10 power.toNat)
    else (num * Nat.pow 10 (-power).toNat, den)
  let q := num / den
  let r := num % den
  let back (d : Nat) : Bool := ofDecimal false d power = .finite false mantissa exponent
  let low := back q
  let high := back (q + 1)
  if low && (!high || 2 * r < den || (2 * r = den && q % 2 = 0)) then some (q, power)
  else if high then some (q + 1, power)
  else none

/-- Digits and power of ten: the fewest digits that read back, else all digits of the value. -/
def shortest (mantissa : Nat) (exponent : Int) : Nat × Int :=
  let (num, den) := ratio mantissa exponent
  let above := tenAbove num den
  match (List.range 17).findSome? fun n => neighbour? mantissa exponent above (n + 1) with
  | some d => d
  | none =>
    if 0 ≤ exponent then (num, 0) else (mantissa * Nat.pow 5 (-exponent).toNat, exponent)

def zeros (n : Nat) : List Char := List.replicate n '0'

/-- Positional from `10 ^ -4` up to `10 ^ 16`, with at least one digit after the point; otherwise
one digit before the point and an exponent of at least two digits. -/
def decimalText (digits : Nat) (power : Int) : List Char :=
  let ds := Nat.toDigits 10 digits
  let stripped := (ds.reverse.dropWhile (· = '0')).reverse
  let point := power + ds.length
  let len := stripped.length
  if -4 < point ∧ point ≤ 16 then
    if point ≤ 0 then '0' :: '.' :: zeros (-point).toNat ++ stripped
    else if len ≤ point.toNat then stripped ++ zeros (point.toNat - len) ++ ['.', '0']
    else stripped.take point.toNat ++ '.' :: stripped.drop point.toNat
  else
    let e := point - 1
    let es := Nat.toDigits 10 e.natAbs
    let mantissa := match stripped with
      | [] => ['0']
      | [d] => [d]
      | d :: r => d :: '.' :: r
    mantissa ++ ['e', if e < 0 then '-' else '+'] ++ zeros (2 - es.length) ++ es

def text : Binary64 → List Char
  | .nan => ['n', 'a', 'n']
  | .infinite negative => if negative then ['-', 'i', 'n', 'f'] else ['i', 'n', 'f']
  | .finite negative m e =>
    let body := if m = 0 then ['0', '.', '0'] else
      let (d, p) := shortest m e
      decimalText d p
    if negative then '-' :: body else body

def isZero : Binary64 → Bool
  | .finite _ 0 _ => true
  | _ => false

def ratio? : Binary64 → Option (Int × Nat)
  | .finite negative m e =>
    let (n, d) := ratio m e
    some (if negative then -(n : Int) else n, d)
  | _ => none

def equal : Binary64 → Binary64 → Bool
  | .infinite a, .infinite b => a == b
  | x, y =>
    match x.ratio?, y.ratio? with
    | some (a, b), some (c, d) => a * d == c * b
    | _, _ => false

def isInteger (x : Binary64) (n : Int) : Bool :=
  match x.ratio? with
  | some (a, b) => a == n * b
  | none => false

def isBelow (x : Binary64) (n : Int) : Bool :=
  match x, x.ratio? with
  | .infinite negative, _ => negative
  | _, some (a, b) => a < n * b
  | _, none => false

def reaches (x : Binary64) (n : Int) : Bool :=
  match x, x.ratio? with
  | .infinite negative, _ => !negative
  | _, some (a, b) => n * b ≤ a
  | _, none => false

end Binary64

end ClangIndex.Number
