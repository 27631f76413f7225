import ClangIndex.Number.Rounded
import ClangIndex.Value.Conversion

namespace ClangIndex.Log

structure Place where
  left : Bool := false
  zeros : Bool := false
  plus : Bool := false
  space : Bool := false
  marked : Bool := false
  width : Nat := 0
  precision : Option Nat := none
  letter : Char := 's'
  deriving Repr

namespace Place

def greatestCount : Nat := Nat.pow 2 31 - 1

def longest : Nat := Nat.pow 2 28

def pad (p : Place) (s : List Char) : List Char :=
  let blanks := List.replicate (p.width - s.length) ' '
  if p.left then s ++ blanks else blanks ++ s

def padNumber (p : Place) (negative : Bool) (base digits : List Char) : List Char :=
  let sign := if negative then ['-'] else if p.plus then ['+'] else if p.space then [' '] else []
  let start := sign ++ base
  if p.zeros && !p.left then
    start ++ List.replicate (p.width - start.length - digits.length) '0' ++ digits
  else p.pad (start ++ digits)

def cut (p : Place) (s : List Char) : List Char := p.precision.elim s fun n => s.take n

def capitals (capital : Bool) (s : List Char) : List Char :=
  if capital then s.map Char.toUpper else s

def integer (p : Place) (base : Nat) (mark : List Char) (capital : Bool) (n : Int) : List Char :=
  let digits := Nat.toDigits base n.natAbs
  let digits := List.replicate ((p.precision.getD 0) - digits.length) '0' ++ digits
  p.padNumber (n < 0) (capitals capital (if p.marked then mark else [])) (capitals capital digits)

def binary (p : Place) (written : Bool → Nat → Nat → Nat → List Char) (capital : Bool)
    (x : Number.Binary64) : List Char :=
  match x with
  | .nan => p.padNumber false [] (capitals capital "nan".toList)
  | .infinite negative => p.padNumber negative [] (capitals capital "inf".toList)
  | .finite negative m e =>
    let (n, d) := Number.Binary64.ratio m e
    p.padNumber negative [] (capitals capital (written p.marked (p.precision.getD 6) n d))

def wholeNumber? : Value → Option Int
  | .int n => some n
  | .bool b => some (if b then 1 else 0)
  | _ => none

def decimal? : Value → Option Int
  | .float x => x.truncate?
  | v => wholeNumber? v

def binary? : Value → Option Number.Binary64
  | .float x => some x
  | v => do
    match Number.Binary64.ofRatio ((← wholeNumber? v) < 0) (← wholeNumber? v).natAbs 1 with
    | .infinite _ => none
    | x => some x

def character? (v : Value) : Option Char :=
  match v with
  | .text s =>
    match s.toList with
    | [c] => some c
    | _ => none
  | _ => do
    let n ← wholeNumber? v
    if h : 0 ≤ n ∧ n.toNat.isValidChar then some (Char.ofNatAux n.toNat h.2) else none

def isNumeric (c : Char) : Bool := "diuoxXeEfFgG".toList.contains c

/-- An argument in its place, if it fits. Only numbers in base ten have a greatest length. -/
def written (p : Place) (v : Value) : Option (List Char) :=
  match p.letter with
  | 's' => v.asText?.map fun s => p.pad (p.cut s.toList)
  | 'r' => v.literal?.map fun s => p.pad (p.cut s.toList)
  | 'a' => v.literal?.map fun s => p.pad (p.cut (Text.Literal.inAscii s.toList))
  | 'c' => (character? v).map fun c => p.pad [c]
  | 'd' | 'i' | 'u' =>
    ((decimal? v).filter fun n => (Number.writeInteger? n).isSome).map (p.integer 10 [] false)
  | 'x' => (wholeNumber? v).map fun n => p.integer 16 ['0', 'x'] false n
  | 'X' => (wholeNumber? v).map fun n => p.integer 16 ['0', 'x'] true n
  | 'o' => (wholeNumber? v).map fun n => p.integer 8 ['0', 'o'] false n
  | 'f' => (binary? v).map (p.binary Number.Binary64.fixedText false)
  | 'F' => (binary? v).map (p.binary Number.Binary64.fixedText true)
  | 'e' => (binary? v).map (p.binary Number.Binary64.scientificText false)
  | 'E' => (binary? v).map (p.binary Number.Binary64.scientificText true)
  | 'g' => (binary? v).map (p.binary Number.Binary64.generalText false)
  | 'G' => (binary? v).map (p.binary Number.Binary64.generalText true)
  | _ => none

def write (p : Place) (v : Value) : Option (List Char) :=
  if longest < p.width || (isNumeric p.letter && longest < p.precision.getD 0) then none
  else p.written v

end Place

end ClangIndex.Log
