import ClangIndex.Number.Binary64

namespace ClangIndex.Number.Binary64

/-- No finite number has more digits than this, after its point or in all. Further ones are zero. -/
def mostDigits : Nat := 1100

structure Digits where
  digits : List Char
  point : Int
  deriving DecidableEq, Repr, Inhabited

def significant (num den count : Nat) : Digits :=
  if num = 0 then ⟨zeros count, 1⟩
  else
    let point := tenAbove num den
    let n := min count mostDigits
    let power := point - n
    let q :=
      if 0 ≤ power then roundQuotient num (den * Nat.pow 10 power.toNat)
      else roundQuotient (num * Nat.pow 10 (-power).toNat) den
    let ds := Nat.toDigits 10 q
    if n < ds.length then ⟨'1' :: zeros (count - 1), point + 1⟩
    else ⟨ds ++ zeros (count - n), point⟩

def pointed (keepPoint : Bool) (whole fraction : List Char) : List Char :=
  if fraction.isEmpty && !keepPoint then whole else whole ++ '.' :: fraction

def fixedText (keepPoint : Bool) (places num den : Nat) : List Char :=
  let n := min places mostDigits
  let ds := Nat.toDigits 10 (roundQuotient (num * Nat.pow 10 n) den)
  let ds := zeros (n + 1 - ds.length) ++ ds
  let whole := ds.take (ds.length - n)
  pointed keepPoint whole (ds.drop whole.length ++ zeros (places - n))

def withExponent (keepPoint : Bool) (d : Digits) : List Char :=
  let e := d.point - 1
  let es := Nat.toDigits 10 e.natAbs
  pointed keepPoint (d.digits.take 1) (d.digits.drop 1) ++
    ['e', if e < 0 then '-' else '+'] ++ zeros (2 - es.length) ++ es

def scientificText (keepPoint : Bool) (places num den : Nat) : List Char :=
  withExponent keepPoint (significant num den (places + 1))

def positional (keepPoint : Bool) (d : Digits) : List Char :=
  if d.point ≤ 0 then pointed keepPoint ['0'] (zeros (-d.point).toNat ++ d.digits)
  else
    let n := d.point.toNat
    pointed keepPoint (d.digits.take n ++ zeros (n - d.digits.length)) (d.digits.drop n)

/-- A count of digits in all, at least one, without zeros at their end unless the point is kept. An
exponent is written below `10 ^ -4`, and where there are too few digits to reach the point. -/
def generalText (keepPoint : Bool) (count num den : Nat) : List Char :=
  let count := max 1 count
  let d := significant num den count
  let kept := if keepPoint then d.digits else (d.digits.reverse.dropWhile (· = '0')).reverse
  let d := { d with digits := if kept.isEmpty then ['0'] else kept }
  if d.point ≤ -4 || (count : Int) < d.point then withExponent keepPoint d
  else positional keepPoint d

end ClangIndex.Number.Binary64
