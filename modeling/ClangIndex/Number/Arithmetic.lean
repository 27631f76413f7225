import ClangIndex.Number.Binary64

namespace ClangIndex.Number.Binary64

def ofInteger (n : Int) : Binary64 := ofRatio (n < 0) n.natAbs 1

def isInfinite : Binary64 → Bool
  | .infinite _ => true
  | _ => false

def isNegative : Binary64 → Bool
  | .infinite negative => negative
  | .finite negative _ _ => negative
  | .nan => false

def negated : Binary64 → Binary64
  | .nan => .nan
  | .infinite negative => .infinite !negative
  | .finite negative m e => .finite (!negative) m e

def plus (x y : Binary64) : Binary64 :=
  match x.ratio?, y.ratio? with
  | some (a, b), some (c, d) =>
    let n := a * d + c * b
    if n = 0 then zero (x.isNegative && y.isNegative) else ofRatio (n < 0) n.natAbs (b * d)
  | some _, none => y
  | none, some _ => x
  | none, none => if x = y then x else .nan

def times (x y : Binary64) : Binary64 :=
  let negative := x.isNegative != y.isNegative
  match x.ratio?, y.ratio? with
  | some (a, b), some (c, d) => ofRatio negative (a * c).natAbs (b * d)
  | _, _ =>
    if x = .nan ∨ y = .nan ∨ x.isZero ∨ y.isZero then .nan else .infinite negative

end ClangIndex.Number.Binary64
