import ClangIndex.Number.Binary64

namespace ClangIndex.Number.Residue

def bits : Nat := 61

def prime : Nat := Nat.pow 2 bits - 1

/-- A magnitude with a sign; the residue -1 is set apart, and -2 stands for it. -/
def signed (negative : Bool) (n : Nat) : Int :=
  let r : Int := if negative then -((n % prime : Nat) : Int) else (n % prime : Nat)
  if r = -1 then -2 else r

def ofInt (n : Int) : Int := signed (n < 0) n.natAbs

def ofBinary64 : Binary64 → Int
  | .nan => 0
  | .infinite negative => if negative then -314159 else 314159
  | .finite negative m e => signed negative (m * Nat.pow 2 (e % (bits : Int)).toNat)

def word : Nat := Nat.pow 2 64

def rotate (n k : Nat) : Nat := (n * Nat.pow 2 k) % word + n / Nat.pow 2 (64 - k)

def step (acc : Nat) (r : Int) : Nat :=
  let lane := (r % (word : Int)).toNat
  rotate ((acc + lane * 14029467366897019727) % word) 31 * 11400714785074694791 % word

def ofRow (rs : List Int) : Int :=
  let seed := 2870177450012600261
  let acc := (rs.foldl step seed + (rs.length ^^^ (seed ^^^ 3527539))) % word
  if acc = word - 1 then 1546275796
  else if acc < Nat.pow 2 63 then acc else (acc : Int) - word

end ClangIndex.Number.Residue
