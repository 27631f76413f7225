import ClangIndex.Text.Blank

namespace ClangIndex.Number

def digitZeros : List Nat := [
    48, 1632, 1776, 1984, 2406, 2534, 2662, 2790, 2918, 3046, 3174, 3302, 3430, 3558, 3664, 3792,
    3872, 4160, 4240, 6112, 6160, 6470, 6608, 6784, 6800, 6992, 7088, 7232, 7248, 42528, 43216,
    43264, 43472, 43504, 43600, 44016, 65296, 66720, 68912, 69734, 69872, 69942, 70096, 70384,
    70736, 70864, 71248, 71360, 71472, 71904, 72016, 72784, 73040, 73120, 92768, 92864, 93008,
    120782, 120792, 120802, 120812, 120822, 123200, 123632, 125264, 130032]

def decimalDigit? (c : Char) : Option Nat :=
  let n := c.toNat
  digitZeros.findSome? fun z => if z ≤ n ∧ n < z + 10 then some (n - z) else none

def readDigits (acc : Nat) : List Char → Option Nat
  | [] => some acc
  | '_' :: c :: r => do
    let d ← decimalDigit? c
    readDigits (10 * acc + d) r
  | c :: r => do
    let d ← decimalDigit? c
    readDigits (10 * acc + d) r

def mostDigits : Nat := 4300

def readNatural : List Char → Option Nat
  | [] => none
  | c :: r =>
    if mostDigits < ((c :: r).filter (· ≠ '_')).length then none
    else do
      let d ← decimalDigit? c
      readDigits d r

def writeInteger? (n : Int) : Option String :=
  let s := toString n.natAbs
  if mostDigits < s.length then none else some (if n < 0 then "-" ++ s else s)

/-- The blanks that may stand around a number: all but the four separators of ASCII. -/
def isBlankAround (c : Char) : Bool := Text.isBlank c && !(28 ≤ c.toNat && c.toNat < 32)

def trimmed (s : List Char) : List Char :=
  ((s.dropWhile isBlankAround).reverse.dropWhile isBlankAround).reverse

def readInteger (s : List Char) : Option Int :=
  match trimmed s with
  | '-' :: r => (readNatural r).map fun n => -(n : Int)
  | '+' :: r => (readNatural r).map fun n => (n : Int)
  | r => (readNatural r).map fun n => (n : Int)

def plainDigit (c : Char) : Char := ((decimalDigit? c).map fun d => Char.ofNat (48 + d)).getD c

def baseDigit? (base : Nat) (c : Char) : Option Nat :=
  let d? := if 'a' ≤ c ∧ c ≤ 'f' then some (c.toNat - 87)
    else if 'A' ≤ c ∧ c ≤ 'F' then some (c.toNat - 55)
    else decimalDigit? c
  d?.filter (· < base)

def withoutMark (letter : Char) : List Char → List Char
  | '0' :: c :: r => if c.toLower = letter then r else '0' :: c :: r
  | s => s

def readNaturalInBase (base : Nat) (letter : Char) (s : List Char) : Option Nat :=
  match withoutMark letter s with
  | [] => none
  | ds => ds.foldl (fun n? c => do return base * (← n?) + (← baseDigit? base c)) (some 0)

def readInBase (base : Nat) (letter : Char) (s : List Char) : Option Int :=
  match trimmed s with
  | '-' :: r => (readNaturalInBase base letter r).map fun n => -(n : Int)
  | '+' :: r => (readNaturalInBase base letter r).map fun n => (n : Int)
  | r => (readNaturalInBase base letter r).map fun n => (n : Int)

structure Width where
  bits : Nat
  signed : Bool
  deriving DecidableEq, Repr

namespace Width

def int32 : Width := ⟨32, true⟩
def uint32 : Width := ⟨32, false⟩
def int64 : Width := ⟨64, true⟩
def uint64 : Width := ⟨64, false⟩

def wrap (w : Width) (n : Int) : Int :=
  if w.signed then n.bmod (Nat.pow 2 w.bits) else n % (Nat.pow 2 w.bits : Nat)

theorem wrap_int32 {n : Int} (low : -2147483648 ≤ n)
    (high : n < 2147483648) : int32.wrap n = n := by
  change n.bmod 4294967296 = n
  exact Int.bmod_eq_of_le (by omega) (by omega)

theorem le_wrap_int32 (n : Int) : -2147483648 ≤ int32.wrap n := by
  change _ ≤ n.bmod 4294967296
  have := Int.le_bmod (x := n) (by decide : 0 < 4294967296)
  omega

theorem wrap_int32_lt (n : Int) : int32.wrap n < 2147483648 := by
  change n.bmod 4294967296 < _
  have := Int.bmod_lt (x := n) (by decide : 0 < 4294967296)
  omega

end Width

end ClangIndex.Number
