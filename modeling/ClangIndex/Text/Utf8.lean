/-!
UTF-8 between characters and bytes. Reading never fails: each maximal piece that cannot be
continued to a character becomes one replacement character.
-/

namespace ClangIndex.Text

abbrev Bytes := List UInt8

namespace Utf8

def encode (s : List Char) : Bytes := s.flatMap String.utf8EncodeChar

def replacement : Char := '\uFFFD'

/-- What has been read of a character that is not complete: the bits so far, how many bytes are
missing, and the range in which the next byte must lie. -/
inductive Pending
  | none
  | some (bits : Nat) (missing : Nat) (low high : UInt8)

def start (b : UInt8) : List Char × Pending :=
  if b < 0x80 then ([Char.ofNat b.toNat], .none)
  else if b < 0xC2 then ([replacement], .none)
  else if b < 0xE0 then ([], .some (b.toNat % 0x20) 1 0x80 0xBF)
  else if b < 0xF0 then
    let low := if b = 0xE0 then 0xA0 else 0x80
    let high := if b = 0xED then 0x9F else 0xBF
    ([], .some (b.toNat % 0x10) 2 low high)
  else if b < 0xF5 then
    let low := if b = 0xF0 then 0x90 else 0x80
    let high := if b = 0xF4 then 0x8F else 0xBF
    ([], .some (b.toNat % 0x08) 3 low high)
  else ([replacement], .none)

def next : Pending → UInt8 → List Char × Pending
  | .none, b => start b
  | .some bits missing low high, b =>
    if low ≤ b ∧ b ≤ high then
      let bits := bits * 0x40 + b.toNat % 0x40
      match missing with
      | 0 | 1 => ([Char.ofNat bits], .none)
      | n + 2 => ([], .some bits (n + 1) 0x80 0xBF)
    else
      let (cs, p) := start b
      (replacement :: cs, p)

def Pending.next? (p : Pending) (b : UInt8) : Option (List Char × Pending) :=
  match p with
  | .none =>
    match start b with
    | ([c], q) => if c = replacement then Option.none else Option.some ([c], q)
    | s => Option.some s
  | .some _ _ low high =>
    if low ≤ b ∧ b ≤ high then Option.some (next p b) else Option.none

def decodeFrom : Pending → Bytes → List Char
  | .none, [] => []
  | .some .., [] => [replacement]
  | p, b :: r =>
    let (cs, q) := next p b
    cs ++ decodeFrom q r

def decode (b : Bytes) : List Char := decodeFrom .none b

def isValid (b : Bytes) : Bool := encode (decode b) == b

@[simp] theorem encode_nil : encode [] = [] := rfl

@[simp] theorem encode_cons (c : Char) (s : List Char) :
    encode (c :: s) = String.utf8EncodeChar c ++ encode s := rfl

@[simp] theorem encode_append (s t : List Char) : encode (s ++ t) = encode s ++ encode t := by
  simp [encode]

end Utf8

def utf8 (s : String) : Bytes := Utf8.encode s.toList

def ofUtf8 (b : Bytes) : String := String.ofList (Utf8.decode b)

def ofUtf8? (b : Bytes) : Option String := if Utf8.isValid b then some (ofUtf8 b) else none

def cString (b : Bytes) : Bytes := b.takeWhile (· ≠ 0)

namespace Hex

def digit (n : Nat) : Char := if n < 10 then Char.ofNat (48 + n) else Char.ofNat (87 + n)

def value? (c : Char) : Option Nat :=
  if '0' ≤ c ∧ c ≤ '9' then some (c.toNat - 48)
  else if 'a' ≤ c ∧ c ≤ 'f' then some (c.toNat - 87)
  else if 'A' ≤ c ∧ c ≤ 'F' then some (c.toNat - 55)
  else none

def encode (b : Bytes) : List Char :=
  b.flatMap fun x => [digit (x.toNat / 16), digit (x.toNat % 16)]

def decode : List Char → Option Bytes
  | [] => some []
  | a :: b :: r => do
    let x ← value? a
    let y ← value? b
    let t ← decode r
    pure (UInt8.ofNat (16 * x + y) :: t)
  | [_] => none

def digits (width n : Nat) : List Char :=
  let ds := Nat.toDigits 16 n
  List.replicate (width - ds.length) '0' ++ ds

end Hex

end ClangIndex.Text
