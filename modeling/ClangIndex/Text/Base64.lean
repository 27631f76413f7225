import ClangIndex.Text.Utf8

namespace ClangIndex.Text.Base64

def digit? (c : Char) : Option Nat :=
  if 'A' ≤ c ∧ c ≤ 'Z' then some (c.toNat - 65)
  else if 'a' ≤ c ∧ c ≤ 'z' then some (c.toNat - 71)
  else if '0' ≤ c ∧ c ≤ '9' then some (c.toNat + 4)
  else if c = '+' then some 62
  else if c = '/' then some 63
  else none

/-- The bytes of what follows `place` characters of a group, the last of which left bits over, and
`pads` marks of its end. The end of a group is the end of all; any other character says nothing. -/
def decodeFrom (place pads left : Nat) : List Char → Option Bytes
  | [] => if place = 0 then some [] else none
  | c :: r =>
    if c = '=' then
      if place < 2 then decodeFrom place pads left r
      else if 4 ≤ place + pads + 1 then some []
      else decodeFrom place (pads + 1) left r
    else match digit? c with
      | none => decodeFrom place pads left r
      | some d =>
        match place with
        | 0 => decodeFrom 1 0 d r
        | 1 => (decodeFrom 2 0 (d % 16) r).map (UInt8.ofNat (left * 4 + d / 16) :: ·)
        | 2 => (decodeFrom 3 0 (d % 4) r).map (UInt8.ofNat (left * 16 + d / 4) :: ·)
        | _ => (decodeFrom 0 0 0 r).map (UInt8.ofNat (left * 64 + d) :: ·)

def decode? (s : List Char) : Option Bytes := decodeFrom 0 0 0 s

end ClangIndex.Text.Base64
