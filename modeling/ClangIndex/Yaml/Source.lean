import ClangIndex.Text.Utf8
import ClangIndex.Yaml.Place

/-!
The text of a document as it is read from bytes, piece by piece. What is wrong with a piece counts
only once the piece is read, so that a fault before it comes first.
-/

namespace ClangIndex.Yaml

open Text (Bytes)

def isAllowed (c : Char) : Bool :=
  let n := c.toNat
  n = 9 || n = 10 || n = 13 || (32 ≤ n && n ≤ 126) || n = 0x85 || (0xA0 ≤ n && n ≤ 0xD7FF) ||
    (0xE000 ≤ n && n ≤ 0xFFFD) || 0x10000 ≤ n

def withPlainLines : List Char → List Char
  | '\r' :: '\n' :: r => '\n' :: withPlainLines r
  | '\r' :: r => '\n' :: withPlainLines r
  | c :: r => c :: withPlainLines r
  | [] => []

structure Reader where
  bytes : Bytes
  pending : Text.Utf8.Pending := .none
  held : Bool := false
  ready : List Char := []
  last : Nat × Nat := (1, 1)

namespace Reader

def pieceLength : Nat := 4096

def leastBytes : Nat := 8192

def amount (r : Reader) (missing : Nat) : Nat :=
  let (bytes, chars) := r.last
  max leastBytes (if bytes ≤ chars ∨ chars = 0 then missing else bytes * missing / chars)

def decode : Text.Utf8.Pending → Bytes → Option (List Char × Text.Utf8.Pending)
  | p, [] => some ([], p)
  | p, b :: r => do
    let (cs, p) ← p.next? b
    let (more, p) ← decode p r
    some (cs ++ more, p)

/-- Reads bytes to characters. A return at their end is held back until it is known whether a line
feed follows it. -/
def fill (r : Reader) (missing : Nat) : Option Reader := do
  let n := r.amount missing
  let (text, pending) ← decode r.pending (r.bytes.take n)
  let text := if r.held then '\r' :: text else text
  let held := text.getLast? = some '\r'
  let text := withPlainLines (if held then text.dropLast else text)
  some {
    bytes := r.bytes.drop n, pending, held, ready := r.ready ++ text
    last := (min n r.bytes.length, text.length) }

def finish (r : Reader) : Option Reader :=
  match r.pending with
  | .none => some { r with held := false, ready := if r.held then r.ready ++ ['\n'] else r.ready }
  | .some .. => none

def piece : Nat → Reader → Option (List Char × Reader)
  | 0, r => some (r.ready.take pieceLength, { r with ready := r.ready.drop pieceLength })
  | n + 1, r =>
    let count := r.ready.length
    if pieceLength ≤ count then piece 0 r
    else if r.bytes.isEmpty then do piece 0 (← r.finish)
    else do piece n (← r.fill (pieceLength - count))

end Reader

structure Source where
  text : List Char
  fault : Option Fault := none

namespace Source

def pieces : Nat → Reader → List Char × Option Fault
  | 0, _ => ([], none)
  | n + 1, r =>
    match r.piece (r.bytes.length + 1) with
    | none => ([], some .undecodable)
    | some ([], _) => ([], none)
    | some (text, r) =>
      match text.find? fun c => !isAllowed c with
      | some c => ([], some (.unprintable c))
      | none =>
        let (more, f) := pieces n r
        (text ++ more, f)

def ofBytes (b : Bytes) : Source :=
  let first := (Reader.piece (b.length + 1) { bytes := b }).bind fun (p, r) =>
    (r.piece (b.length + 1)).map fun (q, r) => (p ++ q, r)
  match first with
  | none => ⟨[], some .undecodable⟩
  | some (text, r) =>
    match text.find? fun c => !isAllowed c with
    | some c => ⟨[], some (.unprintable c)⟩
    | none =>
      let (more, f) := pieces (b.length + 1) r
      ⟨text ++ more, f⟩

end Source

end ClangIndex.Yaml
