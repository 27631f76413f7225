import ClangIndex.Text.Utf8
import ClangIndex.Text.Printable

namespace ClangIndex.Text.Literal

def quoteFor (s : List Char) : Char :=
  if s.contains '\'' && !s.contains '"' then '"' else '\''

def escapeCode (n : Nat) : List Char :=
  if n < 0x100 then ['\\', 'x'] ++ Hex.digits 2 n
  else if n < 0x10000 then ['\\', 'u'] ++ Hex.digits 4 n
  else ['\\', 'U'] ++ Hex.digits 8 n

def escape (shown : Char → Bool) (quote c : Char) : List Char :=
  if c = quote ∨ c = '\\' then ['\\', c]
  else if c = '\n' then ['\\', 'n']
  else if c = '\r' then ['\\', 'r']
  else if c = '\t' then ['\\', 't']
  else if shown c then [c]
  else escapeCode c.toNat

def ofChars (s : List Char) : List Char :=
  let q := quoteFor s
  q :: s.flatMap (escape isPrintable q) ++ [q]

def ofCodes (s : List Nat) : String :=
  let q := quoteFor (s.map Char.ofNat)
  String.ofList (q :: s.flatMap (fun n =>
    if n.isValidChar then escape isPrintable q (Char.ofNat n) else escapeCode n) ++ [q])

def ofText (s : String) : String := String.ofList (ofChars s.toList)

def ofBool (b : Bool) : String := if b then "True" else "False"

def ofItems (items : List String) : String := "[" ++ ", ".intercalate items ++ "]"

def ofEntries (entries : List String) : String := "\x7b" ++ ", ".intercalate entries ++ "\x7d"

def inAscii (s : List Char) : List Char :=
  s.flatMap fun c => if c.toNat < 0x80 then [c] else escapeCode c.toNat

def ofBytes (b : Bytes) : String :=
  let s := b.map fun x => Char.ofNat x.toNat
  let q := quoteFor s
  String.ofList ('b' :: q :: s.flatMap (escape (fun c => 32 ≤ c.toNat && c.toNat < 127) q) ++ [q])

end ClangIndex.Text.Literal
