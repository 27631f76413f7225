import ClangIndex.Json.Value
import ClangIndex.Number.Integer
import ClangIndex.Text.Utf8

namespace ClangIndex.Json

open Text (Hex.digits)

def codeUnit (n : Nat) : List Char := ['\\', 'u'] ++ Hex.digits 4 n

def escapeChar (c : Char) : List Char :=
  if c = '"' then ['\\', '"']
  else if c = '\\' then ['\\', '\\']
  else if c = '\n' then ['\\', 'n']
  else if c = '\r' then ['\\', 'r']
  else if c = '\t' then ['\\', 't']
  else if c = '\x08' then ['\\', 'b']
  else if c = '\x0c' then ['\\', 'f']
  else
    let n := c.toNat
    if 32 ≤ n ∧ n < 127 then [c]
    else if n < 0x10000 then codeUnit n
    else
      let m := n - 0x10000
      codeUnit (0xD800 + m / 0x400) ++ codeUnit (0xDC00 + m % 0x400)

def quoted (s : String) : List Char := '"' :: s.toList.flatMap escapeChar ++ ['"']

def intChars (n : Int) : List Char :=
  if n < 0 then '-' :: Nat.toDigits 10 n.natAbs else Nat.toDigits 10 n.natAbs

def floatChars : Number.Binary64 → List Char
  | .nan => ['N', 'a', 'N']
  | .infinite negative =>
    (if negative then ['-'] else []) ++ ['I', 'n', 'f', 'i', 'n', 'i', 't', 'y']
  | x => x.text

def separated (sep : List Char) : List (List Char) → List Char
  | [] => []
  | [x] => x
  | x :: y :: r => x ++ sep ++ separated sep (y :: r)

mutual

def compact : Json → List Char
  | .null => ['n', 'u', 'l', 'l']
  | .bool true => ['t', 'r', 'u', 'e']
  | .bool false => ['f', 'a', 'l', 's', 'e']
  | .int n => intChars n
  | .float x => floatChars x
  | .text s => quoted s
  | .array xs => '[' :: separated [','] (compactItems xs) ++ [']']
  | .object es => '{' :: separated [','] (compactEntries es) ++ ['}']

def compactItems : List Json → List (List Char)
  | [] => []
  | x :: r => compact x :: compactItems r

def compactEntries : List (String × Json) → List (List Char)
  | [] => []
  | (k, v) :: r => (quoted k ++ ':' :: compact v) :: compactEntries r

end

def insertSorted (e : String × α) : List (String × α) → List (String × α)
  | [] => [e]
  | f :: r => if e.1 < f.1 then e :: f :: r else f :: insertSorted e r

def sortEntries (es : List (String × α)) : List (String × α) := es.foldr insertSorted []

mutual

def sorted : Json → Json
  | .array xs => .array (sortedItems xs)
  | .object es => .object (sortEntries (sortedValues es))
  | v => v

def sortedItems : List Json → List Json
  | [] => []
  | x :: r => sorted x :: sortedItems r

def sortedValues : List (String × Json) → List (String × Json)
  | [] => []
  | (k, v) :: r => (k, sorted v) :: sortedValues r

end

def line (depth : Nat) : List Char := '\n' :: List.replicate (2 * depth) ' '

mutual

def indented (depth : Nat) : Json → List Char
  | .array [] => ['[', ']']
  | .array (x :: xs) =>
    '[' :: line (depth + 1) ++
      separated (',' :: line (depth + 1)) (indentedItems (depth + 1) (x :: xs)) ++
      line depth ++ [']']
  | .object [] => ['{', '}']
  | .object (e :: es) =>
    '{' :: line (depth + 1) ++
      separated (',' :: line (depth + 1)) (indentedEntries (depth + 1) (e :: es)) ++
      line depth ++ ['}']
  | v => compact v

def indentedItems (depth : Nat) : List Json → List (List Char)
  | [] => []
  | x :: r => indented depth x :: indentedItems depth r

def indentedEntries (depth : Nat) : List (String × Json) → List (List Char)
  | [] => []
  | (k, v) :: r => (quoted k ++ [':', ' '] ++ indented depth v) :: indentedEntries depth r

end

/-- A value without parts, unless it is a number with too many digits. -/
def atom? : Json → Option (List Char)
  | .int n => (Number.writeInteger? n).map String.toList
  | v => some (compact v)

mutual

/-- The indented text in the pieces in which it is written. What cannot be written is none. An item
is written together with what stands before it, the value of an entry is not. -/
def pieces (depth : Nat) : Json → List (Option (List Char))
  | .array [] => [some ['[', ']']]
  | .array (x :: xs) =>
    itemPieces (depth + 1) ('[' :: line (depth + 1)) (x :: xs) ++ [some (line depth ++ [']'])]
  | .object [] => [some ['{', '}']]
  | .object (e :: es) =>
    entryPieces (depth + 1) ('{' :: line (depth + 1)) (e :: es) ++ [some (line depth ++ ['}'])]
  | v => [atom? v]

def itemPieces (depth : Nat) (before : List Char) : List Json → List (Option (List Char))
  | [] => []
  | x :: r =>
    (pieces depth x).modifyHead (Option.map (before ++ ·)) ++
      itemPieces depth (',' :: line depth) r

def entryPieces (depth : Nat) (before : List Char) :
    List (String × Json) → List (Option (List Char))
  | [] => []
  | (k, v) :: r =>
    some (before ++ quoted k ++ [':', ' ']) :: pieces depth v ++
      entryPieces depth (',' :: line depth) r

end

/-- What gets written of some pieces: all that come before one that cannot be written. -/
def written (ps : List (Option (List Char))) : List Char :=
  (ps.takeWhile Option.isSome).flatMap (·.getD [])

def render (v : Json) : String := String.ofList (compact v)

end ClangIndex.Json
