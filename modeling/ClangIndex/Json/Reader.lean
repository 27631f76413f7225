import ClangIndex.Json.Value

namespace ClangIndex.Json

def isSpace (c : Char) : Bool := c = ' ' || c = '\t' || c = '\n' || c = '\r'

def skipSpace (s : List Char) : List Char := s.dropWhile isSpace

def isDigit (c : Char) : Bool := '0' ≤ c && c ≤ '9'

def hexDigit? (c : Char) : Option Nat :=
  if '0' ≤ c ∧ c ≤ '9' then some (c.toNat - 48)
  else if 'a' ≤ c ∧ c ≤ 'f' then some (c.toNat - 87)
  else if 'A' ≤ c ∧ c ≤ 'F' then some (c.toNat - 55)
  else none

def readUnit : List Char → Option (Nat × List Char)
  | a :: b :: c :: d :: r => do
    let a ← hexDigit? a
    let b ← hexDigit? b
    let c ← hexDigit? c
    let d ← hexDigit? d
    pure (((a * 16 + b) * 16 + c) * 16 + d, r)
  | _ => none

def isLead (n : Nat) : Bool := 0xD800 ≤ n && n < 0xDC00

def isTrail (n : Nat) : Bool := 0xDC00 ≤ n && n < 0xE000

def shortEscape? : Char → Option Char
  | '"' => some '"'
  | '\\' => some '\\'
  | '/' => some '/'
  | 'b' => some '\x08'
  | 'f' => some '\x0c'
  | 'n' => some '\n'
  | 'r' => some '\r'
  | 't' => some '\t'
  | _ => none

/-- A character written by its code, where two surrogates make one character. A surrogate that
stands alone has no character and reads as the replacement character. -/
def readCode (s : List Char) : Option (Char × List Char) := do
  let (n, r) ← readUnit s
  if isLead n then
    match r with
    | '\\' :: 'u' :: t =>
      match readUnit t with
      | some (m, r') =>
        if isTrail m then pure (Char.ofNat (0x10000 + (n - 0xD800) * 0x400 + (m - 0xDC00)), r')
        else pure ('\uFFFD', r)
      | none => none
    | _ => pure ('\uFFFD', r)
  else if isTrail n then pure ('\uFFFD', r)
  else pure (Char.ofNat n, r)

def readText : Nat → List Char → Option (List Char × List Char)
  | _, [] => none
  | 0, _ => none
  | _ + 1, '"' :: r => some ([], r)
  | fuel + 1, '\\' :: 'u' :: r => do
    let (c, r) ← readCode r
    let (cs, r) ← readText fuel r
    pure (c :: cs, r)
  | fuel + 1, '\\' :: e :: r => do
    let c ← shortEscape? e
    let (cs, r) ← readText fuel r
    pure (c :: cs, r)
  | fuel + 1, c :: r =>
    if c.toNat < 32 then none
    else do
      let (cs, r) ← readText fuel r
      pure (c :: cs, r)

def digitsValue (ds : List Char) : Nat := ds.foldl (fun n c => 10 * n + (c.toNat - 48)) 0

def readWhole : List Char → List Char × List Char
  | '0' :: r => (['0'], r)
  | s => (s.takeWhile isDigit, s.dropWhile isDigit)

def readExponent : List Char → Option (Int × List Char)
  | 'e' :: r | 'E' :: r =>
    let (negative, r) := match r with
      | '-' :: t => (true, t)
      | '+' :: t => (false, t)
      | t => (false, t)
    let ds := r.takeWhile isDigit
    if ds.isEmpty then none
    else some (if negative then -(digitsValue ds : Int) else digitsValue ds, r.dropWhile isDigit)
  | _ => none

def readFraction : List Char → Option (List Char × List Char)
  | '.' :: r =>
    let ds := r.takeWhile isDigit
    if ds.isEmpty then none else some (ds, r.dropWhile isDigit)
  | _ => none

def readUnsigned (negative : Bool) (s : List Char) : Option (Json × List Char) :=
  let (whole, r) := readWhole s
  if whole.isEmpty then none
  else
    let (fraction, r) := (readFraction r).getD ([], r)
    let exponent := readExponent r
    if fraction.isEmpty && exponent.isNone then
      let n : Int := digitsValue whole
      some (.int (if negative then -n else n), r)
    else
      let (e, r) := exponent.getD (0, r)
      some (.float (.ofDecimal negative (digitsValue (whole ++ fraction)) (e - fraction.length)), r)

def dropWord : List Char → List Char → Option (List Char)
  | [], s => some s
  | c :: w, d :: s => if c = d then dropWord w s else none
  | _ :: _, [] => none

def readWord (word : String) (v : Json) (s : List Char) : Option (Json × List Char) :=
  (dropWord word.toList s).map fun r => (v, r)

mutual

def readValue : Nat → List Char → Option (Json × List Char)
  | 0, _ => none
  | fuel + 1, s =>
    match skipSpace s with
    | '{' :: r => readObject fuel [] (skipSpace r)
    | '[' :: r =>
      match skipSpace r with
      | ']' :: r => some (.array [], r)
      | r => readItems fuel r
    | '"' :: r => (readText r.length r).map fun (cs, r) => (.text (String.ofList cs), r)
    | 't' :: r => readWord "rue" (.bool true) r
    | 'f' :: r => readWord "alse" (.bool false) r
    | 'n' :: r => readWord "ull" .null r
    | 'N' :: r => readWord "aN" (.float .nan) r
    | 'I' :: r => readWord "nfinity" (.float (.infinite false)) r
    | '-' :: 'I' :: r => readWord "nfinity" (.float (.infinite true)) r
    | '-' :: r => readUnsigned true r
    | r => readUnsigned false r

def readItems : Nat → List Char → Option (Json × List Char)
  | 0, _ => none
  | fuel + 1, s => do
    let (v, r) ← readValue fuel s
    match skipSpace r with
    | ',' :: r => do
      let (vs, r) ← readItems fuel r
      pure (.array (v :: vs.items), r)
    | ']' :: r => pure (.array [v], r)
    | _ => none

def readObject : Nat → List (String × Json) → List Char → Option (Json × List Char)
  | 0, _, _ => none
  | fuel + 1, acc, s =>
    match s with
    | '}' :: r => if acc.isEmpty then some (.object [], r) else none
    | '"' :: r => do
      let (k, r) ← readText r.length r
      match skipSpace r with
      | ':' :: r => do
        let (v, r) ← readValue fuel r
        let acc := assign (String.ofList k) v acc
        match skipSpace r with
        | ',' :: r => readObject fuel acc (skipSpace r)
        | '}' :: r => pure (.object acc, r)
        | _ => none
      | _ => none
    | _ => none

end

def parse (s : String) : Option Json := do
  let cs := s.toList
  let (v, r) ← readValue (cs.length + 1) cs
  if (skipSpace r).isEmpty then pure v else none

end ClangIndex.Json
