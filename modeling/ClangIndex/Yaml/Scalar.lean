import ClangIndex.Yaml.Place

namespace ClangIndex.Yaml

def foldBreak (first : List Char) (breaks : List Char) : List Char :=
  if first ≠ ['\n'] then first ++ breaks
  else if breaks.isEmpty then [' '] else breaks

def codes (s : List Char) : List Nat := s.map Char.toNat

namespace BlockScalar

/-- What the header of a block says: whether line ends at its end are kept, and how far it is
indented. -/
structure Header where
  keep : Option Bool := none
  increment : Option Nat := none

def digit? (c : Char) : Option Nat :=
  if '0' ≤ c ∧ c ≤ '9' then some (c.toNat - 48) else none

def chomping? (c : Char) : Option Bool :=
  if c = '+' then some true else if c = '-' then some false else none

def indicators (p : Place) : Except Fault (Header × Place) := do
  let bad : Fault := .badIndicator "a block scalar"
  let (h, p) : Header × Place := match chomping? p.peek with
    | some keep =>
      match digit? p.forward.peek with
      | some n => (⟨some keep, some n⟩, p.forward.forward)
      | none => (⟨some keep, none⟩, p.forward)
    | none =>
      match digit? p.peek with
      | some n =>
        match chomping? p.forward.peek with
        | some keep => (⟨some keep, some n⟩, p.forward.forward)
        | none => (⟨none, some n⟩, p.forward)
      | none => ({}, p)
  if h.increment = some 0 then throw bad
  else if isSpaceOrBreakOrEnd p.peek then pure (h, p)
  else throw bad

def ignoredLine (p : Place) : Except Fault Place :=
  let p := p.skip (· = ' ')
  let p := if p.peek = '#' then p.skip (!isBreakOrEnd ·) else p
  if isBreakOrEnd p.peek then .ok p.lineBreak.2 else .error (.badIndicator "a block scalar")

def leading : Nat → Nat → Place → List Char × Nat × Place
  | 0, widest, p => ([], widest, p)
  | n + 1, widest, p =>
    if p.peek = ' ' then
      let p := p.forward
      leading n (max widest p.column) p
    else if isBreak p.peek then
      let (b, p) := p.lineBreak
      let (bs, widest, p) := leading n widest p
      (b ++ bs, widest, p)
    else ([], widest, p)

def indentTo (indent : Nat) : Nat → Place → Place
  | 0, p => p
  | n + 1, p => if p.column < indent ∧ p.peek = ' ' then indentTo indent n p.forward else p

def breaks (indent : Nat) : Nat → Place → List Char × Place
  | 0, p => ([], p)
  | n + 1, p =>
    let p := indentTo indent indent p
    if isBreak p.peek then
      let (b, p) := p.lineBreak
      let (bs, p) := breaks indent n p
      (b ++ bs, p)
    else ([], p)

def lines (folded : Bool) (indent : Nat) : Nat → List Char → Place →
    List Char × List Char × List Char × Place
  | 0, empty, p => ([], [], empty, p)
  | n + 1, empty, p =>
    if p.column = indent ∧ p.peek ≠ '\x00' then
      let spaced (c : Char) : Bool := c = ' ' || c = '\t'
      let first := p.peek
      let (text, p) := p.take (!isBreakOrEnd ·)
      let (ending, p) := p.lineBreak
      let (next, p) := breaks indent p.rest.length p
      if p.column = indent ∧ p.peek ≠ '\x00' then
        let between :=
          if folded && ending == ['\n'] && !spaced first && !spaced p.peek then
            if next.isEmpty then [' '] else []
          else ending
        let (more, ending, last, p) := lines folded indent n next p
        (empty ++ text ++ between ++ more, ending, last, p)
      else (empty ++ text, ending, next, p)
    else ([], [], empty, p)

def read (folded : Bool) (outer : Int) (p : Place) : Except Fault (List Char × Place) := do
  let (h, p) ← indicators p.forward
  let p ← ignoredLine p
  let least := max 1 (outer + 1).toNat
  let (empty, indent, p) := match h.increment with
    | none =>
      let (bs, widest, p) := leading p.rest.length 0 p
      (bs, max least widest, p)
    | some n =>
      let indent := least + n - 1
      let (bs, p) := breaks indent p.rest.length p
      (bs, indent, p)
  let (text, ending, last, p) := lines folded indent (p.rest.length + 1) empty p
  let text := if h.keep = some false then text else text ++ ending
  pure (if h.keep = some true then text ++ last else text, p)

end BlockScalar

namespace QuotedScalar

def escape? : Char → Option Char
  | '0' => some '\x00'
  | 'a' => some '\x07'
  | 'b' => some '\x08'
  | 't' | '\t' => some '\t'
  | 'n' => some '\n'
  | 'v' => some '\x0b'
  | 'f' => some '\x0c'
  | 'r' => some '\r'
  | 'e' => some '\x1b'
  | ' ' => some ' '
  | '"' => some '"'
  | '\\' => some '\\'
  | '/' => some '/'
  | 'N' => some '\x85'
  | '_' => some '\xa0'
  | 'L' => some '\u2028'
  | 'P' => some '\u2029'
  | _ => none

def codeLength? : Char → Option Nat
  | 'x' => some 2
  | 'u' => some 4
  | 'U' => some 8
  | _ => none

def hexValue? (c : Char) : Option Nat :=
  if '0' ≤ c ∧ c ≤ '9' then some (c.toNat - 48)
  else if 'a' ≤ c ∧ c ≤ 'f' then some (c.toNat - 87)
  else if 'A' ≤ c ∧ c ≤ 'F' then some (c.toNat - 55)
  else none

def hexNumber? : Nat → List Char → Option Nat
  | acc, [] => some acc
  | acc, c :: r => do
    let d ← hexValue? c
    hexNumber? (16 * acc + d) r

def breaks : Nat → Place → Except Fault (List Char × Place)
  | 0, p => .ok ([], p)
  | n + 1, p =>
    if p.isSeparator then .error .separatorInside
    else
      let p := p.skip fun c => c = ' ' || c = '\t'
      if isBreak p.peek then do
        let (b, p) := p.lineBreak
        let (bs, p) ← breaks n p
        pure (b ++ bs, p)
      else .ok ([], p)

def spaces (p : Place) : Except Fault (List Char × Place) :=
  let (blanks, p) := p.take fun c => c = ' ' || c = '\t'
  if p.peek = '\x00' then .error (.unclosed "a quoted scalar")
  else if isBreak p.peek then do
    let (b, p) := p.lineBreak
    let (bs, p) ← breaks p.rest.length p
    pure (foldBreak b bs, p)
  else .ok (blanks, p)

def greatestCode : Nat := 0x10FFFF

/-- An escape after its backslash. It may stand for a code that no character has. -/
def escaped (p : Place) : Except Fault (List Nat × Place) :=
  let c := p.peek
  match escape? c, codeLength? c with
  | some x, _ => .ok ([x.toNat], p.forward)
  | none, some n =>
    let p := p.forward
    let digits := p.rest.take n
    match hexNumber? 0 digits with
    | some code =>
      if digits.length ≠ n then .error (.unknownEscape c)
      else if greatestCode < code then .error (.noCharacter code)
      else .ok ([code], p.forwardBy n)
    | none => .error (.unknownEscape c)
  | none, none =>
    if isBreak c then
      let p := p.lineBreak.2
      (breaks p.rest.length p).map fun (bs, p) => (codes bs, p)
    else .error (.unknownEscape c)

def solid (double : Bool) : Nat → Place → Except Fault (List Nat × Place)
  | 0, p => .ok ([], p)
  | n + 1, p => do
    let (text, p) := p.take fun c =>
      !(c = '\'' || c = '"' || c = '\\' || isBlankOrBreakOrEnd c)
    let c := p.peek
    if !double && c = '\'' && p.peekAt 1 = '\'' then
      let (more, p) ← solid double n p.forward.forward
      pure (codes text ++ c.toNat :: more, p)
    else if (double && c = '\'') || (!double && (c = '"' || c = '\\')) then
      let (more, p) ← solid double n p.forward
      pure (codes text ++ c.toNat :: more, p)
    else if double && c = '\\' then
      let (x, p) ← escaped p.forward
      let (more, p) ← solid double n p
      pure (codes text ++ x ++ more, p)
    else pure (codes text, p)

def parts (double : Bool) (quote : Char) : Nat → Place → Except Fault (List Nat × Place)
  | 0, _ => .error (.unclosed "a quoted scalar")
  | n + 1, p => do
    let (text, p) ← solid double (p.rest.length + 1) p
    if p.peek = quote then pure (text, p.forward)
    else
      let (blanks, p) ← spaces p
      let (more, p) ← parts double quote n p
      pure (text ++ codes blanks ++ more, p)

def read (double : Bool) (p : Place) : Except Fault (List Nat × Place) :=
  parts double p.peek (p.rest.length + 1) p.forward

end QuotedScalar

namespace PlainScalar

def isFlowIndicator (c : Char) : Bool :=
  c = ',' || c = '?' || c = '[' || c = ']' || c = '{' || c = '}'

def ends (inFlow : Bool) (c next : Char) : Bool :=
  isBlankOrBreakOrEnd c ||
    (c = ':' && (isBlankOrBreakOrEnd next ||
      (inFlow && (next = ',' || next = '[' || next = ']' || next = '{' || next = '}')))) ||
    (inFlow && isFlowIndicator c)

def word (inFlow : Bool) : List Char → List Char
  | [] => []
  | c :: r => if ends inFlow c (r.headD '\x00') then [] else c :: word inFlow r

def breaks : Nat → Place → Option (List Char) × Place
  | 0, p => (some [], p)
  | n + 1, p =>
    let p := p.skip (· = ' ')
    if isBreak p.peek then
      let (b, p) := p.lineBreak
      if p.isSeparator then (none, p)
      else
        let (bs, p) := breaks n p
        (bs.map (b ++ ·), p)
    else (some [], p)

def spaces (p : Place) : List Char × Bool × Place :=
  let (blanks, p) := p.take (· = ' ')
  if isBreak p.peek then
    let (b, p) := p.lineBreak
    if p.isSeparator then ([], true, p)
    else
      match breaks (p.rest.length + 1) p with
      | (some bs, p) => (foldBreak b bs, true, p)
      | (none, p) => ([], true, p)
  else (blanks, false, p)

def words (inFlow : Bool) (indent : Int) : Nat → List Char → Bool → Place →
    List Char × Bool × Place
  | 0, _, broken, p => ([], broken, p)
  | n + 1, before, broken, p =>
    if p.peek = '#' then ([], broken, p)
    else
      let w := word inFlow p.rest
      if w.isEmpty then ([], broken, p)
      else
        let (blanks, broken, p) := spaces (p.forwardBy w.length)
        if blanks.isEmpty || p.peek = '#' || (!inFlow && decide ((p.column : Int) < indent)) then
          (before ++ w, broken, p)
        else
          let (more, broken, p) := words inFlow indent n blanks broken p
          (before ++ w ++ more, broken, p)

end PlainScalar

end ClangIndex.Yaml
