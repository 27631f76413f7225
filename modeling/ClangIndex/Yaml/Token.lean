import ClangIndex.Number.Integer
import ClangIndex.Yaml.Scalar
import ClangIndex.Yaml.Source

/-!
The tokens of a document. Blocks are marked by their indentation, and a key is found when the colon
after it is: the token for the key is then put before what was read in between.
-/

namespace ClangIndex.Yaml

inductive Directive
  | version (major minor : Nat)
  | tag (handle start : List Char)
  | other
  deriving DecidableEq, Repr, Inhabited

inductive Token
  | streamEnd
  | directive (d : Directive)
  | documentStart
  | documentEnd
  | blockSequenceStart
  | blockMappingStart
  | blockEnd
  | flowSequenceStart
  | flowMappingStart
  | flowSequenceEnd
  | flowMappingEnd
  | blockEntry
  | flowEntry
  | key
  | value
  | alias (name : List Char)
  | anchor (name : List Char)
  | tag (handle : Option (List Char)) (suffix : List Char)
  | plain (text : List Char)
  | quoted (codes : List Nat)
  deriving DecidableEq, Repr, Inhabited

/-- What may turn out to be a key: the number of its first token, where it stands, and whether it
must be one. -/
structure PossibleKey where
  token : Nat
  required : Bool
  index : Nat
  line : Nat
  column : Nat
  deriving Inhabited

structure Scan where
  place : Place
  tokens : Array Token := #[]
  flow : Nat := 0
  indent : Int := -1
  indents : List Int := []
  allowKey : Bool := true
  keys : List (Nat × PossibleKey) := []
  finished : Bool := false
  deriving Inhabited

namespace Scan

def push (s : Scan) (t : Token) : Scan := { s with tokens := s.tokens.push t }

def inFlow (s : Scan) : Bool := s.flow != 0

def insert (s : Scan) (n : Nat) (t : Token) : Scan :=
  { s with tokens := (s.tokens.toList.insertIdx n t).toArray }

def key? (s : Scan) : Option PossibleKey := (s.keys.find? fun k => k.1 == s.flow).map (·.2)

def dropKey (s : Scan) : Scan := { s with keys := s.keys.filter fun k => k.1 != s.flow }

def removeKey (s : Scan) : Except Fault Scan :=
  match s.key? with
  | some k => if k.required then .error .keyWithoutColon else .ok s.dropKey
  | none => .ok s

def saveKey (s : Scan) : Except Fault Scan := do
  if s.allowKey then
    let required := !s.inFlow && decide (s.indent = s.place.column)
    let s ← s.removeKey
    let p := s.place
    let key : PossibleKey := ⟨s.tokens.size, required, p.index, p.line, p.column⟩
    pure { s with keys := (s.flow, key) :: s.keys }
  else pure s

/-- A key ends on its line, and within 1024 characters. -/
def isStale (s : Scan) (k : PossibleKey) : Bool :=
  k.line != s.place.line || decide (1024 < s.place.index - k.index)

def dropStale (s : Scan) : Except Fault Scan :=
  if s.keys.any fun k => s.isStale k.2 && k.2.required then .error .keyWithoutColon
  else .ok { s with keys := s.keys.filter fun k => !s.isStale k.2 }

def unwindFrom (column : Int) : List Int → Scan → Scan
  | [], s => s
  | i :: is, s =>
    if column < s.indent then
      unwindFrom column is { s.push .blockEnd with indent := i, indents := is }
    else s

def unwind (s : Scan) (column : Int) : Scan :=
  if s.inFlow then s else unwindFrom column s.indents s

def opens (s : Scan) (column : Nat) : Bool := decide (s.indent < column)

def addIndent (s : Scan) (column : Nat) : Scan :=
  { s with indents := s.indent :: s.indents, indent := column }

def toNextToken : Nat → Scan → Scan
  | 0, s => s
  | n + 1, s =>
    let p := s.place.skip (· = ' ')
    let p := if p.peek = '#' then p.skip (!isBreakOrEnd ·) else p
    if isBreak p.peek then
      toNextToken n { s with
        place := p.lineBreak.2, allowKey := s.allowKey || !s.inFlow }
    else { s with place := p }

def forward (s : Scan) (n : Nat) : Scan := { s with place := s.place.forwardBy n }

def isNameChar (c : Char) : Bool :=
  ('0' ≤ c && c ≤ '9') || ('A' ≤ c && c ≤ 'Z') || ('a' ≤ c && c ≤ 'z') || c = '-' || c = '_'

def number (p : Place) : Except Fault (Nat × Place) :=
  let (digits, p) := p.take fun c => '0' ≤ c && c ≤ '9'
  if digits.isEmpty then .error (.badIndicator "a directive")
  else if Number.mostDigits < digits.length then .error .longNumber
  else .ok (digits.foldl (fun n c => 10 * n + (c.toNat - 48)) 0, p)

def versionDirective (p : Place) : Except Fault (Directive × Place) := do
  let (major, p) ← number (p.skip (· = ' '))
  if p.peek ≠ '.' then throw (.badIndicator "a directive")
  let (minor, p) ← number p.forward
  if isSpaceOrBreakOrEnd p.peek then pure (.version major minor, p)
  else throw (.badIndicator "a directive")

def isUriChar (c : Char) : Bool :=
  isNameChar c || (";/?:@&=+$,.!~*'()[]").toList.contains c

def uriEscapes : Nat → Place → Except Fault (List UInt8 × Place)
  | 0, p => .ok ([], p)
  | n + 1, p =>
    if p.peek = '%' then
      match QuotedScalar.hexNumber? 0 ((p.forward.rest).take 2), (p.forward.rest).take 2 with
      | some b, [_, _] => do
        let (bs, p) ← uriEscapes n (p.forwardBy 3)
        pure (UInt8.ofNat b :: bs, p)
      | _, _ => .error (.badIndicator "a tag")
    else .ok ([], p)

def uriParts : Nat → Place → Except Fault (List Char × Place)
  | 0, p => .ok ([], p)
  | n + 1, p =>
    if p.peek = '%' then do
      let (bs, p) ← uriEscapes p.rest.length p
      match String.fromUTF8? (ByteArray.mk bs.toArray) with
      | some text =>
        let (more, p) ← uriParts n p
        pure (text.toList ++ more, p)
      | none => throw (.badIndicator "a tag")
    else if isUriChar p.peek then do
      let (text, p) := p.take isUriChar
      let (more, p) ← uriParts n p
      pure (text ++ more, p)
    else .ok ([], p)

def uri (p : Place) : Except Fault (List Char × Place) := do
  let (text, p) ← uriParts (p.rest.length + 1) p
  if text.isEmpty then throw (.badIndicator "a tag") else pure (text, p)

def tagHandle (p : Place) : Except Fault (List Char × Place) :=
  if p.peek ≠ '!' then .error (.badIndicator "a tag")
  else
    let (name, q) := p.forward.take isNameChar
    if q.peek = '!' then .ok ('!' :: name ++ ['!'], q.forward)
    else if name.isEmpty && p.peekAt 1 = ' ' then .ok (['!'], p.forward)
    else .error (.badIndicator "a tag")

def tagDirective (p : Place) : Except Fault (Directive × Place) := do
  let (handle, p) ← tagHandle (p.skip (· = ' '))
  if p.peek ≠ ' ' then throw (.badIndicator "a directive")
  let (start, p) ← uri (p.skip (· = ' '))
  if isSpaceOrBreakOrEnd p.peek then pure (.tag handle start, p)
  else throw (.badIndicator "a directive")

def directive (p : Place) : Except Fault (Directive × Place) := do
  let (name, p) := p.forward.take isNameChar
  if name.isEmpty || !isSpaceOrBreakOrEnd p.peek then throw (.badIndicator "a directive")
  let (d, p) ← if name = "YAML".toList then versionDirective p
    else if name = "TAG".toList then tagDirective p
    else pure (.other, p.skip (!isBreakOrEnd ·))
  let p := p.skip (· = ' ')
  let p := if p.peek = '#' then p.skip (!isBreakOrEnd ·) else p
  if isBreakOrEnd p.peek then pure (d, p.lineBreak.2) else throw (.badIndicator "a directive")

def anchorName (p : Place) : Except Fault (List Char × Place) :=
  let (name, p) := p.forward.take isNameChar
  if name.isEmpty then .error (.badIndicator "an anchor")
  else if isBlankOrBreakOrEnd p.peek || ("?:,]\x7d%@\u0060").toList.contains p.peek then
    .ok (name, p)
  else .error (.badIndicator "an anchor")

def usesHandle : List Char → Bool
  | [] => false
  | c :: r => if isSpaceOrBreakOrEnd c then false else if c = '!' then true else usesHandle r

def tag (p : Place) : Except Fault (Token × Place) := do
  let next := p.peekAt 1
  let (t, p) ← if next = '<' then do
      let (suffix, p) ← uri (p.forwardBy 2)
      if p.peek = '>' then pure (Token.tag none suffix, p.forward)
      else throw (.badIndicator "a tag")
    else if isBlankOrBreakOrEnd next then pure (Token.tag none ['!'], p.forward)
    else if usesHandle (p.rest.drop 1) then do
      let (handle, p) ← tagHandle p
      let (suffix, p) ← uri p
      pure (Token.tag (some handle) suffix, p)
    else do
      let (suffix, p) ← uri p.forward
      pure (Token.tag (some ['!']) suffix, p)
  if isSpaceOrBreakOrEnd p.peek then pure (t, p) else throw (.badIndicator "a tag")

def streamEnd (s : Scan) : Except Fault Scan := do
  let s ← (s.unwind (-1)).removeKey
  pure { s.push .streamEnd with allowKey := false, keys := [], finished := true }

def fetchDirective (s : Scan) : Except Fault Scan := do
  let s ← (s.unwind (-1)).removeKey
  let (d, p) ← directive s.place
  pure { s.push (.directive d) with allowKey := false, place := p }

def documentMarker (t : Token) (s : Scan) : Except Fault Scan := do
  let s ← (s.unwind (-1)).removeKey
  pure { (s.push t).forward 3 with allowKey := false }

def flowStart (t : Token) (s : Scan) : Except Fault Scan := do
  let s ← s.saveKey
  pure { (s.push t).forward 1 with flow := s.flow + 1, allowKey := true }

def flowEnd (t : Token) (s : Scan) : Except Fault Scan := do
  if s.flow = 0 then throw (.unexpected "node content")
  let s ← s.removeKey
  pure { (s.push t).forward 1 with flow := s.flow - 1, allowKey := false }

def flowEntry (s : Scan) : Except Fault Scan := do
  let s ← s.removeKey
  pure { (s.push .flowEntry).forward 1 with allowKey := true }

def openBlock (what : String) (t : Token) (s : Scan) : Except Fault Scan :=
  if s.inFlow then .ok s
  else if !s.allowKey then .error (.notAllowedHere what)
  else if s.opens s.place.column then .ok ((s.addIndent s.place.column).push t)
  else .ok s

def blockEntry (s : Scan) : Except Fault Scan := do
  let s ← s.openBlock "sequence entries" .blockSequenceStart
  let s ← s.removeKey
  pure { (s.push .blockEntry).forward 1 with allowKey := true }

def explicitKey (s : Scan) : Except Fault Scan := do
  let s ← s.openBlock "mapping keys" .blockMappingStart
  let s ← s.removeKey
  pure { (s.push .key).forward 1 with allowKey := !s.inFlow }

/-- A colon makes a key of what stands before it on the line, if something may be a key. -/
def fetchValue (s : Scan) : Except Fault Scan := do
  match s.key? with
  | some k =>
    let s := s.dropKey.insert k.token .key
    let s := if !s.inFlow && s.opens k.column then
        (s.addIndent k.column).insert k.token .blockMappingStart
      else s
    pure { (s.push .value).forward 1 with allowKey := false }
  | none =>
    let s ← s.openBlock "mapping values" .blockMappingStart
    let s ← s.removeKey
    pure { (s.push .value).forward 1 with allowKey := !s.inFlow }

def reference (make : List Char → Token) (s : Scan) : Except Fault Scan := do
  let s ← s.saveKey
  let (name, p) ← anchorName s.place
  pure { s.push (make name) with allowKey := false, place := p }

def fetchTag (s : Scan) : Except Fault Scan := do
  let s ← s.saveKey
  let (t, p) ← tag s.place
  pure { s.push t with allowKey := false, place := p }

def blockScalar (folded : Bool) (s : Scan) : Except Fault Scan := do
  let s ← s.removeKey
  let (text, p) ← BlockScalar.read folded s.indent s.place
  pure { s.push (.quoted (codes text)) with allowKey := true, place := p }

def quotedScalar (double : Bool) (s : Scan) : Except Fault Scan := do
  let s ← s.saveKey
  let (codes, p) ← QuotedScalar.read double s.place
  pure { s.push (.quoted codes) with allowKey := false, place := p }

def plainScalar (s : Scan) : Except Fault Scan := do
  let s ← s.saveKey
  let (text, broken, p) := PlainScalar.words s.inFlow (s.indent + 1) (s.place.rest.length + 1)
    [] false s.place
  pure { s.push (.plain text) with allowKey := broken, place := p }

def isIndicator (c : Char) : Bool := ("-?:,[]\x7b\x7d#&*!|>'\"%@\u0060").toList.contains c

def startsPlain (s : Scan) : Bool :=
  let c := s.place.peek
  (!isBlankOrBreakOrEnd c && !isIndicator c) ||
    (!isBlankOrBreakOrEnd (s.place.peekAt 1) &&
      (c = '-' || (!s.inFlow && (c = '?' || c = ':'))))

def fetch (s : Scan) : Except Fault Scan :=
  let p := s.place
  let c := p.peek
  let spaced := isBlankOrBreakOrEnd (p.peekAt 1)
  if c = '\x00' then s.streamEnd
  else if c = '%' && p.column = 0 then s.fetchDirective
  else if p.column = 0 && p.isMarker '-' then s.documentMarker .documentStart
  else if p.column = 0 && p.isMarker '.' then s.documentMarker .documentEnd
  else if c = '[' then s.flowStart .flowSequenceStart
  else if c = '{' then s.flowStart .flowMappingStart
  else if c = ']' then s.flowEnd .flowSequenceEnd
  else if c = '}' then s.flowEnd .flowMappingEnd
  else if c = ',' then s.flowEntry
  else if c = '-' && spaced then s.blockEntry
  else if c = '?' && (s.inFlow || spaced) then s.explicitKey
  else if c = ':' && (s.inFlow || spaced) then s.fetchValue
  else if c = '*' then s.reference .alias
  else if c = '&' then s.reference .anchor
  else if c = '!' then s.fetchTag
  else if c = '|' && !s.inFlow then s.blockScalar false
  else if c = '>' && !s.inFlow then s.blockScalar true
  else if c = '\'' then s.quotedScalar false
  else if c = '"' then s.quotedScalar true
  else if s.startsPlain then s.plainScalar
  else .error (.character c)

def step (s : Scan) : Except Fault Scan := do
  let s := s.toNextToken (s.place.rest.length + 1)
  let s ← s.dropStale
  (s.unwind s.place.column).fetch

def guardedStep (source : Source) (s : Scan) : Except Fault Scan :=
  match source.fault, s.step with
  | none, r => r
  | some f, .ok t => if source.text.length ≤ t.place.index + 1 then .error f else .ok t
  | some f, .error (.unclosed _) => .error f
  | some _, .error g => .error g

/-- The tokens that are sure when no further step can be made: those before one that may still turn
out to be a key. A key that is overdue is the first fault. -/
def settled (s : Scan) (f : Fault) : Array Token × Fault :=
  match s.dropStale with
  | .error g => (#[], g)
  | .ok s => (s.keys.foldl (fun ts k => ts.take k.2.token) s.tokens, f)

/-- All tokens, or those before a fault. Each step reads at least one character, or the end. -/
def run (source : Source) : Nat → Scan → Array Token × Option Fault
  | 0, s => (s.tokens, none)
  | n + 1, s =>
    if s.finished then (s.tokens, none)
    else match s.guardedStep source with
      | .ok s => run source n s
      | .error f =>
        let (tokens, f) := s.settled f
        (tokens, some f)

end Scan

structure Tokens where
  list : List Token
  fault : Option Fault := none
  deriving Inhabited

def Tokens.ofSource (source : Source) : Tokens :=
  let start : Place := ⟨source.text, 0, 0, 0⟩
  let start := if start.peek = '\uFEFF' then start.forward else start
  if source.text.isEmpty && source.fault.isSome then ⟨[], source.fault⟩
  else
    let (tokens, fault) := Scan.run source (source.text.length + 2) { place := start }
    ⟨tokens.toList, fault⟩

end ClangIndex.Yaml
