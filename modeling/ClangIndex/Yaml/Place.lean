
namespace ClangIndex.Yaml

inductive Fault
  | unprintable (c : Char)
  | character (c : Char)
  | keyWithoutColon
  | notAllowedHere (what : String)
  | badIndicator (what : String)
  | unclosed (what : String)
  | separatorInside
  | unknownEscape (c : Char)
  | unexpected (what : String)
  | undefinedHandle (handle : String)
  | undefinedAlias (name : String)
  | duplicateAnchor (name : String)
  | severalDocuments
  | unknownTag (tag : String)
  | wrongKind (tag : String)
  | unhashableKey
  | undecodable
  | noCharacter (code : Nat)
  | longNumber
  | deep
  deriving DecidableEq, Repr, Inhabited

namespace Fault

def message : Fault → String
  | .unprintable c => "special characters are not allowed: " ++ toString c.toNat
  | .character c => "found character " ++ toString c.toNat ++ " that cannot start any token"
  | .keyWithoutColon => "could not find expected ':'"
  | .notAllowedHere what => what ++ " are not allowed here"
  | .badIndicator what => "could not read " ++ what
  | .unclosed what => "found unexpected end of stream in " ++ what
  | .separatorInside => "found unexpected document separator"
  | .unknownEscape c => "found unknown escape character " ++ toString c.toNat
  | .unexpected what => "did not find expected " ++ what
  | .undefinedHandle handle => "found undefined tag handle " ++ handle
  | .undefinedAlias name => "found undefined alias " ++ name
  | .duplicateAnchor name => "found duplicate anchor " ++ name
  | .severalDocuments => "expected a single document in the stream"
  | .unknownTag tag => "could not determine a constructor for the tag " ++ tag
  | .wrongKind tag => "the content does not fit the tag " ++ tag
  | .unhashableKey => "found unhashable key"
  | .undecodable => "the bytes are no text"
  | .noCharacter code => "there is no character " ++ toString code
  | .longNumber => "a number has too many digits"
  | .deep => "nodes are nested too deeply"

def isOfText : Fault → Bool
  | .undecodable | .noCharacter _ | .longNumber | .deep => false
  | _ => true

end Fault

structure Place where
  rest : List Char
  index : Nat := 0
  line : Nat := 0
  column : Nat := 0
  deriving Inhabited

def isBreak (c : Char) : Bool := c = '\n' || c = '\x85' || c = '\u2028' || c = '\u2029'

/-- A null character stands for the end, since no document holds one. -/
def isBreakOrEnd (c : Char) : Bool := c = '\x00' || isBreak c

def isSpaceOrBreakOrEnd (c : Char) : Bool := c = ' ' || isBreakOrEnd c

def isBlankOrBreakOrEnd (c : Char) : Bool := c = ' ' || c = '\t' || isBreakOrEnd c

namespace Place

def peek (p : Place) : Char := p.rest.headD '\x00'

def peekAt (p : Place) (n : Nat) : Char := p.rest.getD n '\x00'

/-- One character on. A byte-order mark takes no column. -/
def forward (p : Place) : Place :=
  match p.rest with
  | [] => p
  | c :: r =>
    if isBreak c then ⟨r, p.index + 1, p.line + 1, 0⟩
    else ⟨r, p.index + 1, p.line, if c = '\uFEFF' then p.column else p.column + 1⟩

def forwardBy : Nat → Place → Place
  | 0, p => p
  | n + 1, p => forwardBy n p.forward

def skipOver (ok : Char → Bool) : List Char → Place → Place
  | [], p => p
  | c :: r, p => if ok c then skipOver ok r p.forward else p

def skip (ok : Char → Bool) (p : Place) : Place := skipOver ok p.rest p

def take (ok : Char → Bool) (p : Place) : List Char × Place := (p.rest.takeWhile ok, p.skip ok)

/-- A line end reads as a line feed, unless it is a separator. -/
def lineBreak (p : Place) : List Char × Place :=
  let c := p.peek
  if c = '\n' || c = '\x85' then (['\n'], p.forward)
  else if isBreak c then ([c], p.forward)
  else ([], p)

def isMarker (c : Char) (p : Place) : Bool :=
  p.rest.take 3 == [c, c, c] && isBlankOrBreakOrEnd (p.peekAt 3)

def isSeparator (p : Place) : Bool := p.isMarker '-' || p.isMarker '.'

end Place

end ClangIndex.Yaml
