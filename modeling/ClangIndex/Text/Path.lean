import ClangIndex.Text.Blank

namespace ClangIndex.Text.Path

def isPart (p : List Char) : Bool := !p.isEmpty && p != ['.']

def parts (s : List Char) : List (List Char) := (splitAt '/' s).filter isPart

/-- A path starts at the root with one slash; exactly two slashes are kept. -/
def rootOf (s : List Char) : List Char :=
  match s with
  | '/' :: '/' :: '/' :: _ => ['/']
  | '/' :: '/' :: _ => ['/', '/']
  | '/' :: _ => ['/']
  | _ => []

def normalize (s : List Char) : List Char :=
  match rootOf s ++ joinWith ['/'] (parts s) with
  | [] => ['.']
  | p => p

def name (s : List Char) : List Char := (parts s).getLast?.getD []

def join (a b : List Char) : List Char :=
  match b with
  | '/' :: _ => b
  | _ => if a.isEmpty ∨ a.getLast? = some '/' then a ++ b else a ++ '/' :: b

end ClangIndex.Text.Path
