import ClangIndex.Json.Value

namespace ClangIndex.Text.Variables

def isNameChar (c : Char) : Bool := c.isAlphanum || c = '_'

def name? (s : List Char) : Option (List Char × List Char × List Char) :=
  match s with
  | '\x7b' :: r =>
    match r.span (· ≠ '\x7d') with
    | (name, '\x7d' :: rest) => some (name, '\x7b' :: name ++ ['\x7d'], rest)
    | _ => none
  | _ =>
    match s.span isNameChar with
    | ([], _) => none
    | (name, rest) => some (name, name, rest)

def names : List Char → List String
  | [] => []
  | c :: s =>
    let more := names s
    if c = '$' then
      match name? s with
      | some (name, _) => String.ofList name :: more
      | none => more
    else more

def expandFrom (values : List (String × String)) : Nat → List Char → List Char
  | 0, s => s
  | _ + 1, [] => []
  | n + 1, c :: s =>
    if c ≠ '$' then c :: expandFrom values n s
    else match name? s with
      | none => '$' :: expandFrom values n s
      | some (name, taken, rest) =>
        let value := match lookup (String.ofList name) values with
          | some v => v.toList
          | none => '$' :: taken
        value ++ expandFrom values n rest

def expand (values : List (String × String)) (s : String) : String :=
  String.ofList (expandFrom values (s.length + 1) s.toList)

end ClangIndex.Text.Variables
