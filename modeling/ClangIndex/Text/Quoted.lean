
namespace ClangIndex.Text.Quoted

def escape : List Char → List Char
  | [] => []
  | c :: r => if c = '"' ∨ c = '\\' then '\\' :: c :: escape r else c :: escape r

def quote (s : List Char) : List Char := '"' :: escape s ++ ['"']

def quoteText (s : String) : String := String.ofList (quote s.toList)

end ClangIndex.Text.Quoted
