import ClangIndex.Library.Settings
import ClangIndex.Text.Path

namespace ClangIndex.Library

/-- What the machine has to offer: its name, what its linker finds, and the directories in which
packages are looked for. The working directory goes by a name of its own. -/
structure Machine where
  system : String := "Linux"
  linked : List (String × String) := []
  packageDirectories : List String := []
  files : Files.Tree := {}
  workingDirectory : String := ""
  deriving Inhabited

namespace Machine

def systemOr (m : Machine) (system : Option String) : String :=
  (Settings.nonEmpty system).getD m.system

def libraryName (m : Machine) (system : Option String) : String :=
  match m.systemOr system with
  | "Darwin" => "libclang.dylib"
  | "Windows" => "libclang.dll"
  | _ => "libclang.so"

def package : List Char := "clang".toList

def moduleEnding : List Char := ".py".toList

inductive Found
  | package (directory : List Char)
  | module
  | plainDirectory (directory : List Char)
  | nothing

def look (files : Files.Tree) (directory : List Char) : Found :=
  let inside := Text.Path.join (Files.Tree.withoutEndSlashes directory) package
  let isModule (start : List Char) : Bool := files.isFile (start ++ moduleEnding)
  if isModule (inside ++ "/__init__".toList) then .package inside
  else if isModule inside then .module
  else if files.isDirectory inside then .plainDirectory inside
  else .nothing

/-- The package's directories: the first package or module decides, and if there is none, every
directory with its name counts. -/
def packageLocations (files : Files.Tree) (plain : List (List Char)) :
    List (List Char) → List (List Char)
  | [] => plain
  | d :: r =>
    match look files d with
    | .package p => [p]
    | .module => []
    | .plainDirectory p => packageLocations files (plain ++ [p]) r
    | .nothing => packageLocations files plain r

def bundledName (m : Machine) (system : Option String) : List Char :=
  "/native/".toList ++ (m.libraryName system).toList

def absolute (m : Machine) (path : List Char) : List Char :=
  Text.Path.join m.workingDirectory.toList path

def bundled? (m : Machine) (system : Option String) : Option String :=
  let locations := packageLocations m.files [] (m.packageDirectories.map String.toList)
  ((locations.map (· ++ m.bundledName system)).find? m.files.isFile).map fun path =>
    String.ofList (m.absolute path)

def distinct (xs : List String) : List String :=
  xs.foldl (fun acc x => if acc.contains x then acc else acc ++ [x]) []

/-- The library in a directory. A directory that is named by bytes has no file that is named by a
text. -/
def inDirectory (file : String) : Name → Except Failure String
  | .text dir => .ok (String.ofList (Text.Path.join dir.toList file.toList))
  | .bytes _ => .error Failure.typeError

/-- A file that is named is the only candidate. Otherwise the directory that is named comes first,
then the bundled library, what the linker finds, and the bare name. -/
def candidates (m : Machine) (s : Settings) (system : Option String) : Except Failure (List Name) :=
  match s.file? with
  | some file => .ok [file]
  | none => do
    let name := m.libraryName system
    let inPath ← s.directory?.mapM (inDirectory name)
    let linked := Settings.nonEmpty (lookup "clang" m.linked)
    return (distinct ([inPath, m.bundled? system, linked].filterMap id ++ [name])).map .text

end Machine

end ClangIndex.Library
