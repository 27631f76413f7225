import ClangIndex.Library.Candidates
import ClangIndex.Library.Registration
import ClangIndex.Native.Function

/-!
Loading the library once it is needed. The settings may be changed until then; afterwards they are
frozen. Of a loader only the library that it loaded is its own, and what was set holds for all.
-/

namespace ClangIndex.Library

/-- What happens when a file is loaded as a library. A name that cannot be handed to the system is
no failure of the system, as a refusal is. -/
inductive Offer
  | refused (text : String)
  | unpassable
  | symbols (missing : List String) (only : Option (List String))
  deriving Repr

namespace Offer

def has (missing : List String) (only : Option (List String)) (s : String) : Bool :=
  s.startsWith "clang_" && !missing.contains s && only.all fun xs => xs.contains s

end Offer

structure Surroundings where
  machine : Machine := {}
  environment : Environment := []
  offers : List (Name × Offer) := []

namespace Surroundings

def offer (s : Surroundings) (file : Name) : Offer :=
  if file.hasZero then .unpassable
  else (s.offers.lookup file).getD (.refused (file.shown ++ ": not found"))

end Surroundings

structure Loaded where
  file : Name
  has : String → Bool
  found : List String := []

namespace Loaded

def find? (l : Loaded) (s : String) : Option Loaded :=
  if l.has s then
    some (if l.found.contains s then l else { l with found := l.found ++ [s] })
  else none

end Loaded

structure Loader where
  libraryFile : Option String := none
  libraryPath : Option String := none
  compatibilityCheck : Option Bool := none
  frozen : Bool := false
  loaded : Option Loaded := none
  tried : List Name := []
  records : List Log.Record := []

abbrev Loading := ReaderT Surroundings (ExceptT Failure (StateM Loader))

namespace Loader

def exec (m : Loading α) (s : Surroundings) (l : Loader) : Except Failure α × Loader := m s l

def logger : String := "clangbind.library"

def record (level : Log.Level) (message : String) : Loading Unit :=
  modify fun l => { l with records := l.records ++ [⟨level, logger, message, {}⟩] }

def ensureOpen (what : String) : Loading Unit := do
  if (← get).frozen then throw (.settingFrozen what)

def setLibraryPath (path : String) : Loading Unit := do
  ensureOpen "library path"
  modify fun l => { l with libraryPath := some path }

def setLibraryFile (file : String) : Loading Unit := do
  ensureOpen "library file"
  modify fun l => { l with libraryFile := some file }

def setCompatibilityCheck (b : Bool) : Loading Unit := do
  ensureOpen "compatibility_check"
  modify fun l => { l with compatibilityCheck := some b }

def override (l : Loader) (s : Settings) : Settings where
  libraryFile := Settings.preferred l.libraryFile s.libraryFile
  libraryPath := Settings.preferred l.libraryPath s.libraryPath
  compatibilityCheck := l.compatibilityCheck.getD s.compatibilityCheck

def settings : Loading Settings := do
  let around ← read
  let (s, records) := (Settings.load around.environment around.machine.files none none).exec
  modify fun l => { l with records := l.records ++ records }
  return (← get).override (← s)

def candidates (s : Settings) : Loading (List Name) := do
  liftM ((← read).machine.candidates s none)

def tryFiles (failures : List (String × String)) : List Name → Loading Loaded
  | [] => do
    record .error ("Unable to load libclang (tried " ++ toString failures.length ++ " candidates)")
    throw (.libraryNotLoaded failures)
  | file :: r => do
    modify fun l => { l with tried := l.tried ++ [file] }
    match (← read).offer file with
    | .refused text =>
      record .debug ("Could not load " ++ file.shown ++ ": " ++ text)
      tryFiles (failures ++ [(file.shown, text)]) r
    | .unpassable => throw Failure.valueError
    | .symbols missing only =>
      record .debug ("Loaded libclang from " ++ file.shown)
      return { file, has := Offer.has missing only }

def openLibrary (s : Settings) : Loading Loaded := do tryFiles [] (← candidates s)

def declarations : List (Declaration Native.CType Native.ResultCheck) :=
  Native.Function.all.map fun f =>
    let s := f.signature
    { name := s.symbol, parameters := some s.parameters, result := some s.result
      check := s.check }

def register (l : Loaded) (lenient : Bool) : Loading Loaded := do
  let r := Registration.ofTable l.has lenient declarations
  modify fun s => { s with records := s.records ++ r.records declarations.length }
  match r.failure? l.file.path with
  | some f => throw f
  | none => return { l with found := r.prototypes.map (·.1) }

/-- The loader's library. It is loaded when it is first asked for, and the settings are frozen
when that has worked. -/
def library : Loading Loaded := do
  match (← get).loaded with
  | some l => return l
  | none =>
    let s ← settings
    let l ← register (← openLibrary s) !s.compatibilityCheck
    modify fun x => { x with loaded := some l, frozen := true }
    return l

def symbol? (name : String) : Loading (Option Loaded) := do
  match (← library).find? name with
  | none => return none
  | some l =>
    modify fun x => { x with loaded := some l }
    return some l

def ownNames : List String := [
    "_lib", "__class__", "__delattr__", "__dict__", "__dir__", "__doc__", "__eq__", "__format__",
    "__ge__", "__getattr__", "__getattribute__", "__getstate__", "__gt__", "__hash__", "__init__",
    "__init_subclass__", "__le__", "__lt__", "__module__", "__ne__", "__new__", "__reduce__",
    "__reduce_ex__", "__repr__", "__setattr__", "__sizeof__", "__str__", "__subclasshook__",
    "__weakref__"]

def hasName (name : String) : Loading Bool := do
  if ownNames.contains name then
    let _ ← library
    return true
  else return (← symbol? name).isSome

/-- Whether a function exists. An attribute error counts as no, also one that loading ends in. -/
def functionExists (name : String) : Loading Bool :=
  tryCatch (hasName name) fun
    | .plain .attribute => pure false
    | e => throw e

def call (name : String) : Loading Unit := do
  if ownNames.contains name then
    let _ ← library
    throw Failure.typeError
  else if (← symbol? name).isNone then throw Failure.attributeError

def renew : Loading Unit := modify fun l => { l with loaded := none }

end Loader

end ClangIndex.Library
