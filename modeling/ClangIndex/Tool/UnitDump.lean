import ClangIndex.Binding.TranslationUnit
import ClangIndex.Binding.Visit
import ClangIndex.Tool.Ending

namespace ClangIndex.Tool.UnitDump

open Native (Function)

def name : String := "run_dump"

namespace Switches

def help : Switch := ⟨["-h", "--help"], .help⟩
def file : Switch := ⟨["--fname"], .value⟩
def report : Switch := ⟨["--report-dir"], .value⟩
def verbose : Switch := ⟨["--verbose"], .flag⟩

end Switches

def usage : List String := [
    "usage: run_dump.py [-h] [--fname FNAME] [--report-dir REPORT_DIR] [--verbose]",
    "                   [clang_args ...]"]

def grammar : Grammar where
  program := "run_dump.py"
  switches := [Switches.help, Switches.file, Switches.report, Switches.verbose]
  positionals := .many
  usage := usage
  help := usage ++ [
    "",
    "Dump the AST of a C/C++ file via the Cursor visitor API",
    "",
    "positional arguments:",
    "  clang_args            Arguments passed to clang.",
    "",
    "options:",
    "  -h, --help            show this help message and exit",
    "  --fname FNAME         The file to analyze.",
    "  --report-dir REPORT_DIR",
    "                        Write a JSON run report here (e.g.",
    "                        output/run_reports).",
    "  --verbose             Enable DEBUG logging.",
    "",
    "Examples:",
    "  python run_dump.py --fname foo.cxx",
    "  python run_dump.py --fname foo.cxx -- -I include -DNDEBUG"]

structure Options where
  file : Argument := .word ""
  reportDirectory : Option Argument := none
  verbose : Bool := false
  arguments : List String := []
  deriving DecidableEq, Repr, Inhabited

def Options.ofGiven (g : Given) : Options where
  file := (g.value? Switches.file).getD (.word "")
  reportDirectory := g.value? Switches.report
  verbose := g.has Switches.verbose
  arguments := g.positionals.getD []

def Options.read (words : List String) : Except Stop Options := do
  return .ofGiven (← grammar.read words)

structure Message where
  severity : String
  text : String

structure Summary where
  file : String
  arguments : List String
  cursors : Nat
  messages : List Message

def textsJson (xs : List String) : Json := .array (xs.map .text)

def Summary.entries (s : Summary) : List (String × Json) := [
    ("fname", .text s.file),
    ("clang_args", textsJson s.arguments),
    ("cursor_count", .int s.cursors),
    ("diagnostics", .array (s.messages.map fun m =>
      .object [("severity", .text m.severity), ("message", .text m.text)]))]

def entered : List String := ["CLASS_DECL", "ENUM_DECL", "STRUCT_DECL", "NAMESPACE"]

def kindSpelling (m : Member) : Binding String :=
  Function.getCursorKindSpelling.text [.value (.member m)]

def answer (descend : Bool) : Value :=
  .member ⟨.childVisitResult, if descend then 2 else 1⟩

def newCounter : Binding Nat :=
  .keeping fun w => (w.counters.size, { w with counters := w.counters.push 0 })

def countUp (counter : Nat) : Binding Unit :=
  .update fun w => { w with counters := w.counters.modify counter (· + 1) }

def printer (visited : Nat) : Visitor Cursor := fun child _ => do
  countUp visited
  if ← child.isNull then
    Binding.print "cursor: <none>"
    return answer false
  else
    let kind ← child.kind
    let shown ← kindSpelling kind
    let spelling ← child.spelling
    let usr ← Function.getCursorUSR.text [.value (.cursor child)]
    Binding.print (shown ++ ": " ++ spelling ++ " (" ++ usr ++ ")")
    return answer (entered.contains kind.name)

def printBelow (c : Cursor) : Binding Nat := do
  let visited ← newCounter
  let _ ← Binding.inPhase "visit" (c.visit (printer visited))
  return (← World.now).counter visited

def message (d : Value) : Binding Message := do
  match d with
  | .handle d =>
    let severity ← Diagnostic.severity d
    let shown ← severity.str
    return ⟨shown, ← Diagnostic.format d .none⟩
  | _ => throw Failure.attributeError

def messages (u : Handle) : Binding (List Message) := do
  match ← TranslationUnit.diagnostics u with
  | v@(.diagnostics items _) => Binding.andFinally (items.mapM message) v.dispose
  | _ => throw Failure.attributeError

def shownFile (u : Handle) (file : String) : Binding String := do
  match ← Function.getFile.call [.value (.handle u), .value (.text file)] with
  | .handle f => File.name f
  | _ => return "<none>"

def printUnit (u : Handle) (file : String) : Binding (Nat × List Message) := do
  Binding.print ("tu: " ++ (← TranslationUnit.spelling u))
  let c ← TranslationUnit.cursor u
  Binding.print ("cursor-isnull: " ++ Text.Literal.ofBool (← c.isNull))
  Binding.print ("cursor: " ++ (← c.spelling))
  Binding.print ("cursor-kind: " ++ (← kindSpelling (← c.kind)))
  Binding.print ("tu-fname: " ++ (← shownFile u file))
  let n ← printBelow c
  return (n, ← messages u)

def dump (file : String) (arguments : List String) : Binding Summary := do
  let index ← Index.make (.bool false) (.bool true)
  let (cursors, messages) ← Binding.releasing index do
    let unit ← Binding.inPhase "parse"
      (Index.parse index (.text file) (.list (arguments.map .text)) .none (.int 0))
    Binding.releasing unit (printUnit unit file)
  Binding.log .info name
    ("Visited " ++ toString cursors ++ " cursors, " ++ toString messages.length ++ " diagnostics")
  return { file, arguments, cursors, messages }

def work (scene : Scene) (o : Options) : Binding (Finish × Option Report.Saved) := do
  nameRun scene.run
  Binding.print ":: run_dump..."
  Binding.print (":: fname: " ++ o.file.shown)
  Binding.print (":: args: " ++ Text.Literal.ofItems (o.arguments.map Text.Literal.ofText))
  match o.file.word? with
  | none =>
    Binding.print "please provide a file name to analyze"
    return (.exit 1, none)
  | some file =>
    match ← Binding.attempt (dump file o.arguments) with
    | .error f =>
      if f.class?.isNone then throw f
      Binding.log .error name ("Could not dump " ++ file ++ ": " ++ f.message?.getD "")
      return (.exit 1, none)
    | .ok summary =>
      let saved ← saveReport scene name o.reportDirectory summary.entries
      Binding.print ":: bye."
      return (.returned, saved)

def run (scene : Scene) (words : List String) : Binding Ending :=
  match Options.read words with
  | .error s => stop grammar s
  | .ok o => conclude (if o.verbose then .debug else .info) (work scene o)

end ClangIndex.Tool.UnitDump
