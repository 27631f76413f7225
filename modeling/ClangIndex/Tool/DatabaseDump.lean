import ClangIndex.Binding.Database
import ClangIndex.Text.Path
import ClangIndex.Text.Quoted
import ClangIndex.Text.Variables
import ClangIndex.Tool.Ending

namespace ClangIndex.Tool.DatabaseDump

open Native (Function)

def name : String := "run_compdb"

def databaseFile : String := "compile_commands.json"

namespace Switches

def help : Switch := ⟨["-h", "--help"], .help⟩
def report : Switch := ⟨["--report-dir"], .value⟩

end Switches

def usage : List String := ["usage: run_compdb.py [-h] [--report-dir REPORT_DIR] directory"]

def grammar : Grammar where
  program := "run_compdb.py"
  switches := [Switches.help, Switches.report]
  positionals := .one "directory"
  usage := usage
  help := usage ++ [
    "",
    "Dump the content of a Clang compilation database",
    "",
    "positional arguments:",
    "  directory             Directory containing a 'compile_commands.json' file",
    "                        (env vars are expanded).",
    "",
    "options:",
    "  -h, --help            show this help message and exit",
    "  --report-dir REPORT_DIR",
    "                        Write a JSON run report to this directory."]

structure Options where
  directory : String
  reportDirectory : Option Argument := none
  deriving DecidableEq, Repr, Inhabited

def Options.ofGiven (g : Given) : Options where
  directory := (g.positionals.getD []).headD ""
  reportDirectory := g.value? Switches.report

def Options.read (words : List String) : Except Stop Options := do
  return .ofGiven (← grammar.read words)

structure Command where
  directory : String
  arguments : List String

structure Summary where
  directory : String
  commands : List Command

def Summary.entries (s : Summary) : List (String × Json) := [
    ("directory", .text s.directory),
    ("command_count", .int s.commands.length),
    ("commands", .array (s.commands.map fun c => .object [
      ("directory", .text c.directory), ("arguments", .array (c.arguments.map .text))]))]

def directoryOf (command : Handle) : Binding String :=
  Function.compileCommandGetDirectory.text [.value (.handle command)]

def printCommand (i : Nat) (last : Bool) (command : Handle) : Binding Command := do
  let arguments ← CompileCommand.arguments command
  Binding.print ("::  --- cmd=" ++ toString i ++ " ---")
  Binding.print ("::  dir= " ++ Text.Quoted.quoteText (← directoryOf command))
  Binding.print ("::  nargs= " ++ toString arguments.length)
  let quoted := arguments.map Text.Quoted.quoteText
  Binding.print ("::  args= \x7b" ++ ", ".intercalate quoted ++ "\x7d")
  unless last do Binding.print "::"
  return ⟨← directoryOf command, arguments⟩

def printCommands (commands : Handle) : Binding (List Command) := do
  let count ← CompileCommands.size commands
  Binding.print (":: got " ++ toString count ++ " compile commands")
  let n ← CompileCommands.size commands
  (List.range n).mapM fun (i : Nat) => do
    match ← CompileCommands.command commands (.int i) with
    | .handle c => printCommand i (i + 1 == count) c
    | _ => throw Failure.attributeError

def dump (files : Files.Tree) (directory : String) : Binding Summary := do
  let file := Text.Path.join directory.toList databaseFile.toList
  if !files.isFile file then throw (.fileMissing (String.ofList file))
  else
    let database ← Binding.inPhase "load" (CompilationDatabase.fromDirectory (.text directory))
    let commands ← Binding.releasing database do
      let commands ← CompilationDatabase.allCommands database
      Binding.releasing commands (printCommands commands)
    return ⟨directory, commands⟩

def recorded? (directory : String) (f : Failure) : Option String :=
  match f with
  | .fileMissing _ => some ("File error: " ++ f.message?.getD "")
  | _ =>
    if f.class?.isSome then
      some ("could not open compilation database at [" ++ directory ++ "]: " ++ f.message?.getD "")
    else none

def work (scene : Scene) (o : Options) : Binding (Finish × Option Report.Saved) := do
  nameRun scene.run
  let directory := Text.Variables.expand scene.environment o.directory
  let heading := ":: inspecting [" ++ directory ++ "]..."
  Binding.print heading
  match ← Binding.attempt (dump scene.files directory) with
  | .error f =>
    match recorded? directory f with
    | none => throw f
    | some message =>
      Binding.log .error name message
      return (.exit 1, none)
  | .ok summary =>
    let saved ← saveReport scene name o.reportDirectory summary.entries
    Binding.print (heading ++ " [done]")
    return (.returned, saved)

def run (scene : Scene) (words : List String) : Binding Ending :=
  match Options.read words with
  | .error s => stop grammar s
  | .ok o => conclude .info (work scene o)

end ClangIndex.Tool.DatabaseDump
