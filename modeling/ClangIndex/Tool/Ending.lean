import ClangIndex.Binding.Operation
import ClangIndex.Tool.CommandLine
import ClangIndex.Tool.Report

namespace ClangIndex.Tool

inductive Finish
  | returned
  | exit (code : Nat)
  | failed (f : Failure)

/-- The end of a run: what went to the error output, from which level records were shown, and the
report that was written. -/
structure Ending where
  finish : Finish
  errors : List String := []
  level : Log.Level := .info
  saved : Option Report.Saved := none

structure Scene where
  files : Files.Tree := {}
  environment : List (String × String) := []
  run : String
  time : String

def printAll : List String → Binding Unit
  | [] => pure ()
  | s :: r => do Binding.print s; printAll r

def stop (g : Grammar) : Stop → Binding Ending
  | .help => do
    printAll g.help
    return { finish := .exit 0 }
  | .misuse m => return { finish := .exit 2, errors := g.complaint m }

def nameRun (run : String) : Binding Unit :=
  .update fun w => { w with context := { w.context with runId := run } }

def saveReport (scene : Scene) (tool : String) (directory : Option Argument)
    (entries : List (String × Json)) : Binding (Option Report.Saved) := do
  match directory.bind Argument.word? with
  | none => return none
  | some directory =>
    match Report.saveNew ⟨scene.run, scene.time, some tool⟩ directory entries scene.files with
    | .error e => throw e
    | .ok saved =>
      Binding.log .info tool ("Run report written to " ++ saved.path)
      return some saved

/-- Ends a run by what its work came to. A failure ends it as well. -/
def conclude (level : Log.Level) (m : Binding (Finish × Option Report.Saved)) : Binding Ending := do
  match ← Binding.attempt m with
  | .ok (finish, saved) => return { finish, level, saved }
  | .error f => return { finish := .failed f, level }

end ClangIndex.Tool
