import ClangIndex.Files.Tree
import ClangIndex.Json.Writer
import ClangIndex.Text.Path

namespace ClangIndex.Tool.Report

open Files (Tree PathFault)

def defaultDirectory : String := "output/run_reports"

/-- Which run a report is of. An empty name of a tool counts as none. -/
structure Origin where
  run : String
  time : String
  tool : Option String := none

namespace Origin

def tool? (o : Origin) : Option String := o.tool.filter (!·.isEmpty)

def fileName (o : Origin) : String :=
  match o.tool? with
  | some t => t ++ "-" ++ o.run ++ ".json"
  | none => o.run ++ ".json"

end Origin

abbrev Entries := List (String × Json)

structure Desk where
  reports : Array Entries := #[]
  files : Tree := {}

structure Ref where
  place : Nat
  deriving DecidableEq, Repr

namespace Desk

def entries (d : Desk) (r : Ref) : Entries := d.reports[r.place]?.getD []

end Desk

abbrev Act := ExceptT Failure (StateM Desk)

namespace Act

def exec (m : Act α) (d : Desk) : Except Failure α × Desk := m d

def copy (r : Ref) : Act Ref :=
  modifyGet fun d => (⟨d.reports.size⟩, { d with reports := d.reports.push (d.entries r) })

def addDefault (r : Ref) (k : String) (v : Json) : Act Unit :=
  modify fun d => { d with reports := d.reports.modify r.place (assignDefault k v) }

def changeFiles (change : Tree → Except PathFault Tree) : Act Unit := fun d =>
  match change d.files with
  | .ok files => (.ok (), { d with files })
  | .error e => (.error e.failure, d)

end Act

open Act (copy addDefault changeFiles)

structure Saved where
  path : String
  text : String
  deriving DecidableEq, Repr

def complete (o : Origin) (report : Ref) : Act Unit := do
  addDefault report "run_id" (.text o.run)
  addDefault report "timestamp_utc" (.text o.time)
  if let some t := o.tool? then addDefault report "tool" (.text t)

def write (path : List Char) (report : Ref) : Act Saved := do
  let pieces := (Json.object ((← get).entries report)).sorted.pieces 0
  let text := String.ofList (Json.written pieces)
  changeFiles (·.write path (Text.utf8 text))
  if pieces.all Option.isSome then return ⟨String.ofList path, text⟩
  else throw Failure.valueError

def save (o : Origin) (directory : String) (report : Ref) : Act Saved := do
  changeFiles (·.makeDirectories directory.toList)
  let payload ← copy report
  complete o payload
  write (Text.Path.join directory.toList o.fileName.toList) payload

def saveNew (o : Origin) (directory : String) (entries : Entries) (files : Tree) :
    Except Failure Saved :=
  ((save o directory ⟨0⟩).exec { reports := #[entries], files }).1

end ClangIndex.Tool.Report
