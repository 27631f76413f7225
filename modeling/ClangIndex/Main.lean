import ClangIndex.Json.Reader
import ClangIndex.Native.Script
import ClangIndex.Tool.DatabaseDump
import ClangIndex.Tool.UnitDump
import Std.Time.DateTime

namespace ClangIndex.Program

def knownVariables (s : String) : IO (List (String × String)) :=
  (Text.Variables.names s.toList).filterMapM fun n => do
    return (← IO.getEnv n).map fun v => (n, v)

def locationOf (home : Files.Location) (path : String) : Files.Location :=
  if path.toList.head? = some '/' then Text.Path.parts path.toList
  else home ++ Text.Path.parts path.toList

def filesFor (home : Files.Location) (environment : List (String × String)) (words : List String) :
    IO Files.Tree := do
  match Tool.DatabaseDump.Options.read words with
  | .error _ => return { home }
  | .ok o =>
    let directory := Text.Variables.expand environment o.directory
    let path := String.ofList
      (Text.Path.join directory.toList Tool.DatabaseDump.databaseFile.toList)
    try
      let contents ← IO.FS.readBinFile path
      return { home, entries := [(locationOf home path, .file contents.toList)] }
    catch _ => return { home }

def freshName : IO String := do
  let bytes ← IO.getRandomBytes 6
  return String.ofList (Text.Hex.encode bytes.toList)

def timeText : IO String := do
  let now ← Std.Time.Timestamp.now
  return momentText "T" now.toSecondsSinceUnixEpoch.val

def write (s : Tool.Report.Saved) : IO Unit := do
  let directory := String.ofList (Files.Tree.split s.path.toList).1
  unless directory.isEmpty do IO.FS.createDirAll directory
  IO.FS.writeFile s.path s.text

def finish (time : String) (w : World) (e : Tool.Ending) : IO UInt32 := do
  IO.print (String.join w.printed.reverse)
  for s in e.errors do IO.eprintln s
  for r in w.records.reverse do
    if e.level.rank ≤ r.level.rank then IO.eprintln (time ++ " | " ++ r.text)
  if let some s := e.saved then write s
  match e.finish with
  | .returned => return 0
  | .exit n => return n.toUInt32
  | .failed f =>
    IO.eprintln (f.kind ++ (f.message?.elim "" fun m => ": " ++ m))
    return 1

def tool? (name : String) : Option (Tool.Scene → List String → Binding Tool.Ending) :=
  if name = Tool.UnitDump.name then some Tool.UnitDump.run
  else if name = Tool.DatabaseDump.name then some Tool.DatabaseDump.run
  else none

def run (words : List String) : IO UInt32 := do
  match words with
  | name :: script :: words =>
    match tool? name, Json.parse (← IO.FS.readFile script) with
    | some tool, some j =>
      let environment ← knownVariables (String.join words)
      let home := Text.Path.parts (← IO.currentDir).toString.toList
      let files ← filesFor home environment words
      let time ← timeText
      let scene : Tool.Scene := { files, environment, run := ← freshName, time }
      match (tool scene words).exec (Native.Script.ofJson j).toSide {} with
      | (.ok e, w) => finish time w e
      | (.error f, w) => finish time w { finish := .failed f }
    | _, _ =>
      IO.eprintln "unknown tool, or a script that cannot be read"
      return 2
  | _ =>
    IO.eprintln "the name of a tool and a script are needed"
    return 2

end ClangIndex.Program

def main (words : List String) : IO UInt32 := ClangIndex.Program.run words
