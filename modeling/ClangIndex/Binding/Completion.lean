import ClangIndex.Binding.Diagnostic

namespace ClangIndex

open Native (Function)

namespace CompletionChunk

def text (string key : Value) : Binding String :=
  Function.getCompletionChunkText.text [.value string, .value key]

def kindNumber (string key : Value) : Binding Int :=
  Function.getCompletionChunkKind.number [.value string, .value key]

def kind (string key : Value) : Binding Member := do
  Enumeration.completionChunkKind.require (← kindNumber string key)

def isKind (name : String) (string key : Value) : Binding Bool := do
  let n ← kindNumber string key
  return (Enumeration.completionChunkKind.numberOf? name == some n)

def nested (string key : Value) : Binding Value := do
  match ← Function.getCompletionChunkCompletionString.handle [.value string, .value key] with
  | none => return .none
  | some s => return .handle (← Handle.create .completionString (.handle (some s)))

def str (string key : Value) : Binding String := do
  let kind ← kindNumber string key
  return chunkSpelling kind ++ " " ++ (← text string key)

def repr (string key : Value) : Binding String := do
  let text ← text string key
  return "\x7b'" ++ text ++ "', " ++ chunkSpelling (← kindNumber string key) ++ "\x7d"

end CompletionChunk

namespace CompletionString

def size (c : Handle) : Binding Nat :=
  return (← Function.getNumCompletionChunks.number [.value (.handle c)]).toNat

def chunks (c : Handle) : Binding (List Value) := do
  (indicesBelow (← size c)).mapM fun i => Value.chunkOf (.handle c) (.int i)

def availability (c : Handle) : Binding Member := do
  Enumeration.availabilityKind.require
    (← Function.getCompletionAvailability.number [.value (.handle c)])

def repr (c : Handle) : Binding String := do
  let chunks ← (indicesBelow (← size c)).mapM fun i => CompletionChunk.str (.handle c) (.int i)
  let priority ← Function.getCompletionPriority.number [.value (.handle c)]
  let availability ← availability c
  let comment ← Function.getCompletionBriefComment.text [.value (.handle c)]
  return " | ".intercalate chunks ++ " || Priority: " ++ toString priority ++
    " || Availability: " ++ availability.spelling?.getD availability.name ++
    " || Brief comment: " ++ comment

end CompletionString

namespace CompletionResult

def entry (w : World) (array : Symbol) (i : Nat) : Int × Option Symbol :=
  (((lookup array w.completions).bind fun items => items[i]?).getD (0, none))

def cursorKind (array : Symbol) (i : Nat) : Binding Member := do
  return ⟨.cursorKind, Number.Width.int32.wrap (entry (← World.now) array i).1⟩

def completionString (array : Symbol) (i : Nat) : Binding Handle :=
  Handle.create .completionString (.place array i)

end CompletionResult

namespace CodeCompleteResults

def array? (w : World) (h : Handle) : Option Symbol := ((w.held? h).bind w.symbolOf).map arrayOf

def isValid (h : Handle) : Binding Bool := return (array? (← World.now) h).isSome

def size (h : Handle) : Binding Nat := do
  let w ← World.now
  return (((array? w h).bind fun a => lookup a w.completions).getD []).length

def results (h : Handle) : Binding (List Value) := do
  match array? (← World.now) h with
  | none => return []
  | some a => return (List.range (← size h)).map fun i => .object (.completionResult a i)

def reorder (order : List Nat) (items : List α) : List α :=
  items.zipIdx.map fun (x, i) => (order[i]?.bind fun j => items[j]?).getD x

def changeArray (a : Symbol) (f : List (Int × Option Symbol) → List (Int × Option Symbol)) :
    Binding Unit :=
  .update fun w => { w with
    completions := match lookup a w.completions with
      | some items => assign a (f items) w.completions
      | none => w.completions }

def sort (h : Handle) : Binding Unit := do
  match array? (← World.now) h with
  | none => pure ()
  | some a =>
    let n ← size h
    let (_, answer) ← Function.sortCodeCompletionResults.invokeOn h
      [.native (.handle (some a)), .native (.int n)]
    match answer.order with
    | none => pure ()
    | some order =>
      changeArray a (reorder order)

def diagnostics (h : Handle) : Binding Value := do
  match array? (← World.now) h with
  | none => Value.diagnosticsOf [] (.handle h)
  | some _ =>
    Diagnostics.ofOwner h .codeCompleteGetNumDiagnostics .codeCompleteGetDiagnostic

def repr (h : Handle) : Binding String :=
  return "<CodeCompleteResults " ++ toString (← size h) ++ " results>"

end CodeCompleteResults

end ClangIndex
