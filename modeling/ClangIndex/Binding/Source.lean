import ClangIndex.Binding.Call

namespace ClangIndex

open Native (Answer Function)

structure Position where
  file : Option Handle
  line : Int
  column : Int
  offset : Int

namespace Position

def toValue (p : Position) : Value := .filePosition p.file p.line p.column p.offset

end Position

namespace Location

def unsigned (n : Option Int) : Int := Number.Width.uint32.wrap (n.getD 0)

def decompose (f : Function) (s : Symbol)
    (keeps : f.releases = false := by first | exact Eq.refl false | assumption) :
    Binding Position := do
  let (_, answer) ← f.invoke [.value (.location s)]
  let file ← match answer.file.join with
    | some x => some <$> Handle.create .file (.handle (some x))
    | none => pure none
  return ⟨file, unsigned answer.line, unsigned answer.column, unsigned answer.offset⟩

def expansion (s : Symbol) : Binding Position := decompose .getExpansionLocation s

def presumed (s : Symbol) : Binding Value := do
  let (_, answer) ← Function.getPresumedLocation.invoke [.value (.location s)]
  let filename ← Binding.copyText answer.filename
  return .presumedPosition filename (unsigned answer.line) (unsigned answer.column)

def null : Binding Symbol := Function.getNullLocation.struct []

/-- Asks the native side, whatever the symbols are. -/
def equal (a b : Symbol) : Binding Bool :=
  return (← Function.equalLocations.number [.value (.location a), .value (.location b)]) != 0

def isNull (s : Symbol) : Binding Bool := do equal s (← null)

end Location

namespace Range

def null : Binding Symbol := Function.getNullRange.struct []

def between (start stop : Value) : Binding Value :=
  Function.getRange.call [.value start, .value stop]

def equal (a b : Symbol) : Binding Bool :=
  return (← Function.equalRanges.number [.value (.range a), .value (.range b)]) != 0

end Range

namespace File

def name (f : Handle) : Binding String := Function.getFileName.text [.value (.handle f)]

/-- The first and the last second whose year fits in 32 bits, as years since 1900. -/
def representable (seconds : Int) : Bool :=
  -67768040609740800 ≤ seconds && seconds ≤ 67768036191676799

def inCalendar (seconds : Int) : Bool := -62135596800 ≤ seconds && seconds ≤ 253402300799

def modificationTime (f : Handle) : Binding Value := do
  let seconds ← Function.getFileTime.number [.value (.handle f)]
  if !representable seconds then throw (.plain .system)
  else if !inCalendar seconds then throw Failure.valueError
  else return .moment seconds

def uniqueId (f : Handle) : Binding Value := do
  let (call, answer) ← Function.getFileUniqueID.invoke [.value (.handle f)]
  let code := answer.number call
  if code ≠ 0 then
    let name ← name f
    Binding.log .warning "clangbind.source"
      ("clang_getFileUniqueID failed for " ++ name ++ " (err=" ++ toString code ++ ")")
    throw (.noUniqueID code)
  else
    let (a, b, c) := answer.uniqueId.getD (0, 0, 0)
    return .uniqueId a b c

def equal (a b : Handle) : Binding Bool := do
  let x ← a.symbol
  let y ← b.symbol
  return x = y

end File

end ClangIndex
