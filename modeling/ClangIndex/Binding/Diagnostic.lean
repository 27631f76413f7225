import ClangIndex.Binding.Cursor
import ClangIndex.Binding.Disposal

namespace ClangIndex

open Native (Function)

namespace Diagnostic

def severity (d : Handle) : Binding Member := do
  Enumeration.diagnosticSeverity.require
    (← Function.getDiagnosticSeverity.number [.value (.handle d)])

def location (d : Handle) : Binding Symbol :=
  Function.getDiagnosticLocation.struct [.value (.handle d)]

def spelling (d : Handle) : Binding String :=
  Function.getDiagnosticSpelling.text [.value (.handle d)]

def option (d : Handle) : Binding Value := do
  let (_, answer) ← Function.getDiagnosticOption.invoke [.value (.handle d)]
  let (enable, disable) ← Binding.copying
    (ForeignString.copyWithin answer.disable answer.text) (ForeignString.settles_copyWithin _ _)
  return .tuple [.text enable, .text disable]

def ranges (d : Handle) : Binding Value := do
  let n ← Function.getDiagnosticNumRanges.number [.value (.handle d)]
  return .list (← (indicesBelow n).mapM fun i =>
    Function.getDiagnosticRange.call [.value (.handle d), .value (.int i)])

def fixit (d : Handle) (i : Int) : Binding Value := do
  let (_, answer) ← Function.getDiagnosticFixIt.invoke [.value (.handle d), .value (.int i)]
  let text ← Binding.copyText (some answer.text)
  return .fixIt text (.range (answer.range.getD zeroSymbol))

def fixits (d : Handle) : Binding Value := do
  let n ← Function.getDiagnosticNumFixIts.number [.value (.handle d)]
  return .list (← (indicesBelow n).mapM (fixit d))

def format (d : Handle) (options : Value) : Binding String := do
  let options ← match options with
    | .none => Function.defaultDiagnosticDisplayOptions.number []
    | v => v.toInteger
  Function.formatDiagnostic.text [.value (.handle d), .value (.int options)]

end Diagnostic

namespace Diagnostics

def ofOwner (owner : Handle) (count item : Function)
    (countKeeps : count.releases = false := by exact Eq.refl false)
    (itemKeeps : item.releases = false := by exact Eq.refl false) :
    Binding Value := do
  let n ← count.number [.value (.handle owner)]
  let items ← (indicesBelow n).mapM fun i => item.call [.value (.handle owner), .value (.int i)]
  Value.diagnosticsOf items (.handle owner)

end Diagnostics

end ClangIndex
