import ClangIndex.Binding.Operation

/-!
The one way to the native side. Objects among the arguments are checked first, then the arguments
are converted to their C types, and then the call is made.
-/

namespace ClangIndex

open Native (Argument Answer Call CType Function Side)
open Text (Bytes)

inductive Actual
  | value (v : Value)
  | native (a : Argument)

namespace Native

def CType.isInput : CType → Bool
  | .callback | .object => false
  | .struct .cursorAndRangeVisitor => false
  | .pointer .voidPointer => true
  | .pointer (.struct .token) | .pointer (.struct .cursor) | .pointer (.struct .completionResult)
  | .pointer (.struct .codeCompleteResultsData) | .pointer (.struct .unsavedFile) => true
  | .pointer _ => false
  | _ => true

def Function.inputs (f : Function) : List CType := f.signature.parameters.filter CType.isInput

end Native

namespace Value

def interopText : Value → Except Failure (Option Bytes)
  | .none => .ok Option.none
  | .text s => .ok (some (Text.utf8 s))
  | .bytes b => .ok (some b)
  | .path s => .ok (some (Text.utf8 s))
  | .object (.bytesPath b) _ => .ok (some b)
  | v => .error (.notInteropText v.typeName)

def cText? (v : Value) : Option (Option Bytes) :=
  v.interopText.toOption.map (Option.map Text.cString)

def number? : Value → Option Int
  | .int n => some n
  | .bool b => some (if b then 1 else 0)
  | .flags _ n => some n
  | _ => Option.none

/-- A number that is passed on its own goes in a machine word, of which an `int` is taken. -/
def wordArgument? (n : Int) : Option Argument :=
  if -(Nat.pow 2 63 : Nat) ≤ n ∧ n < (Nat.pow 2 64 : Nat) then
    some (.int (Number.Width.int32.wrap n))
  else Option.none

theorem wordArgument?_of_int32 {n : Int} (low : -2147483648 ≤ n) (high : n < 2147483648) :
    wordArgument? n = some (.int n) := by
  have fits : -(Nat.pow 2 63 : Nat) ≤ n ∧ n < (Nat.pow 2 64 : Nat) := by
    change -9223372036854775808 ≤ n ∧ n < 18446744073709551616
    omega
  rw [wordArgument?, if_pos fits, Number.Width.wrap_int32 low high]

def structArgument? : Object → Option Argument
  | .cursor c => some (.struct c.symbol)
  | .type t => some (.struct t.symbol)
  | .token t => some (.struct t.symbol)
  | .location s | .range s | .comment s => some (.struct s)
  | o@(.uniqueId ..) | o@(.version _) | o@(.completionResult ..) | o@(.foreignString ..) =>
    some (.record o.typeName)
  | .pointer _ s => some (.handle s)
  | _ => Option.none

/-- What a value that wraps no handle becomes where one belongs. The classes of wrappers let all
other values through, so each is passed by what it is; some cannot be passed at all. -/
def passed? : Value → Option Argument
  | .none => some (.handle Option.none)
  | .text s => if '\x00' ∈ s.toList then Option.none else some (.wide s)
  | .bytes b => some (.text (some (Text.cString b)))
  | .object o _ => structArgument? o
  | v@(.platform _) => some (.record v.typeName)
  | v => v.number?.bind wordArgument?

def argument? (w : World) (t : CType) (v : Value) : Option Argument :=
  match t, v with
  | .struct .cursor, .object (.cursor c) _ => some (.struct c.symbol)
  | .struct .type, .object (.type t) _ => some (.struct t.symbol)
  | .struct .token, .object (.token t) _ => some (.struct t.symbol)
  | .struct .sourceLocation, .object (.location s) _ => some (.struct s)
  | .struct .sourceRange, .object (.range s) _ => some (.struct s)
  | .struct .comment, .object (.comment s) _ => some (.struct s)
  | .struct _, _ => Option.none
  | .cursorKind, .member m => wordArgument? m.number
  | .cursorKind, _ => Option.none
  | .text, v => v.cText?.map .text
  | .wrapper _, .handle h | .pointer _, .handle h =>
    some (.handle ((w.held? h).bind w.symbolOf))
  | .wrapper _, v => v.passed?
  | .pointer _, .object (.pointer _ s) _ => some (.handle s)
  | .pointer _, .none | .voidPointer, .none => some (.handle Option.none)
  | t, v =>
    match t.width?, v.number? with
    | some width, some n => some (.int (width.wrap n))
    | _, _ => Option.none

end Value

namespace Actual

def convert (w : World) : List CType → List Actual → Option (List Argument)
  | _, [] => some []
  | t :: ts, .value v :: r => do
    let a ← v.argument? w t
    let as ← convert w ts r
    pure (a :: as)
  | [], .value _ :: _ => none
  | ts, .native a :: r => do
    let as ← convert w ts.tail r
    pure (a :: as)

def objects : List Actual → List Handle
  | [] => []
  | .value (.handle h) :: r => h :: objects r
  | _ :: r => objects r

def obstacle (w : World) (actuals : List Actual) : Option Failure :=
  (objects actuals).findSome? (Handle.obstacle w)

theorem usable_of_obstacle {w : World} {actuals : List Actual} (h : obstacle w actuals = none) :
    ∀ p ∈ (objects actuals).map (Handle.party w), p.usable = true ∧ ¬w.accounts.Spent p.handle := by
  intro p hp
  obtain ⟨x, hx, rfl⟩ := List.mem_map.mp hp
  have clear := List.findSome?_eq_none_iff.mp h x hx
  exact ⟨by simp [Handle.party, clear], World.not_spent clear⟩

/-- A call with the objects that it is made for, as they stand when it is made. A holder is the
object that an argument was taken out of. -/
def dealing (w : World) (call : Call) (holder : Option Handle) (actuals : List Actual) :
    Dealing where
  call := call
  arguments := (objects actuals).map (Handle.party w)
  holder := holder.map (Handle.party w)

end Actual

namespace Native.Function

/-- Makes one call, and hears the answer. Objects among the arguments must be usable, in the order
of the arguments; then all values must fit. -/
def perform (f : Function) (holder : Option Handle) (actuals : List Actual) :
    Effect (Call × Answer) := fun side w =>
  match Actual.obstacle w actuals with
  | some e => (.error e, w)
  | none =>
    match Actual.convert w f.inputs actuals with
    | none => (.error Failure.argumentError, w)
    | some arguments =>
      let call : Call := ⟨f, arguments⟩
      (.ok (call, side.answer w.calls call),
        { w with dealings := Actual.dealing w call holder actuals :: w.dealings })

theorem perform_cases (f : Function) (holder : Option Handle) (actuals : List Actual)
    (side : Side) (w : World) :
    (∃ e, f.perform holder actuals side w = (.error e, w)) ∨
      ∃ d : Dealing,
        f.perform holder actuals side w =
          (.ok (d.call, side.answer w.calls d.call), { w with dealings := d :: w.dealings }) ∧
        d.call.function = f ∧ d.holder = holder.map (Handle.party w) ∧
        d.arguments = (Actual.objects actuals).map (Handle.party w) ∧
        ∀ p ∈ d.arguments, p.usable = true ∧ ¬w.accounts.Spent p.handle := by
  unfold perform
  split
  · exact .inl ⟨_, rfl⟩
  · rename_i clear
    split
    · exact .inl ⟨_, rfl⟩
    · rename_i arguments _
      exact .inr ⟨Actual.dealing w ⟨f, arguments⟩ holder actuals, rfl, rfl, rfl, rfl,
        Actual.usable_of_obstacle clear⟩

theorem perform_evolves (f : Function) (holder : Option Handle) (actuals : List Actual)
    (side : Side) (w : World)
    (keeps : f.releases = false ∨ holder = none ∧ Actual.objects actuals = [])
    (usable : ∀ h ∈ holder, h.obstacle w = none) :
    Evolution w.accounts (f.perform holder actuals side w).2.accounts := by
  obtain ⟨e, refused⟩ | ⟨d, made, function, held, arguments, clear⟩ :=
    f.perform_cases holder actuals side w
  · rw [refused]
    exact .refl _
  · rw [made]
    refine .single (.call w.accounts d ?_ ?_)
    · intro p hp
      cases List.mem_append.mp hp with
      | inl argument => exact clear p argument
      | inr inside =>
        rw [held] at inside
        obtain ⟨h, hh, rfl⟩ := Option.map_eq_some_iff.mp (Option.mem_toList.mp inside)
        exact ⟨by simp [Handle.party, usable h hh], World.not_spent (usable h hh)⟩
    · obtain released | ⟨bare, none⟩ := keeps
      · exact .inl (function ▸ released)
      · exact .inr (by simp [Dealing.parties, arguments, held, bare, none])

def invoke (f : Function) (actuals : List Actual)
    (keeps : f.releases = false := by first | exact Eq.refl false | assumption) :
    Binding (Call × Answer) where
  effect := f.perform none actuals
  evolves side w := f.perform_evolves none actuals side w (.inl keeps) (by simp)

theorem converted_of_invoke {f : Function} {actuals : List Actual} {keeps : f.releases = false}
    {side : Side} {w v : World} {x : Call × Answer}
    (e : (f.invoke actuals keeps).exec side w = (.ok x, v)) :
    ∃ arguments, Actual.convert w f.inputs actuals = some arguments := by
  simp only [Binding.exec, invoke, perform] at e
  split at e
  · cases e
  · split at e
    · cases e
    · rename_i arguments converted
      exact ⟨arguments, converted⟩

def invokeOn (f : Function) (h : Handle) (actuals : List Actual)
    (keeps : f.releases = false := by first | exact Eq.refl false | assumption) :
    Binding (Call × Answer) where
  effect := fun side w =>
    match h.obstacle w with
    | some e => (.error e, w)
    | none => f.perform (some h) actuals side w
  evolves side w := by
    split
    · exact .refl _
    · rename_i clear
      exact f.perform_evolves (some h) actuals side w (.inl keeps)
        fun _ hh => Option.some.inj hh ▸ clear

def invokeBare (f : Function) (a : Argument) : Binding (Call × Answer) where
  effect := f.perform none [.native a]
  evolves side w := f.perform_evolves none [.native a] side w (.inr ⟨rfl, rfl⟩) (by simp)

end Native.Function

namespace Binding

def copyText (data : Option (Option Bytes)) : Binding String :=
  copying (ForeignString.copy? data) (ForeignString.settles_copy? data)

end Binding

namespace CodeCompleteResults

def warn : Binding Unit :=
  Binding.log .warning "clangbind.completion" "clang_codeCompleteAt returned no results"

def arrayOf (s : Symbol) : Symbol := s ++ ".results"

def ofAnswer (answer : Answer) (unit : Option Handle) : Binding Handle := do
  match answer.handle with
  | none => warn
  | some s =>
    Binding.update fun w =>
      { w with completions := assign (arrayOf s) answer.completions w.completions }
  Handle.create .codeCompleteResults (.handle answer.handle) (.completions unit)

end CodeCompleteResults

namespace Native.Function

def number (f : Function) (actuals : List Actual)
    (keeps : f.releases = false := by first | exact Eq.refl false | assumption) : Binding Int := do
  let (call, answer) ← f.invoke actuals
  return answer.number call

def text (f : Function) (actuals : List Actual)
    (keeps : f.releases = false := by first | exact Eq.refl false | assumption) :
    Binding String := do
  let (_, answer) ← f.invoke actuals
  Binding.copyText (some answer.text)

def struct (f : Function) (actuals : List Actual)
    (keeps : f.releases = false := by first | exact Eq.refl false | assumption) :
    Binding Symbol := do
  let (_, answer) ← f.invoke actuals
  return answer.struct

def handle (f : Function) (actuals : List Actual)
    (keeps : f.releases = false := by first | exact Eq.refl false | assumption) :
    Binding (Option Symbol) := do
  let (_, answer) ← f.invoke actuals
  return answer.handle

def run (f : Function) (actuals : List Actual)
    (keeps : f.releases = false := by first | exact Eq.refl false | assumption) : Binding Unit := do
  let _ ← f.invoke actuals

def unitAmong : List Actual → Option Handle
  | [] => none
  | .value v :: r => v.unit? <|> unitAmong r
  | _ :: r => unitAmong r

def leadingHandle : List Actual → Option Handle
  | .value (.handle h) :: _ => some h
  | _ => none

def unchecked (answer : Answer) (call : Call) : Option CType → Value
  | none => .none
  | some (.struct .cursor) => .object (.cursor ⟨answer.struct, none⟩)
  | some (.struct .type) => .object (.type ⟨answer.struct, none⟩)
  | some (.struct .sourceLocation) => .object (.location answer.struct)
  | some (.struct .sourceRange) => .object (.range answer.struct)
  | some (.struct .comment) => .object (.comment answer.struct)
  | some (.pointer _) => .object (.pointer "c_void_p" answer.handle)
  | some _ => .int (answer.number call)

def wrap? (c : HandleClass) (h : Option Symbol)
    (fits : Role.plain.fits c = true := by exact Eq.refl true) : Binding Value := do
  match h with
  | some _ => return .handle (← Handle.create c (.handle h) .plain fits)
  | none => return .none

def call (f : Function) (actuals : List Actual)
    (keeps : f.releases = false := by first | exact Eq.refl false | assumption) :
    Binding Value := do
  let (call, answer) ← f.invoke actuals
  match f.signature.check with
  | some .takeString => return .text (← Binding.copyText (some answer.text))
  | some .decode => return (answer.text.map fun b => .text (Text.ofUtf8 b)).getD .none
  | some .truth => return .bool (answer.number call != 0)
  | some .cursor => return .object (.cursor ⟨answer.struct, unitAmong actuals⟩)
  | some .type => return .object (.type ⟨answer.struct, unitAmong actuals⟩)
  | some .file => wrap? .file answer.handle
  | some .completionString => wrap? .completionString answer.handle
  | some .module => return .handle (← Handle.create .module (.handle answer.handle))
  | some .diagnostic =>
    let owner := leadingHandle actuals
    return .handle (← Handle.create .diagnostic (.handle answer.handle) (.diagnostic owner))
  | some .codeCompleteResults => return .handle (← CodeCompleteResults.ofAnswer answer none)
  | none => return unchecked answer call f.signature.result

end Native.Function

/-- How a result is read: as it is, as whether it is not zero, or by the names for numbers. -/
inductive Reading
  | plain
  | truth
  | member (e : Enumeration)
  | flags (s : FlagSet)

namespace Enumeration

def require (e : Enumeration) (n : Int) : Binding Member :=
  match e.ofNumber? n with
  | some m => pure m
  | none => throw (.notMember (toString n) e.name)

end Enumeration

namespace Reading

def apply : Reading → Value → Binding Value
  | .truth, .int n => pure (.bool (n != 0))
  | .member e, .int n => return .member (← e.require n)
  | .flags s, .int n => pure (.flags s n.toNat)
  | _, v => pure v

end Reading

namespace Native.Function

def ask (f : Function) (arguments : List Value) (reading : Reading := .plain)
    (keeps : f.releases = false := by first | exact Eq.refl false | assumption) :
    Binding Value := do
  reading.apply (← f.call (arguments.map .value))

end Native.Function

end ClangIndex
