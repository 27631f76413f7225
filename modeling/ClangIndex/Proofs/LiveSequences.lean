import ClangIndex.Proofs.DisposalOutcome
import ClangIndex.Proofs.DisposedSequences
import ClangIndex.Proofs.LoadingCalls
import ClangIndex.Proofs.OwnedDiagnostics
import Mathlib.Algebra.Group.Nat.Defs

namespace ClangIndex

open Native (Answer Argument Call CType Function HandleClass Side)

namespace World

variable {u v w : World} {allowed more : Int → Prop}

/-- A later state with more objects and chunks, on the way to which the native side was passed no
numbers but some that are allowed. -/
structure Grows (allowed : Int → Prop) (w v : World) : Prop where
  adds : Diagnostics.Adds w v
  chunks : ∃ new, v.chunks.toList = w.chunks.toList ++ new
  completions : v.completions = w.completions
  calls : ∃ made, v.calls = made ++ w.calls ∧
    ∀ c ∈ made, ∀ m, Argument.int m ∈ c.arguments → allowed m

namespace Grows

theorem refl (w : World) : Grows allowed w w :=
  ⟨⟨[], by simp⟩, ⟨[], by simp⟩, rfl, [], rfl, List.forall_mem_nil _⟩

theorem trans (h : Grows allowed w u) (k : Grows allowed u v) : Grows allowed w v := by
  obtain ⟨⟨objects, added⟩, ⟨new, chunks⟩, same, made, calls, passes⟩ := h
  obtain ⟨⟨objects', added'⟩, ⟨new', chunks'⟩, same', made', calls', passes'⟩ := k
  refine ⟨⟨objects ++ objects', by simp [added', added]⟩, ⟨new ++ new', by simp [chunks', chunks]⟩,
    same'.trans same, made' ++ made, by simp [calls', calls], ?_⟩
  intro c mem
  cases List.mem_append.mp mem with
  | inl mem => exact passes' c mem
  | inr mem => exact passes c mem

theorem mono (h : Grows allowed w v) (k : ∀ m, allowed m → more m) : Grows more w v := by
  obtain ⟨adds, chunks, same, made, calls, passes⟩ := h
  exact ⟨adds, chunks, same, made, calls, fun c mem m passed => k m (passes c mem m passed)⟩

theorem held? (h : Grows allowed w v) {k : Handle} {x : Held} (e : w.held? k = some x) :
    v.held? k = some x := by
  obtain ⟨s, stands, held⟩ := Option.bind_eq_some_iff.mp e
  exact Option.bind_eq_some_iff.mpr ⟨s, h.adds.handle? stands, held⟩

theorem role (h : Grows allowed w v) {k : Handle} {x : Held} (e : w.held? k = some x) :
    v.role k = w.role k := by
  obtain ⟨s, stands, -⟩ := Option.bind_eq_some_iff.mp e
  rw [World.role, World.role, h.adds.handle? stands, stands]

theorem symbolOf (h : Grows allowed w v) (x : Held) : v.symbolOf x = w.symbolOf x := by
  cases x with
  | handle s => rfl
  | place array i => rw [World.symbolOf, World.symbolOf, h.completions]

theorem chunk (h : Grows allowed w v) {id : Nat} {c : ChunkState} (e : w.chunks[id]? = some c) :
    v.chunks[id]? = some c := by
  obtain ⟨new, chunks⟩ := h.chunks
  rw [← Array.getElem?_toList] at e ⊢
  rw [chunks]
  exact getElem?_append_of_some e new

end Grows

theorem Grows.symbol? {h : Handle} (k : Grows allowed w v) (live : w.isDisposed h = false) :
    v.symbol? h = w.symbol? h := by
  obtain ⟨x, held⟩ : ∃ x, w.held? h = some x := by
    simpa [isDisposed, Option.isSome_iff_exists] using live
  simp [World.symbol?, held, k.held? held, k.symbolOf]

theorem Grows.isDisposed {h : Handle} (k : Grows allowed w v) (live : w.isDisposed h = false) :
    v.isDisposed h = false := by
  obtain ⟨x, held⟩ : ∃ x, w.held? h = some x := by
    simpa [World.isDisposed, Option.isSome_iff_exists] using live
  simp [World.isDisposed, k.held? held]

end World

namespace Handle

variable {h : Handle} {side : Side} {u v w : World} {f : Function} {cls : HandleClass}
  {keeps : f.releases = false}

theorem usable_of_live (live : w.isDisposed h = false) (other : h.cls ≠ .diagnostic) : h.Usable w :=
  ⟨live, fun _ own => absurd (cls_of_owner own) other⟩

theorem exec_symbol (usable : h.Usable w) (side : Side) :
    h.symbol.exec side w = (.ok (w.symbol? h), w) := by
  have now : World.now.exec side w = (.ok w, w) := rfl
  have alive : h.ensureAlive.exec side w = (.ok (), w) := by
    rw [ensureAlive, Binding.exec_bind_ok now, obstacle_eq_none.mpr usable]
    rfl
  obtain ⟨x, held_⟩ : ∃ x, w.held? h = some x := by
    simpa [World.isDisposed, Option.isSome_iff_exists] using usable.1
  have held : h.held.exec side w = (.ok x, w) := by
    rw [held, Binding.exec_bind_ok alive, Binding.exec_bind_ok now, held_]
    rfl
  rw [symbol, Binding.exec_bind_ok held, Binding.exec_bind_ok now, World.symbol?, held_]
  rfl

theorem exec_invoke_about (inputs : f.inputs = [.wrapper cls]) (usable : h.Usable w) (side : Side) :
    let c : Call := ⟨f, [.handle (w.symbol? h)]⟩
    ∃ v, (f.invoke [.value (.handle h)] keeps).exec side w = (.ok (c, side.answer w.calls c), v) ∧
      v.calls = c :: w.calls ∧ w.Grows (fun _ => False) v := by
  intro c
  have clear : Actual.obstacle w [.value (.handle h)] = none :=
    Actual.obstacle_eq_none.mpr fun k mem => List.mem_singleton.mp mem ▸ usable
  have converted : Actual.convert w f.inputs [.value (.handle h)] = some c.arguments := by
    rw [inputs]
    rfl
  let d := Actual.dealing w c none [.value (.handle h)]
  refine ⟨{ w with dealings := d :: w.dealings }, ?_, rfl, ⟨[], by simp⟩, ⟨[], by simp⟩, rfl,
    [c], rfl, ?_⟩
  · change f.perform none _ side w = _
    rw [Function.perform, clear, converted]
  · simp [c]

theorem argument?_index {i : Nat} (small : i < 2 ^ 32) (w : World) :
    (Value.int i).argument? w .uint32 = some (.int i) := by
  have wrapped : Number.Width.uint32.wrap i = i := by
    simp only [Number.Width.wrap, Number.Width.uint32]
    exact Int.emod_eq_of_lt (Int.natCast_nonneg i) (by exact_mod_cast small)
  change some (Argument.int (Number.Width.uint32.wrap i)) = _
  rw [wrapped]

theorem exec_invoke_at {i : Nat} (keeps : f.releases = false)
    (inputs : f.inputs = [.wrapper cls, .uint32]) (small : i < 2 ^ 32) (usable : h.Usable w)
    (side : Side) :
    let c : Call := ⟨f, [.handle (w.symbol? h), .int i]⟩
    ∃ v, (f.invoke [.value (.handle h), .value (.int i)] keeps).exec side w =
        (.ok (c, side.answer w.calls c), v) ∧
      v.calls = c :: w.calls ∧ w.Grows (· = i) v := by
  intro c
  have clear : Actual.obstacle w [.value (.handle h), .value (.int i)] = none :=
    Actual.obstacle_eq_none.mpr fun k mem => List.mem_singleton.mp mem ▸ usable
  have converted : Actual.convert w f.inputs [.value (.handle h), .value (.int i)] =
      some c.arguments := by
    rw [inputs, Actual.convert, Actual.convert, argument?_index small]
    rfl
  let d := Actual.dealing w c none [.value (.handle h), .value (.int i)]
  refine ⟨{ w with dealings := d :: w.dealings }, ?_, rfl, ⟨[], by simp⟩, ⟨[], by simp⟩, rfl,
    [c], rfl, ?_⟩
  · change f.perform none _ side w = _
    rw [Function.perform, clear, converted]
  · simp [c]

end Handle

namespace Handle

variable {h : Handle} {side : Side} {u v w : World} {n : Nat} {null : Nat → Bool}

def arrayCount (w : World) (h : Handle) : Nat :=
  match h.cls with
  | .tokens => (Tokens.contents w h).elim 0 fun (_, count, _) => count
  | .overriddenCursors => (OverriddenCursors.contents w h).2.1
  | _ => (((CodeCompleteResults.array? w h).bind fun a => lookup a w.completions).getD []).length

def sizeCall (w : World) (h : Handle) (f : Function) : Call := ⟨f, [.handle (w.symbol? h)]⟩

def commandCall (w : World) (h : Handle) (i : Nat) : Call :=
  ⟨.compileCommandsGetCommand, [.handle (w.symbol? h), .int i]⟩

/-- From a state on, a sequence has so many elements, of which these are null. Arrays keep their
length by themselves. -/
inductive Steady (side : Side) (w : World) (h : Handle) : Nat → (Nat → Bool) → Prop
  | array (cls : h.cls = .tokens ∨ h.cls = .overriddenCursors ∨ h.cls = .codeCompleteResults) :
      Steady side w h (arrayCount w h) fun _ => false
  | noCommands (cls : h.cls = .compileCommands) (empty : w.symbol? h = none) :
      Steady side w h 0 fun _ => false
  | commands {n : Nat} {null : Nat → Bool} (cls : h.cls = .compileCommands)
      (given : (w.symbol? h).isSome = true)
      (size : ∀ made, let c := sizeCall w h .compileCommandsGetSize
        (side.answer (made ++ w.calls) c).number c = n)
      (nulls : ∀ made i, i < n →
        (side.answer (made ++ w.calls) (commandCall w h i)).handle.isNone = null i) :
      Steady side w h n null
  | chunks {n : Nat} (cls : h.cls = .completionString)
      (size : ∀ made, let c := sizeCall w h .getNumCompletionChunks
        (side.answer (made ++ w.calls) c).number c = n) :
      Steady side w h n fun _ => false

/-- What a value shows as the element of a sequence at an index: the symbol that stands there, or
what the native side answered when it was asked for just this index, or a chunk for just this
index. -/
inductive Element (side : Side) (w : World) (h : Handle) : Nat → Value → Prop
  | token {i : Nat} {unit count items} (cls : h.cls = .tokens)
      (contents : Tokens.contents w h = some (unit, count, items)) :
      Element side w h i (.token ⟨items.getD i zeroSymbol, some unit⟩)
  | cursor {i : Nat} (cls : h.cls = .overriddenCursors) :
      Element side w h i (.cursor ⟨(OverriddenCursors.contents w h).2.2.getD i zeroSymbol,
        (OverriddenCursors.contents w h).1⟩)
  | result {i : Nat} {a : Symbol} (cls : h.cls = .codeCompleteResults)
      (array : CodeCompleteResults.array? w h = some a) :
      Element side w h i (.object (.completionResult a i))
  | command {i : Nat} {k : Handle} {s : Symbol} {before later : List Call}
      (cls : h.cls = .compileCommands) (made : k.cls = .compileCommand)
      (held : w.held? k = some (.handle (some s)))
      (role : w.role k = .command (.handle h))
      (calls : w.calls = later ++ commandCall w h i :: before)
      (answered : (side.answer before (commandCall w h i)).handle = some s) :
      Element side w h i (.handle k)
  | chunk {i id : Nat} (cls : h.cls = .completionString)
      (made : w.chunks[id]? = some ⟨.handle h, .int i⟩)
      (passed : ∀ v, (Value.int i).argument? v .uint32 = some (.int i)) :
      Element side w h i (.chunk id)

section

variable {allowed : Int → Prop} (live : w.isDisposed h = false) (k : w.Grows allowed v)

include live k

theorem contents_grows :
    Tokens.contents v h = Tokens.contents w h ∧
      OverriddenCursors.contents v h = OverriddenCursors.contents w h ∧
      CodeCompleteResults.array? v h = CodeCompleteResults.array? w h := by
  obtain ⟨x, held⟩ : ∃ x, w.held? h = some x := by
    simpa [World.isDisposed, Option.isSome_iff_exists] using live
  have role := k.role held
  refine ⟨by rw [Tokens.contents, Tokens.contents, role],
    by rw [OverriddenCursors.contents, OverriddenCursors.contents, role], ?_⟩
  exact congrArg (Option.map _) (k.symbol? live)

theorem Steady.grows (steady : Steady side w h n null) : Steady side v h n null := by
  have symbol := k.symbol? live
  obtain ⟨earlier, calls, -⟩ := k.calls
  cases steady with
  | array cls =>
    have same : arrayCount v h = arrayCount w h := by
      obtain ⟨tokens, overridden, results⟩ := contents_grows live k
      rw [arrayCount, arrayCount, tokens, overridden, results, k.completions]
    rw [← same]
    exact .array cls
  | noCommands cls empty => exact .noCommands cls (symbol.trans empty)
  | commands cls given size nulls =>
    refine .commands cls (symbol ▸ given) (fun made => ?_) fun made i lt => ?_
    · rw [sizeCall, symbol, calls, ← List.append_assoc]
      exact size (made ++ earlier)
    · rw [commandCall, symbol, calls, ← List.append_assoc]
      exact nulls (made ++ earlier) i lt
  | chunks cls size =>
    refine .chunks cls fun made => ?_
    rw [sizeCall, symbol, calls, ← List.append_assoc]
    exact size (made ++ earlier)

theorem Element.grows {i : Nat} {x : Value} (element : Element side w h i x) :
    Element side v h i x := by
  obtain ⟨tokens, overridden, results⟩ := contents_grows live k
  cases element with
  | token cls contents => exact .token cls (tokens.trans contents)
  | cursor cls =>
    rw [← overridden]
    exact .cursor cls
  | result cls array => exact .result cls (results.trans array)
  | @command o s before later cls made held role calls answered =>
    obtain ⟨calls', more, -⟩ := k.calls
    have same : commandCall v h i = commandCall w h i := by
      rw [commandCall, commandCall, k.symbol? live]
    have after : v.calls = (calls' ++ later) ++ commandCall v h i :: before := by
      rw [more, calls, same, List.append_assoc]
    exact .command cls made (k.held? held) ((k.role held).trans role) after (same ▸ answered)
  | chunk cls made passed => exact .chunk cls (k.chunk made) passed

end

theorem Element.eq_token {i : Nat} {x : Value} {unit : Handle} {count : Nat} {items : List Symbol}
    (element : Element side w h i x) (cls : h.cls = .tokens)
    (contents : Tokens.contents w h = some (unit, count, items)) :
    x = .token ⟨items.getD i zeroSymbol, some unit⟩ := by
  cases element with
  | token _ there =>
    cases contents.symm.trans there
    rfl
  | cursor other | result other | command other | chunk other => cases cls.symm.trans other

theorem Element.eq_cursor {i : Nat} {x : Value} {unit : Option Handle} {count : Nat}
    {items : List Symbol} (element : Element side w h i x) (cls : h.cls = .overriddenCursors)
    (contents : OverriddenCursors.contents w h = (unit, count, items)) :
    x = .cursor ⟨items.getD i zeroSymbol, unit⟩ := by
  cases element with
  | cursor => rw [contents]
  | token other | result other | command other | chunk other => cases cls.symm.trans other

theorem Steady.isSequence (steady : Steady side w h n null) : h.cls.isSequence = true := by
  cases steady with
  | array cls => rcases cls with cls | cls | cls <;> rw [cls] <;> rfl
  | noCommands cls | commands cls | chunks cls => rw [cls]; rfl

theorem usable_of_sequence (live : w.isDisposed h = false) (sequence : h.cls.isSequence = true) :
    h.Usable w :=
  usable_of_live live fun cls => by rw [cls] at sequence; cases sequence

theorem number_lt {a : Answer} {c : Call}
    (result : c.function.signature.result = some .uint32) (number : a.number c = n) :
    n < 2 ^ 32 := by
  have below (m : Int) : Number.Width.uint32.wrap m < 2 ^ 32 :=
    Int.emod_lt_of_pos m (by decide)
  unfold Answer.number at number
  simp only [result, Option.bind_some, CType.width?] at number
  have := number ▸ below _
  exact_mod_cast this

theorem Steady.small (steady : Steady side w h n null)
    (asked : h.cls = .compileCommands ∨ h.cls = .completionString) : n < 2 ^ 32 := by
  cases steady with
  | array cls => rcases cls with cls | cls | cls <;> simp [cls] at asked
  | noCommands => decide
  | commands _ _ size => exact number_lt rfl (size [])
  | chunks _ size => exact number_lt rfl (size [])

theorem exec_number_about {f : Function} {cls : HandleClass} (keeps : f.releases = false)
    (inputs : f.inputs = [.wrapper cls]) (usable : h.Usable w)
    (size : ∀ made, let c := sizeCall w h f
      (side.answer (made ++ w.calls) c).number c = n) :
    ∃ v, (f.number [.value (.handle h)] keeps).exec side w = (.ok n, v) ∧
      w.Grows (fun _ => False) v := by
  obtain ⟨v, made, -, grows⟩ := exec_invoke_about inputs usable side
  refine ⟨v, ?_, grows⟩
  rw [Function.number, Binding.exec_bind_ok made, Binding.exec_pure]
  exact congrArg (fun m => (Except.ok m, v)) (size [])

theorem exec_size (live : w.isDisposed h = false) (steady : Steady side w h n null) :
    ∃ v, h.size.exec side w = (.ok n, v) ∧ w.Grows (fun _ => False) v := by
  have now : World.now.exec side w = (.ok w, w) := rfl
  have usable := usable_of_sequence live steady.isSequence
  unfold size
  cases steady with
  | array cls =>
    refine ⟨w, ?_, .refl w⟩
    rcases cls with cls | cls | cls
    · simp only [cls, arrayCount]
      rw [Tokens.size, Binding.exec_bind_ok now, if_neg (by simp [live])]
      rfl
    · simp only [cls, arrayCount]
      rw [OverriddenCursors.size, Binding.exec_bind_ok now, if_neg (by simp [live])]
      rfl
    · simp only [cls, arrayCount]
      rfl
  | noCommands cls empty =>
    refine ⟨w, ?_, .refl w⟩
    simp only [cls]
    rw [CompileCommands.size, Binding.exec_bind_ok (exec_symbol usable side), empty]
    rfl
  | commands cls given size nulls =>
    obtain ⟨s, symbol⟩ := Option.isSome_iff_exists.mp given
    obtain ⟨v, number, grows⟩ := exec_number_about rfl rfl usable size
    refine ⟨v, ?_, grows⟩
    simp only [cls]
    rw [CompileCommands.size, Binding.exec_bind_ok (exec_symbol usable side), symbol]
    exact Binding.exec_bind_ok number
  | chunks cls size =>
    obtain ⟨v, number, grows⟩ := exec_number_about rfl rfl usable size
    refine ⟨v, ?_, grows⟩
    simp only [cls]
    exact Binding.exec_bind_ok number

def take (h : Handle) (i : Nat) : Binding Value := do
  match h.cls with
  | .compileCommands =>
    match ← Function.compileCommandsGetCommand.handle [.value (.handle h), .value (.int i)] with
    | none => throw (.outOfRange i)
    | some s =>
      return .handle (← Handle.create .compileCommand (.handle (some s)) (.command (.handle h)))
  | .completionString => Value.chunkOf (.handle h) (.int i)
  | _ => h.itemAt i

theorem item_eq_take (sequence : h.cls.isSequence = true) (i : Nat) :
    h.item (.int i) = (Value.int i).ensureWithin h.size >>= fun _ => h.take i := by
  unfold item size take
  cases cls : h.cls with
  | tokens | overriddenCursors | codeCompleteResults => simp [Value.number?]
  | completionString => rfl
  | compileCommands => rfl
  | _ => rw [cls] at sequence; cases sequence

/-- How the look for the element at an index in range ends. -/
def Gives (side : Side) (w : World) (h : Handle) (i : Nat) (null : Bool) (m : Binding Value) :
    Prop :=
  ∃ v, w.Grows (· = i) v ∧
    if null then m.exec side w = (.error (.outOfRange i), v)
    else ∃ x, m.exec side w = (.ok x, v) ∧ Element side v h i x

theorem exists_contents (live : w.isDisposed h = false) (cls : h.cls = .tokens) :
    ∃ c, Tokens.contents w h = some c := by
  obtain ⟨x, held⟩ : ∃ x, w.held? h = some x := by
    simpa [World.isDisposed, Option.isSome_iff_exists] using live
  obtain ⟨s, stands, -⟩ := Option.bind_eq_some_iff.mp held
  have fits := World.fits_of_handle? stands
  have role : w.role h = s.role := by simp [World.role, stands]
  rw [Tokens.contents, role]
  cases r : s.role with
  | tokens => exact ⟨_, rfl⟩
  | _ => rw [r, cls] at fits; cases fits

theorem exec_create_command (h : Handle) (s : Symbol) (side : Side) (w : World) :
    ∃ k v, (Handle.create .compileCommand (.handle (some s)) (.command (.handle h))).exec side w =
        (.ok k, v) ∧ (∀ allowed, w.Grows allowed v) ∧ v.calls = w.calls ∧ k.cls = .compileCommand ∧
      v.held? k = some (.handle (some s)) ∧ v.role k = .command (.handle h) := by
  let state : HandleState :=
    ⟨.compileCommand, some (.handle (some s)), .command (.handle h), none, rfl⟩
  let v : World := { w with handles := w.handles.push state }
  have pushed : v.handles = w.handles.push state := rfl
  refine ⟨⟨state.cls, w.handles.size⟩, v, rfl, fun _ => ?_, rfl, rfl, ?_, ?_⟩
  · exact ⟨⟨_, Array.toList_push⟩, ⟨[], by simp [v]⟩, rfl, [], rfl, List.forall_mem_nil _⟩
  · rw [World.held?, World.handle?_of_push pushed]
    rfl
  · exact World.role_of_push pushed

theorem gives_command {i : Nat} (cls : h.cls = .compileCommands) (live : w.isDisposed h = false)
    (small : i < 2 ^ 32) :
    Gives side w h i (side.answer w.calls (commandCall w h i)).handle.isNone (h.take i) := by
  have usable := usable_of_live live (by simp [cls])
  obtain ⟨v, made, calls, grows⟩ := exec_invoke_at (f := .compileCommandsGetCommand)
    rfl rfl small usable side
  have asked : (Function.compileCommandsGetCommand.handle
      [.value (.handle h), .value (.int i)]).exec side w =
        (.ok (side.answer w.calls (commandCall w h i)).handle, v) := Binding.exec_bind_ok made
  unfold take
  simp only [cls]
  cases command : (side.answer w.calls (commandCall w h i)).handle with
  | none =>
    rw [command] at asked
    exact ⟨v, grows, Binding.exec_bind_ok asked⟩
  | some s =>
    rw [command] at asked
    obtain ⟨k, v', created, more, same, cls', held, role⟩ := exec_create_command h s side v
    have grown := grows.trans (more _)
    refine ⟨v', grown, _, (Binding.exec_bind_ok asked).trans (Binding.exec_bind_ok created), ?_⟩
    have call : commandCall v' h i = commandCall w h i := by
      rw [commandCall, commandCall, grown.symbol? live]
    have after : v'.calls = [] ++ commandCall v' h i :: w.calls := by
      rw [same, calls, call]
      rfl
    exact .command cls cls' held role after (call ▸ command)

theorem gives_take {i : Nat} (live : w.isDisposed h = false) (steady : Steady side w h n null)
    (lt : i < n) : Gives side w h i (null i) (h.take i) := by
  have now : World.now.exec side w = (.ok w, w) := rfl
  cases steady with
  | noCommands => cases lt
  | commands cls given size nulls =>
    exact nulls [] i lt ▸ gives_command cls live (Nat.lt_trans lt (number_lt rfl (size [])))
  | array cls =>
    unfold take
    refine ⟨w, .refl w, ?_⟩
    rcases cls with cls | cls | cls
    · obtain ⟨⟨unit, count, items⟩, contents⟩ := exists_contents live cls
      simp only [cls, itemAt]
      exact ⟨_, by rw [Binding.exec_bind_ok now, contents]; rfl, .token cls contents⟩
    · simp only [cls, itemAt]
      exact ⟨_, rfl, .cursor cls⟩
    · simp only [arrayCount, cls] at lt
      cases array : CodeCompleteResults.array? w h with
      | none => simp [array] at lt
      | some a =>
        simp only [cls, itemAt]
        exact ⟨_, by rw [Binding.exec_bind_ok now, array]; rfl, .result cls array⟩
  | chunks cls size =>
    have small : i < 2 ^ 32 := Nat.lt_trans lt (number_lt rfl (size []))
    unfold take
    simp only [cls]
    refine ⟨{ w with chunks := w.chunks.push ⟨.handle h, .int i⟩ }, ?_, _, rfl, ?_⟩
    · exact ⟨⟨[], by simp⟩, ⟨_, Array.toList_push⟩, rfl, [], rfl, List.forall_mem_nil _⟩
    · exact .chunk cls (by simp) (argument?_index small)

theorem Gives.after {i : Nat} {null : Bool} {m l : Binding Value}
    (grows : w.Grows (fun _ => False) u) (same : l.exec side w = m.exec side u)
    (gives : Gives side u h i null m) : Gives side w h i null l := by
  obtain ⟨v, more, ends⟩ := gives
  exact ⟨v, (grows.mono fun _ => False.elim).trans more, by rwa [same]⟩

theorem gives_item {i : Nat} (live : w.isDisposed h = false) (steady : Steady side w h n null)
    (lt : i < n) : Gives side w h i (null i) (h.item (.int i)) := by
  obtain ⟨u, size, grows⟩ := exec_size live steady
  refine .after grows ?_ (gives_take (grows.isDisposed live) (steady.grows live grows) lt)
  rw [item_eq_take steady.isSequence, Value.ensureWithin_of_nonneg _ (Int.natCast_nonneg i),
    bind_assoc, Binding.exec_bind_ok size, if_neg (by omega)]
  rfl

/-- How a listing of the elements at some indices ends: in all of them, or with the error for the
first index at which there is a null one. -/
def Lists (side : Side) (w : World) (h : Handle) (is : List Nat) (null : Nat → Bool)
    (m : Binding (List Value)) : Prop :=
  ∃ v, w.Grows (fun k => ∃ i ∈ is, k = i) v ∧
    match is.find? null with
    | some j => m.exec side w = (.error (.outOfRange j), v)
    | none => ∃ xs, m.exec side w = (.ok xs, v) ∧ List.Forall₂ (Element side v h) is xs

theorem Lists.after {is : List Nat} {m l : Binding (List Value)}
    (grows : w.Grows (fun _ => False) u) (same : l.exec side w = m.exec side u)
    (lists : Lists side u h is null m) : Lists side w h is null l := by
  obtain ⟨v, more, ends⟩ := lists
  exact ⟨v, (grows.mono fun _ => False.elim).trans more, by rwa [same]⟩

theorem Lists.cons {i : Nat} {is : List Nat} {x : Value} {m : Binding Value}
    {l : Binding (List Value)} (live : u.isDisposed h = false) (given : null i = false)
    (grows : w.Grows (· = i) u) (taken : m.exec side w = (.ok x, u))
    (element : Element side u h i x) (lists : Lists side u h is null l) :
    Lists side w h (i :: is) null (do return (← m) :: (← l)) := by
  obtain ⟨v, more, ends⟩ := lists
  have first : w.Grows (fun k => ∃ j ∈ i :: is, k = j) u :=
    grows.mono fun k same => ⟨i, List.mem_cons_self, same⟩
  refine ⟨v, first.trans (more.mono fun k => ?_), ?_⟩
  · rintro ⟨j, mem, same⟩
    exact ⟨j, List.mem_cons_of_mem i mem, same⟩
  rw [List.find?_cons, given, Binding.exec_bind_ok taken]
  cases found : is.find? null with
  | some j =>
    rw [found] at ends
    exact Binding.exec_bind_error ends
  | none =>
    rw [found] at ends
    obtain ⟨xs, listed, elements⟩ := ends
    exact ⟨x :: xs, Binding.exec_bind_ok listed, .cons (element.grows live more) elements⟩

theorem lists_mapM {m : Nat → Binding Value}
    (gives : ∀ v, v.isDisposed h = false → Steady side v h n null → ∀ i < n,
      Gives side v h i (null i) (m i))
    (live : w.isDisposed h = false) (steady : Steady side w h n null) {is : List Nat}
    (within_ : ∀ i ∈ is, i < n) : Lists side w h is null (is.mapM m) := by
  induction is generalizing w with
  | nil => exact ⟨w, .refl w, [], rfl, .nil⟩
  | cons i r ih =>
    obtain ⟨here, others⟩ := List.forall_mem_cons.mp within_
    obtain ⟨u, grows, ends⟩ := gives w live steady i here
    rw [List.mapM_cons]
    cases given : null i with
    | true =>
      rw [given, if_pos rfl] at ends
      refine ⟨u, grows.mono fun k same => ⟨i, List.mem_cons_self, same⟩, ?_⟩
      rw [List.find?_cons, given]
      exact Binding.exec_bind_error ends
    | false =>
      rw [given, if_neg Bool.false_ne_true] at ends
      obtain ⟨x, taken, element⟩ := ends
      have live' := grows.isDisposed live
      exact .cons live' given grows taken element (ih live' (steady.grows live grows) others)

abbrev gather (xs : List Value) (x : Value) : Binding (Progress (List Value)) :=
  pure (.more (x :: xs))

theorem elements_eq_fold (h : Handle) :
    (Value.handle h).elements = (do
      let s ← (Value.handle h).supply
      (Value.handle h).hintSize
      let xs ← s.fold gather []
      return xs.reverse) := rfl

theorem foldArray_gather (h : Handle) (is : List Nat) (taken : List Value) :
    Supply.foldArray gather h is taken =
      (is.mapM fun (i : Nat) => h.item (.int i)) >>= fun xs => pure (xs.reverse ++ taken) := by
  induction is generalizing taken with
  | nil => simp [Supply.foldArray]
  | cons i r ih => simp [Supply.foldArray, Supply.proceed, ih]

theorem foldItems_gather (xs taken : List Value) :
    Supply.foldItems gather xs taken = pure (xs.reverse ++ taken) := by
  induction xs generalizing taken with
  | nil => rfl
  | cons x r ih => simp [Supply.foldItems, Supply.proceed, ih]

theorem elements_of_array (cls : h.cls = .tokens ∨ h.cls = .overriddenCursors ∨
    h.cls = .compileCommands) :
    (Value.handle h).elements = (do
      let _ ← h.size
      let n ← h.size
      (List.range n).mapM fun (i : Nat) => h.item (.int i)) := by
  have supply : (Value.handle h).supply = pure (.array h) := by
    rcases cls with cls | cls | cls <;> simp only [Value.supply, cls]
  have hint : (Value.handle h).hintSize = h.size >>= fun _ => pure () := by
    rcases cls with cls | cls | cls <;> simp only [Value.hintSize, cls] <;> rfl
  simp [elements_eq_fold, supply, hint, Supply.fold, foldArray_gather]

theorem lists_sized {m : Nat → Binding (List Value)} (live : w.isDisposed h = false)
    (steady : Steady side w h n null)
    (lists : ∀ v, v.isDisposed h = false → Steady side v h n null →
      Lists side v h (List.range n) null (m n)) :
    Lists side w h (List.range n) null (do
      let _ ← h.size
      let n ← h.size
      m n) := by
  obtain ⟨u, size, grows⟩ := exec_size live steady
  obtain ⟨v, again, more⟩ := exec_size (grows.isDisposed live) (steady.grows live grows)
  have both := grows.trans more
  refine .after both ?_ (lists v (both.isDisposed live) (steady.grows live both))
  rw [Binding.exec_bind_ok size, Binding.exec_bind_ok again]

theorem lists_items (live : w.isDisposed h = false) (steady : Steady side w h n null) :
    Lists side w h (List.range n) null ((List.range n).mapM fun (i : Nat) => h.item (.int i)) :=
  lists_mapM (fun _ live steady _ lt => gives_item live steady lt) live steady
    fun _ mem => List.mem_range.mp mem

theorem exec_foldChunks_step {i : Nat} (cls : h.cls = .completionString)
    (live : w.isDisposed h = false) (steady : Steady side w h n fun _ => false) (lt : i < n) :
    ∃ x v, w.Grows (· = i) v ∧ Element side v h i x ∧ ∀ most taken,
      (Supply.foldChunks gather h (most + 1) i taken).exec side w =
        (Supply.foldChunks gather h most (i + 1) (x :: taken)).exec side v := by
  obtain ⟨u, size, grows⟩ := exec_size live steady
  obtain ⟨v, more, ends⟩ := gives_take (grows.isDisposed live) (steady.grows live grows) lt
  rw [if_neg Bool.false_ne_true] at ends
  obtain ⟨x, given, element⟩ := ends
  refine ⟨x, v, (grows.mono fun _ => False.elim).trans more, element, fun most taken => ?_⟩
  have given : (h.itemAt i).exec side u = (.ok x, v) := by
    rw [← given, itemAt, take]
    simp only [cls]
    rfl
  rw [Supply.foldChunks, Binding.exec_bind_ok size, if_neg (by omega), Binding.exec_bind_ok given]
  rfl

theorem exec_foldChunks {left most i : Nat} (cls : h.cls = .completionString)
    (live : w.isDisposed h = false) (steady : Steady side w h n fun _ => false)
    (rest : i + left = n) (enough : left < most) (taken : List Value) :
    ∃ xs v, (Supply.foldChunks gather h most i taken).exec side w =
        (.ok (xs.reverse ++ taken), v) ∧
      w.Grows (fun k => ∃ j ∈ List.range' i left, k = j) v ∧
      List.Forall₂ (Element side v h) (List.range' i left) xs := by
  obtain ⟨most, rfl⟩ := Nat.exists_eq_add_one_of_ne_zero (Nat.ne_of_gt (Nat.zero_lt_of_lt enough))
  induction left generalizing w most i taken with
  | zero =>
    obtain ⟨u, size, grows⟩ := exec_size live steady
    refine ⟨[], u, ?_, grows.mono fun _ => False.elim, .nil⟩
    rw [Supply.foldChunks, Binding.exec_bind_ok size, if_pos (by omega)]
    rfl
  | succ left ih =>
    obtain ⟨x, u, grows, element, step⟩ := exec_foldChunks_step cls live steady (i := i) (by omega)
    have live' := grows.isDisposed live
    obtain ⟨most, rfl⟩ := Nat.exists_eq_add_one_of_ne_zero (show most ≠ 0 by omega)
    obtain ⟨xs, v, folded, more, elements⟩ := ih live' (steady.grows live grows)
      (show i + 1 + left = n by omega) (x :: taken) most (by omega)
    have first : w.Grows (fun k => ∃ j ∈ List.range' i (left + 1), k = j) u :=
      grows.mono fun k same => ⟨i, by simp, same⟩
    refine ⟨x :: xs, v, ?_, first.trans (more.mono fun k => ?_), ?_⟩
    · rw [step, folded, List.reverse_cons, List.append_assoc, List.singleton_append]
    · rintro ⟨j, mem, same⟩
      exact ⟨j, List.mem_cons_of_mem i mem, same⟩
    · exact .cons (element.grows live' more) elements

theorem lists_of_ok {is : List Nat} {xs : List Value} {m : Binding (List Value)}
    (grows : w.Grows (fun k => ∃ i ∈ is, k = i) v) (done : m.exec side w = (.ok xs, v))
    (elements : List.Forall₂ (Element side v h) is xs) :
    Lists side w h is (fun _ => false) m := by
  have none : is.find? (fun _ => false) = none := by simp
  refine ⟨v, grows, ?_⟩
  rw [none]
  exact ⟨xs, done, elements⟩

theorem exec_elements_of_fold {s : Supply} {xs : List Value}
    (supplied : (Value.handle h).supply.exec side w = (.ok s, w))
    (hinted : (Value.handle h).hintSize.exec side w = (.ok (), u))
    (folded : (s.fold gather []).exec side u = (.ok (xs.reverse ++ []), v)) :
    (Value.handle h).elements.exec side w = (.ok xs, v) := by
  rw [elements_eq_fold, Binding.exec_bind_ok supplied, Binding.exec_bind_ok hinted,
    Binding.exec_bind_ok folded, Binding.exec_pure, List.append_nil, List.reverse_reverse]

theorem exec_hintSize (sequence : h.cls.isSequence = true)
    (size : h.size.exec side w = (.ok n, u)) :
    (Value.handle h).hintSize.exec side w = (.ok (), u) := by
  simp only [Value.hintSize, sequence, if_true]
  exact Binding.exec_bind_ok size

theorem lists_chunks_elements (cls : h.cls = .completionString) (live : w.isDisposed h = false)
    (steady : Steady side w h n fun _ => false) :
    Lists side w h (List.range n) (fun _ => false) (Value.handle h).elements := by
  obtain ⟨u, size, grows⟩ := exec_size live steady
  have enough : n < Nat.pow 2 32 := steady.small (.inr cls)
  obtain ⟨xs, v, folded, more, elements⟩ := exec_foldChunks cls (grows.isDisposed live)
    (steady.grows live grows) (Nat.zero_add n) enough []
  rw [← List.range_eq_range'] at more elements
  have supplied : (Value.handle h).supply.exec side w = (.ok (.chunks h), w) := by
    simp only [Value.supply, cls]
    rfl
  have done := exec_elements_of_fold supplied (exec_hintSize steady.isSequence size) folded
  exact lists_of_ok ((grows.mono fun _ => False.elim).trans more) done elements

theorem lists_chunks (cls : h.cls = .completionString) (live : w.isDisposed h = false)
    (steady : Steady side w h n fun _ => false) :
    Lists side w h (List.range n) (fun _ => false) (CompletionString.chunks h) := by
  obtain ⟨u, size, grows⟩ := exec_size live steady
  have sized : (CompletionString.size h).exec side w = (.ok n, u) := by
    rw [← size, Handle.size]
    simp only [cls]
  have made := lists_mapM (m := fun i => Value.chunkOf (.handle h) (.int i))
    (fun v live steady i lt => by
      have given := gives_take live steady lt
      unfold take at given
      simpa only [cls] using given)
    (grows.isDisposed live) (steady.grows live grows) fun i mem => List.mem_range.mp mem
  refine .after grows ?_ made
  rw [CompletionString.chunks, Binding.exec_bind_ok sized, indicesBelow, List.mapM_map]
  rfl

theorem exec_results (h : Handle) (side : Side) (w : World) :
    ∃ xs, (CodeCompleteResults.results h).exec side w = (.ok xs, w) ∧
      (h.cls = .codeCompleteResults →
        List.Forall₂ (Element side w h) (List.range (arrayCount w h)) xs) := by
  have now : World.now.exec side w = (.ok w, w) := rfl
  rw [CodeCompleteResults.results, Binding.exec_bind_ok now]
  cases array : CodeCompleteResults.array? w h with
  | none =>
    refine ⟨[], rfl, fun cls => ?_⟩
    simp [arrayCount, cls, array]
  | some a =>
    have size : (CodeCompleteResults.size h).exec side w =
        (.ok ((lookup a w.completions).getD []).length, w) := by
      rw [CodeCompleteResults.size, Binding.exec_bind_ok now, array]
      rfl
    refine ⟨_, Binding.exec_bind_ok size, fun cls => ?_⟩
    have count : arrayCount w h = ((lookup a w.completions).getD []).length := by
      simp [arrayCount, cls, array]
    rw [count, List.forall₂_map_right_iff]
    exact List.forall₂_same.mpr fun i _ => .result cls array

theorem exec_elements_of_results {xs : List Value} (cls : h.cls = .codeCompleteResults)
    (listed : (CodeCompleteResults.results h).exec side w = (.ok xs, w)) :
    (Value.handle h).elements.exec side w = (.ok xs, w) := by
  have sequence : h.cls.isSequence = true := by rw [cls]; rfl
  have size : h.size.exec side w = (.ok (arrayCount w h), w) := by
    simp only [Handle.size, cls, arrayCount]
    rfl
  have supplied : (Value.handle h).supply.exec side w = (.ok (.items xs), w) := by
    simp only [Value.supply, cls]
    exact Binding.exec_bind_ok listed
  apply exec_elements_of_fold supplied (exec_hintSize sequence size)
  rw [Supply.fold, foldItems_gather]
  rfl

theorem lists_results (cls : h.cls = .codeCompleteResults) (side : Side) (w : World) :
    Lists side w h (List.range (arrayCount w h)) (fun _ => false) (CodeCompleteResults.results h) ∧
    Lists side w h (List.range (arrayCount w h)) (fun _ => false) (Value.handle h).elements := by
  obtain ⟨xs, results, elements⟩ := exec_results h side w
  have done := exec_elements_of_results cls results
  exact ⟨lists_of_ok (.refl w) results (elements cls), lists_of_ok (.refl w) done (elements cls)⟩

def listings (h : Handle) : List (Binding (List Value)) :=
  (Value.handle h).elements ::
    match h.cls with
    | .codeCompleteResults => [CodeCompleteResults.results h]
    | .completionString => [CompletionString.chunks h]
    | .compileCommands => [CompileCommands.commands h]
    | _ => []

theorem commands_eq_elements (cls : h.cls = .compileCommands) :
    CompileCommands.commands h = (Value.handle h).elements := by
  rw [elements_of_array (.inr (.inr cls)), CompileCommands.commands]
  simp only [size, item, cls]

theorem lists_of_mem_listings (live : w.isDisposed h = false) (steady : Steady side w h n null)
    {m : Binding (List Value)} (mem : m ∈ h.listings) : Lists side w h (List.range n) null m := by
  have inOrder (array : h.cls = .tokens ∨ h.cls = .overriddenCursors ∨ h.cls = .compileCommands) :
      Lists side w h (List.range n) null (Value.handle h).elements := by
    rw [elements_of_array array]
    exact lists_sized live steady fun _ live steady => lists_items live steady
  have ofCommands (cls : h.cls = .compileCommands) : m = (Value.handle h).elements := by
    simp only [listings, cls, List.mem_cons, List.not_mem_nil, or_false,
      commands_eq_elements cls, or_self] at mem
    exact mem
  cases steady with
  | noCommands cls empty => exact ofCommands cls ▸ inOrder (.inr (.inr cls))
  | commands cls given size nulls => exact ofCommands cls ▸ inOrder (.inr (.inr cls))
  | chunks cls size =>
    have steady : Steady side w h n fun _ => false := .chunks cls size
    simp only [listings, cls, List.mem_cons, List.not_mem_nil, or_false] at mem
    obtain rfl | rfl := mem
    · exact lists_chunks_elements cls live steady
    · exact lists_chunks cls live steady
  | array cls =>
    rcases cls with cls | cls | cls
    · simp only [listings, cls, List.mem_singleton] at mem
      exact mem ▸ inOrder (.inl cls)
    · simp only [listings, cls, List.mem_singleton] at mem
      exact mem ▸ inOrder (.inr (.inl cls))
    · obtain ⟨results, elements⟩ := lists_results cls side w
      simp only [listings, cls, List.mem_cons, List.not_mem_nil, or_false] at mem
      obtain rfl | rfl := mem
      · exact elements
      · exact results

/-- Length, indices and order of a sequence agree. Only an index in range is passed on, and then as
it is. -/
structure Agrees (side : Side) (w : World) (h : Handle) (n : Nat) (null : Nat → Bool) : Prop where
  size : ∃ v, h.size.exec side w = (.ok n, v) ∧ w.Grows (fun _ => False) v
  beyond : ∀ i : Int, i < 0 ∨ n ≤ i →
    ∃ v, (h.item (.int i)).exec side w = (.error (.outOfRange i), v) ∧ w.Grows (fun _ => False) v
  item : ∀ i < n, Gives side w h i (null i) (h.item (.int i))
  refuses_iff : ∀ i : Int, ((h.item (.int i)).exec side w).1 = .error (.outOfRange i) ↔
    i < 0 ∨ n ≤ i ∨ null i.toNat = true
  lists : ∀ m ∈ h.listings, Lists side w h (List.range n) null m

theorem exec_item_outside (live : w.isDisposed h = false) (steady : Steady side w h n null)
    {i : Int} (outside : i < 0 ∨ n ≤ i) :
    ∃ v, (h.item (.int i)).exec side w = (.error (.outOfRange i), v) ∧
      w.Grows (fun _ => False) v := by
  by_cases negative : i < 0
  · exact ⟨w, exec_item_negative steady.isSequence negative side w, .refl w⟩
  · obtain ⟨v, size, grows⟩ := exec_size live steady
    exact ⟨v, exec_item_beyond steady.isSequence (Int.not_lt.mp negative) size (by omega), grows⟩

theorem agrees_of_steady (live : w.isDisposed h = false) (steady : Steady side w h n null) :
    h.Agrees side w n null where
  size := exec_size live steady
  beyond _ := exec_item_outside live steady
  item _ := gives_item live steady
  lists _ := lists_of_mem_listings live steady
  refuses_iff i := by
    by_cases outside : i < 0 ∨ n ≤ i
    · obtain ⟨v, refused, -⟩ := exec_item_outside live steady outside
      rw [refused]
      exact iff_of_true rfl (by omega)
    · obtain ⟨k, rfl⟩ := Int.eq_ofNat_of_zero_le (show 0 ≤ i by omega)
      obtain ⟨v, -, ends⟩ := gives_item live steady (show k < n by omega)
      rw [Int.toNat_natCast]
      cases here : null k with
      | true =>
        rw [here, if_pos rfl] at ends
        exact iff_of_true (by rw [ends]) (.inr (.inr rfl))
      | false =>
        rw [here, if_neg Bool.false_ne_true] at ends
        obtain ⟨x, given, -⟩ := ends
        exact iff_of_false (by simp [given]) (by simpa using outside)

/-- The length of an array as the native side answered it: a null one is empty, whatever count comes
with it. -/
def answeredCount (a : Answer) : Nat :=
  if a.array.isSome then (Number.Width.uint32.wrap (a.count.getD 0)).toNat else 0

/-- A new array that the native side answered a call with: it is as long as the answer says, and
what it shows are the symbols that stand there, zero where the native side wrote none. -/
def IsAnswered (side : Side) (f : Function) (shows : Symbol → Value) (w v : World) (h : Handle) :
    Prop :=
  ∃ c, c.function = f ∧ v.calls = c :: w.calls ∧ v.isDisposed h = false ∧
    let a := side.answer w.calls c
    let n := answeredCount a
    let shown (i : Nat) := shows (a.items.getD i zeroSymbol)
    Steady side v h n (fun _ => false) ∧
      (∀ i < n, ((h.item (.int i)).exec side v).1 = .ok (shown i)) ∧
      ((Value.handle h).elements.exec side v).1 = .ok ((List.range n).map shown)

theorem reads_elements {shown : Nat → Value} (live : w.isDisposed h = false)
    (steady : Steady side w h n fun _ => false)
    (only : ∀ {allowed v}, w.Grows allowed v → ∀ {i x}, Element side v h i x → x = shown i) :
    (∀ i < n, ((h.item (.int i)).exec side w).1 = .ok (shown i)) ∧
      ((Value.handle h).elements.exec side w).1 = .ok ((List.range n).map shown) := by
  constructor
  · intro i lt
    obtain ⟨v, grows, x, given, element⟩ := gives_item live steady lt
    rw [given, only grows element]
  · obtain ⟨v, grows, ends⟩ := lists_of_mem_listings live steady (List.mem_cons_self (l := _))
    rw [List.find?_eq_none.mpr (by simp)] at ends
    obtain ⟨xs, given, elements⟩ := ends
    have same : (List.range n).map shown = xs := by
      rw [← List.forall₂_eq_eq_eq, List.forall₂_map_left_iff]
      exact elements.imp fun _ _ element => (only grows element).symm
    rw [given, same]

theorem exec_invoke_ok {f : Function} {actuals : List Actual} {keeps : f.releases = false}
    {c : Call} {a : Answer} (e : (f.invoke actuals keeps).exec side w = (.ok (c, a), v)) :
    c.function = f ∧ a = side.answer w.calls c ∧ v.calls = c :: w.calls := by
  obtain ⟨x, refused⟩ | ⟨d, made, function, -⟩ := f.perform_cases none actuals side w
  · cases refused.symm.trans e
  · cases made.symm.trans e
    exact ⟨function, rfl, rfl⟩

theorem isAnswered_of_elements {shows : Symbol → Value} {c : Call} {count : Nat}
    (function : c.function = f) (calls : v.calls = c :: w.calls) (live : v.isDisposed h = false)
    (steady : Steady side v h (answeredCount (side.answer w.calls c)) fun _ => false)
    (long : answeredCount (side.answer w.calls c) ≤ count)
    (only : ∀ {allowed u}, v.Grows allowed u → ∀ {i x}, Element side u h i x →
      x = shows ((padded count (side.answer w.calls c).items).getD i zeroSymbol)) :
    IsAnswered side f shows w v h := by
  obtain ⟨items, elements⟩ := reads_elements live steady only
  refine ⟨c, function, calls, live, steady, fun i lt => ?_, ?_⟩
  · rw [items i lt, getD_padded (Nat.lt_of_lt_of_le lt long)]
  · rw [elements]
    refine congrArg _ (List.map_congr_left fun i mem => ?_)
    rw [getD_padded (Nat.lt_of_lt_of_le (List.mem_range.mp mem) long)]

theorem isDisposed_of_push {state : HandleState} (handles : v.handles = u.handles.push state)
    (held : state.held ≠ none) : v.isDisposed ⟨state.cls, u.handles.size⟩ = false := by
  rw [World.isDisposed, World.held?, World.handle?_of_push handles]
  simpa [Option.isNone_eq_false_iff, Option.isSome_iff_ne_none] using held

theorem isAnswered_tokens {unit : Handle} {extent : Value}
    (e : (Tokens.ofExtent unit extent).exec side w = (.ok h, v)) :
    IsAnswered side .tokenize (fun s => .token ⟨s, some ⟨.translationUnit, unit.id⟩⟩) w v h := by
  obtain ⟨⟨c, a⟩, u, invoked, e⟩ := Binding.exec_bind_cases e
  obtain ⟨function, rfl, calls⟩ := exec_invoke_ok invoked
  let a := side.answer w.calls c
  let state : HandleState := ⟨.tokens, some (.handle a.array),
    .tokens unit.id (answeredCount a) (padded (answeredCount a) a.items), none, rfl⟩
  let v' : World := { u with handles := u.handles.push state }
  have handles : v'.handles = u.handles.push state := rfl
  obtain ⟨rfl, rfl⟩ : h = ⟨state.cls, u.handles.size⟩ ∧ v = v' := by
    cases e
    exact ⟨rfl, rfl⟩
  have live := isDisposed_of_push handles (Option.some_ne_none _)
  have contents : Tokens.contents v' ⟨state.cls, u.handles.size⟩ =
      some (⟨.translationUnit, unit.id⟩, answeredCount a, padded (answeredCount a) a.items) := by
    rw [Tokens.contents, World.role_of_push handles]
  have count : arrayCount v' ⟨state.cls, u.handles.size⟩ = answeredCount a := by
    rw [arrayCount, contents]
    rfl
  have steady := count ▸ (Steady.array (.inl rfl) : Steady side v' _ _ _)
  exact isAnswered_of_elements function calls live steady (Nat.le_refl _)
    fun grows _ _ element => element.eq_token rfl ((contents_grows live grows).1.trans contents)

theorem isAnswered_overridden {c : Cursor} (e : c.overriddenCursors.exec side w = (.ok h, v)) :
    IsAnswered side .getOverriddenCursors (fun s => .cursor ⟨s, c.unit⟩) w v h := by
  obtain ⟨⟨c', a⟩, u, invoked, e⟩ := Binding.exec_bind_cases e
  obtain ⟨function, rfl, calls⟩ := exec_invoke_ok invoked
  let a := side.answer w.calls c'
  let written := (Number.Width.uint32.wrap (a.count.getD 0)).toNat
  let state : HandleState := ⟨.overriddenCursors, some (.handle a.array),
    .overridden c.unit (answeredCount a) (padded written a.items), none, rfl⟩
  let v' : World := { u with handles := u.handles.push state }
  have handles : v'.handles = u.handles.push state := rfl
  obtain ⟨rfl, rfl⟩ : h = ⟨state.cls, u.handles.size⟩ ∧ v = v' := by
    cases e
    exact ⟨rfl, rfl⟩
  have live := isDisposed_of_push handles (Option.some_ne_none _)
  have contents : OverriddenCursors.contents v' ⟨state.cls, u.handles.size⟩ =
      (c.unit, answeredCount a, padded written a.items) := by
    rw [OverriddenCursors.contents, World.role_of_push handles]
  have count : arrayCount v' ⟨state.cls, u.handles.size⟩ = answeredCount a :=
    congrArg (·.2.1) contents
  have steady := count ▸ (Steady.array (.inr (.inl rfl)) : Steady side v' _ _ _)
  have long : answeredCount a ≤ written := by
    unfold answeredCount
    split <;> omega
  exact isAnswered_of_elements function calls live steady long fun grows _ _ element =>
    element.eq_cursor rfl ((contents_grows live grows).2.1.trans contents)

/-- Length, indices and order of a live sequence agree, for as long as the native side keeps to its
counts. A null command in range is refused like an index out of range, and so is going through the
commands. Arrays keep their counts by themselves, and a null one is empty. -/
theorem sequences_agree :
    (∀ (side : Side) (w : World) (h : Handle) (n : Nat) (null : Nat → Bool),
      w.isDisposed h = false → Steady side w h n null → h.Agrees side w n null) ∧
    (∀ (side : Side) (w v : World) (unit : Handle) (extent : Value) (h : Handle),
      (Tokens.ofExtent unit extent).exec side w = (.ok h, v) →
      IsAnswered side .tokenize (fun s => .token ⟨s, some ⟨.translationUnit, unit.id⟩⟩) w v h) ∧
    ∀ (side : Side) (w v : World) (c : Cursor) (h : Handle),
      c.overriddenCursors.exec side w = (.ok h, v) →
      IsAnswered side .getOverriddenCursors (fun s => .cursor ⟨s, c.unit⟩) w v h :=
  ⟨fun _ _ _ _ _ => agrees_of_steady, fun _ _ _ _ _ _ => isAnswered_tokens,
    fun _ _ _ _ _ => isAnswered_overridden⟩

def threeCommands : Side where
  answer _ c := match c.function, c.arguments with
    | .compileCommandsGetSize, _ => { result := .int 3 }
    | .compileCommandsGetCommand, [_, .int i] =>
      { result := .handle (if i = 1 then none else some "command") }
    | .getOverriddenCursors, _ => { array := some "array", count := some 2, items := ["first"] }
    | _, _ => {}

def commandsHeld : World where
  handles := #[⟨.compileCommands, some (.handle (some "commands")), .commands .none, none, rfl⟩]

def overriddenRead : World := ((Cursor.overriddenCursors ⟨"c", none⟩).exec threeCommands {}).2

theorem sequences_agree_null_command :
    Gives threeCommands commandsHeld ⟨.compileCommands, 0⟩ 2 false
        ((Handle.mk .compileCommands 0).item (.int 2)) ∧
      ((Value.handle ⟨.compileCommands, 0⟩).elements.exec threeCommands commandsHeld).1 =
        .error (.outOfRange 1) ∧
      ((Value.handle ⟨.overriddenCursors, 0⟩).elements.exec threeCommands overriddenRead).1 =
        .ok [.cursor ⟨"first", none⟩, .cursor ⟨zeroSymbol, none⟩] := by
  have steady : Steady threeCommands commandsHeld ⟨.compileCommands, 0⟩ 3 (· == 1) := by
    refine .commands rfl rfl (fun _ => rfl) fun made i lt => ?_
    obtain rfl | rfl | rfl : i = 0 ∨ i = 1 ∨ i = 2 := by omega
    · rfl
    · rfl
    · rfl
  have agrees := sequences_agree.1 threeCommands commandsHeld ⟨.compileCommands, 0⟩ 3 (· == 1)
    rfl steady
  refine ⟨agrees.item 2 (by decide), ?_, ?_⟩
  · obtain ⟨v, -, ends⟩ := agrees.lists (Value.handle ⟨.compileCommands, 0⟩).elements
      List.mem_cons_self
    exact congrArg Prod.fst ends
  · obtain ⟨c, function, -, -, -, -, elements⟩ :=
      sequences_agree.2.2 threeCommands {} overriddenRead ⟨"c", none⟩ ⟨.overriddenCursors, 0⟩ rfl
    rw [elements]
    simp only [threeCommands, function]
    rfl

end Handle

end ClangIndex
