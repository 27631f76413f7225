import ClangIndex.Binding.Attribute

namespace ClangIndex.Interface

open Native (Function)
open Attribute

def required (name : String) : Parameter := ⟨name, none⟩

def optional (name : String) (v : Value := .none) : Parameter := ⟨name, some v⟩

def tryHash (v : Value) : Binding Unit := do
  match ← Binding.attempt v.ensureHashable with
  | .error (.plain .type) | .ok () => pure ()
  | .error f => throw f

def memberOf (e : Enumeration) (v : Value) : Binding Member := do
  match v with
  | .member m => if m.kind = e then return m
  | _ => pure ()
  tryHash v
  let found : Option Member := match v.numeric? with
    | some (.inl n) => e.ofNumber? n
    | some (.inr x) => (e.members.find? fun m => x.isInteger m.2).map fun m => ⟨e, m.2⟩
    | none => none
  match found with
  | some m => return m
  | none => throw (.notMember (← v.repr) e.name)

def maskOfInt (f : FlagSet) (n : Int) : Nat :=
  if 0 ≤ n then n.toNat
  else
    let known := f.members.foldl (fun a m => a ||| m.2) 0
    let all := Nat.pow 2 (if known = 0 then 0 else Nat.log2 known + 1) - 1
    let low := (n % ((all + 1 : Nat) : Int)).toNat
    if n < -(all + 1 : Int) ∨ low &&& (all ^^^ known) ≠ 0 then
      let length := Nat.log2 n.natAbs + 1
      (max (all + 1 : Int) (Nat.pow 2 length) + n).toNat
    else low

/-- The mask that a value is equal to; a fraction must be one that has a name. -/
def maskOf (f : FlagSet) (v : Value) : Except Failure Nat :=
  match v.numeric? with
  | some (.inl n) => .ok (maskOfInt f n)
  | some (.inr x) =>
    match f.members.find? fun m => x.isInteger m.2 with
    | some m => .ok m.2
    | none => .error unnamed
  | none => .error unnamed
where
  unnamed : Failure := (v.literal?.map (.notMember · f.name)).getD Failure.valueError

def allKinds : List Value :=
  Enumeration.cursorKind.register.listing.map fun e => .member ⟨.cursorKind, e.number⟩

def kindTests (m : Member) : List (String × Attribute) := [
    ("is_declaration", asksWith [] .isDeclaration (.member m)),
    ("is_reference", asksWith [] .isReference (.member m)),
    ("is_expression", asksWith [] .isExpression (.member m)),
    ("is_statement", asksWith [] .isStatement (.member m)),
    ("is_attribute", asksWith [] .isAttribute (.member m)),
    ("is_invalid", asksWith [] .isInvalid (.member m)),
    ("is_translation_unit", asksWith [] .isTranslationUnit (.member m)),
    ("is_preprocessing", asksWith [] .isPreprocessing (.member m)),
    ("is_unexposed", asksWith [] .isUnexposed (.member m)),
    ("spelling", asks .getCursorKindSpelling (.member m)),
    ("get_all_kinds", .function "get_all_kinds" ⟨[], pure (.list allKinds)⟩)]

def ofMember (m : Member) : List (String × Attribute) :=
  let spelling := match m.kind, m.spelling? with
    | .cursorKind, _ => kindTests m
    | .typeKind, _ => [("spelling", asks .getTypeKindSpelling (.int m.number))]
    | _, some s => [("spelling", constant (.text s))]
    | _, none => []
  spelling ++ [
    ("name", constant (.text m.name)),
    ("value", constant (.int m.number)),
    ("from_id", method1 (required "id") fun v => do return .member (← memberOf m.kind v)),
    ("from_param", method0 (pure (.int m.number)))]

def ofFlags (f : FlagSet) (n : Nat) : List (String × Attribute) := [
    ("name", constant (((f.nameOf? n).map Value.text).getD .none)),
    ("value", constant (.int n)),
    ("from_param", method0 (pure (.int n)))]

def intField (read : Binding Int) (write : Int → Binding Unit) : Attribute :=
  .field (Value.int <$> read) fun x =>
    match x.number? with
    | some n => write (Number.Width.int32.wrap n)
    | none => throw Failure.typeError

def changeVersion (cell : Nat) (f : Version → Version) : Binding Unit :=
  .update fun w => { w with versions := w.versions.modify cell f }

def ofVersion (cell : Nat) : List (String × Attribute) :=
  let part (f : Version → Int) : Binding Int := return f ((← World.now).version cell)
  [ ("major", reads (part (·.major)) .int),
    ("minor", reads (part (·.minor)) .int),
    ("subminor", reads (part (·.subminor)) .int),
    ("Major", intField (part (·.major)) fun n => changeVersion cell ({ · with major := n })),
    ("Minor", intField (part (·.minor)) fun n => changeVersion cell ({ · with minor := n })),
    ("Subminor",
      intField (part (·.subminor)) fun n => changeVersion cell ({ · with subminor := n }))]

def versionField (cell : Binding Nat) : Attribute :=
  .field (Value.version <$> cell) fun x =>
    match x with
    | .object (.version other) _ => do
      let v := (← World.now).version other
      changeVersion (← cell) fun _ => v
    | _ => throw Failure.typeError

def stringField (id : Nat) (field : EntryString) : Attribute :=
  .field (pure (.object (.foreignString id field))) fun x =>
    match x with
    | .object (.foreignString other source) _ => Platform.exchange id field other source
    | _ => throw Failure.typeError

def ofForeignString (id : Nat) (field : EntryString) : List (String × Attribute) := [
    ("consume", method0 (Value.text <$> Platform.consume id field)),
    ("from_result", .function "CXString.from_result"
      ⟨[required "result", optional "fn", optional "args"], fun result _ _ =>
        match result with
        | .object (.foreignString other source) _ => Value.text <$> Platform.consume other source
        | _ => throw (.plain .assertion)⟩)]

def ofPlatform (id : Nat) : List (String × Attribute) :=
  let cell (f : PlatformState → Nat) : Binding Nat := f <$> Platform.state id
  [ ("disposed", reads World.now fun w => .bool (Platform.isDisposed w id)),
    ("platform", reads (Platform.platform id) .text),
    ("introduced", reads (cell (·.introduced)) .version),
    ("deprecated", reads (cell (·.deprecated)) .version),
    ("obsoleted", reads (cell (·.obsoleted)) .version),
    ("unavailable", reads (Platform.state id) fun p => .bool (p.unavailable != 0)),
    ("message", reads (Platform.message id) .text),
    ("Platform", stringField id .platform),
    ("Introduced", versionField (cell (·.introduced))),
    ("Deprecated", versionField (cell (·.deprecated))),
    ("Obsoleted", versionField (cell (·.obsoleted))),
    ("Unavailable", intField (return Number.Width.int32.wrap (← Platform.state id).unavailable)
      fun n => Platform.change id ({ · with unavailable := n })),
    ("Message", stringField id .message),
    ("dispose", method0 (done (Platform.dispose id)))]

def ofAvailability (id : Nat) : List (String × Attribute) :=
  let field (read : AvailabilityState → Value)
      (write : Value → AvailabilityState → AvailabilityState)
      (h : ∀ x a, (write x a).listing = a.listing := by exact fun _ _ => rfl) : Attribute :=
    .field (read <$> Availability.state id) fun x => Availability.change id (write x) (h x)
  [ ("always_deprecated", field (·.alwaysDeprecated) fun x a => { a with alwaysDeprecated := x }),
    ("deprecated_message",
      field (·.deprecatedMessage) fun x a => { a with deprecatedMessage := x }),
    ("always_unavailable",
      field (·.alwaysUnavailable) fun x a => { a with alwaysUnavailable := x }),
    ("unavailable_message",
      field (·.unavailableMessage) fun x a => { a with unavailableMessage := x }),
    ("platforms", .field ((·.platforms) <$> Availability.state id) (Availability.replace id)),
    ("dispose", method0 (done (Value.availability id).dispose))]

def ofFilePosition (f : Option Handle) (l c o : Int) : List (String × Attribute) := [
    ("file", constant ((f.map Value.handle).getD .none)),
    ("line", constant (.int l)),
    ("column", constant (.int c)),
    ("offset", constant (.int o))]

def ofPresumedPosition (f : String) (l c : Int) : List (String × Attribute) := [
    ("filename", constant (.text f)), ("line", constant (.int l)), ("column", constant (.int c))]

def ofFixIt (v : String) (r : Value) : List (String × Attribute) := [
    ("value", constant (.text v)), ("range", constant r)]

def ofUniqueId (a b c : Nat) : List (String × Attribute) := [
    ("data", constant (.tuple [.int a, .int b, .int c]))]

end ClangIndex.Interface
