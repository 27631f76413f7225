import ClangIndex.Binding.Visit
import ClangIndex.Interface.Kinds

namespace ClangIndex.Interface

open Native (Function)
open Attribute

def uncallable : Visitor α := fun _ _ => throw Failure.typeError

/-- The unit that a value remembers, or is; arrays of a unit remember it too. -/
def unitOf (w : World) : Value → Option Handle
  | .handle h => if h.cls = .translationUnit then some h else (w.role h).unit?
  | v => v.unit?

def unitAmong (arguments : Value) : Binding (Option Handle) := do
  if ← arguments.holds then
    let s ← arguments.supply
    s.fold
      (fun _ x => return match unitOf (← World.now) x with
        | some unit => .enough (some unit)
        | none => .more none)
      none
  else return none

def become (o : Object) (id : Identity) : Binding Value := do
  match id with
  | .kept n => Binding.update (·.recast n o) (·.accounts_recast n o)
  | _ => pure ()
  return .object o id

def ofResult (name : String) (f : Value → Value → Binding Value) : String × Attribute :=
  ("from_result", .function name
    ⟨[required "res", optional "fn", optional "args"], fun result _ arguments =>
      f result arguments⟩)

def cursorOfResult (result arguments : Value) : Binding Value := do
  match result with
  | .object (.cursor c) id => become (.cursor { c with unit := ← unitAmong arguments }) id
  | _ => throw (.plain .assertion)

def typeOfResult (result arguments : Value) : Binding Value := do
  match result with
  | .object (.type t) id => become (.type { t with unit := ← unitAmong arguments }) id
  | _ => throw (.plain .assertion)

def ofCursor (self : Value) (c : Cursor) : List (String × Attribute) :=
  [ ("kind", reads c.kind .member),
    ("spelling", asks .getCursorSpelling self),
    ("display_name", asks .getCursorDisplayName self),
    ("usr", asks .getCursorUSR self),
    ("linkage", asks .getCursorLinkage self (.member .linkageKind)),
    ("availability", asks .getCursorAvailability self (.member .availabilityKind)),
    ("language", asks .getCursorLanguage self (.member .languageKind)),
    ("translation_unit", .property c.translationUnit),
    ("objc_type_encoding", asks .getDeclObjCTypeEncoding self),
    ("semantic_parent", asks .getCursorSemanticParent self),
    ("lexical_parent", asks .getCursorLexicalParent self),
    ("included_file", asks .getIncludedFile self),
    ("location", asks .getCursorLocation self),
    ("extent", asks .getCursorExtent self),
    ("type", asks .getCursorType self),
    ("typedef_decl_underlying_type", asks .getTypedefDeclUnderlyingType self),
    ("enum_decl_integer_type", asks .getEnumDeclIntegerType self),
    ("enum_constant_decl_value", asks .getEnumConstantDeclValue self),
    ("enum_constant_decl_unsigned_value", asks .getEnumConstantDeclUnsignedValue self),
    ("field_decl_bit_width", asks .getFieldDeclBitWidth self),
    ("num_arguments", asks .cursorGetNumArguments self),
    ("result_type", asks .getCursorResultType self),
    ("is_bit_field", asks .cursorIsBitField self .truth),
    ("is_virtual_base", asks .isVirtualBase self .truth),
    ("access_specifier", asks .getCXXAccessSpecifier self (.member .accessSpecifier)),
    ("num_overloaded_decls", asks .getNumOverloadedDecls self),
    ("ib_outlet_collection_type", asks .getIBOutletCollectionType self),
    ("referenced", asks .getCursorReferenced self),
    ("definition", asks .getCursorDefinition self),
    ("canonical", asks .getCanonicalCursor self),
    ("is_dynamic_call", asks .cursorIsDynamicCall self .truth),
    ("receiver_type", asks .cursorGetReceiverType self),
    ("is_variadic", asks .cursorIsVariadic self .truth),
    ("comment_range", asks .cursorGetCommentRange self),
    ("raw_comment_text", asks .cursorGetRawCommentText self),
    ("brief_comment_text", asks .cursorGetBriefCommentText self),
    ("parsed_comment", asks .cursorGetParsedComment self),
    ("module", asks .cursorGetModule self),
    ("template_cursor_kind", asks .getTemplateCursorKind self (.member .cursorKind)),
    ("specialized_cursor_template", asks .getSpecializedCursorTemplate self),
    ("completion_string", asks .getCursorCompletionString self),
    ("null", .function "Cursor.null" ⟨[], Function.getNullCursor.ask []⟩),
    ofResult "Cursor.from_result" cursorOfResult,
    ("is_null", asksWith [] .cursorIsNull self .truth),
    ("platform_availability", method0 (Value.availability <$> c.platformAvailability)),
    ("overridden_cursors", method0 (Value.handle <$> c.overriddenCursors)),
    ("argument", asksWith ["i"] .cursorGetArgument self),
    ("get_arguments", method0 c.arguments),
    ("overloaded_decl", asksWith ["i"] .getOverloadedDecl self),
    ("visit", method1 (required "visitor") fun _ => Value.bool <$> c.visit uncallable),
    ("get_children", method0 do return .list ((← c.children).map .cursor)),
    ("walk_preorder", method0 do return .list (self :: ((← c.walk).drop 1).map .cursor)),
    ("is_definition", asksWith [] .isCursorDefinition self .truth),
    ("cxx_method_is_pure_virtual", asksWith [] .cxxMethodIsPureVirtual self .truth),
    ("cxx_method_is_static", asksWith [] .cxxMethodIsStatic self .truth),
    ("cxx_method_is_virtual", asksWith [] .cxxMethodIsVirtual self .truth),
    ("reference_name_range",
      method2 (optional "flags" (.int 0)) (optional "piece" (.int 0)) c.referenceNameRange),
    ("offset_of_field", method0 (Layout.offsetOfField c)),
    ("find_references_in_file", method2 (required "file") (required "visitor") fun file _ =>
      Value.member <$> c.findReferences file uncallable)]

def ofType (t : TypeRef) : List (String × Attribute) :=
  let self := Value.type t
  [ ("kind", reads t.kind .member),
    ("translation_unit", constant ((t.unit.map Value.handle).getD .none)),
    ofResult "Type.from_result" typeOfResult,
    ("spelling", asks .getTypeSpelling self),
    ("canonical_type", asks .getCanonicalType self),
    ("is_const_qualified", asks .isConstQualifiedType self .truth),
    ("is_volatile_qualified", asks .isVolatileQualifiedType self .truth),
    ("is_restrict_qualified", asks .isRestrictQualifiedType self .truth),
    ("pointee_type", asks .getPointeeType self),
    ("declaration", asks .getTypeDeclaration self),
    ("result_type", asks .getResultType self),
    ("is_pod", asks .isPODType self .truth),
    ("array_element_type", asks .getArrayElementType self),
    ("array_size", asks .getArraySize self),
    ("calling_conv", asks .getFunctionTypeCallingConv self (.member .callingConv)),
    ("num_arg_types", asks .getNumArgTypes self),
    ("arg_type", asksWith ["i"] .getArgType self),
    ("argument_types", method0 t.argumentTypes),
    ("is_function_variadic", asks .isFunctionTypeVariadic self .truth),
    ("ref_qualifier", asks .typeGetCXXRefQualifier self (.member .refQualifierKind)),
    ("size_of", method0 (Layout.sizeOf t)),
    ("align_of", method0 (Layout.alignOf t)),
    ("offset_of", method1 (required "field") (Layout.offsetOf t)),
    ("is_valid", method0 (Value.bool <$> t.isValid))]

def ofToken (t : Token) : List (String × Attribute) := [
    ("kind", reads t.kind .member),
    ("spelling", .property t.spelling),
    ("location", .property (t.withUnit .getTokenLocation)),
    ("extent", .property (t.withUnit .getTokenExtent))]

def ofComment (s : Symbol) : List (String × Attribute) :=
  let self := Value.comment s
  [ ("kind", reads (Comment.kind s) .member),
    ("is_null", method0 (Value.bool <$> Comment.isNull s)),
    ("num_children", asks .commentGetNumChildren self),
    ("child", asksWith ["i"] .commentGetChild self),
    ("children", .property (Comment.children s)),
    ("text", asks .textCommentGetText self)]

def ofLocation (s : Symbol) : List (String × Attribute) :=
  let self := Value.location s
  let position (f : Function) (keeps : f.releases = false := by exact Eq.refl false) : Attribute :=
    reads (Location.decompose f s) Position.toValue
  let part (f : Position → Value) : Attribute := reads (Location.expansion s) f
  [ ("null", .function "SourceLocation.null" ⟨[], Value.location <$> Location.null⟩),
    ("is_null", method0 (Value.bool <$> Location.isNull s)),
    ("is_in_system_header", asks .locationIsInSystemHeader self .truth),
    ("is_from_main_file", asks .locationIsFromMainFile self .truth),
    ("expansion_location", position .getExpansionLocation),
    ("instantiation_location", position .getInstantiationLocation),
    ("spelling_location", position .getSpellingLocation),
    ("file_location", position .getFileLocation),
    ("presumed_location", .property (Location.presumed s)),
    ("file", part fun p => (p.file.map Value.handle).getD .none),
    ("line", part fun p => .int p.line),
    ("column", part fun p => .int p.column),
    ("offset", part fun p => .int p.offset)]

def ofRange (s : Symbol) : List (String × Attribute) :=
  let self := Value.range s
  [ ("null", .function "SourceRange.null" ⟨[], Value.range <$> Range.null⟩),
    ("from_locations",
      .function "SourceRange.from_locations" ⟨[required "start", required "end"], Range.between⟩),
    ("is_null", asksWith [] .rangeIsNull self .truth),
    ("start", asks .getRangeStart self),
    ("end", asks .getRangeEnd self)]

end ClangIndex.Interface
