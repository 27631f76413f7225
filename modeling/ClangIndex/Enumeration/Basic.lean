import ClangIndex.Number.Integer

namespace ClangIndex

inductive Enumeration
  | childVisitResult
  | availabilityKind
  | callingConv
  | linkageKind
  | languageKind
  | accessSpecifier
  | refQualifierKind
  | result
  | typeLayoutErrorKind
  | tokenKind
  | diagnosticSeverity
  | saveError
  | completionChunkKind
  | commentKind
  | compilationDatabaseErrorCode
  | cursorKind
  | typeKind
  deriving DecidableEq, Repr, Inhabited

namespace Enumeration

def all : List Enumeration := [
    .childVisitResult,
    .availabilityKind,
    .callingConv,
    .linkageKind,
    .languageKind,
    .accessSpecifier,
    .refQualifierKind,
    .result,
    .typeLayoutErrorKind,
    .tokenKind,
    .diagnosticSeverity,
    .saveError,
    .completionChunkKind,
    .commentKind,
    .compilationDatabaseErrorCode,
    .cursorKind,
    .typeKind]

def name : Enumeration → String
  | .childVisitResult => "ChildVisitResult"
  | .availabilityKind => "AvailabilityKind"
  | .callingConv => "CallingConv"
  | .linkageKind => "LinkageKind"
  | .languageKind => "LanguageKind"
  | .accessSpecifier => "AccessSpecifier"
  | .refQualifierKind => "RefQualifierKind"
  | .result => "Result"
  | .typeLayoutErrorKind => "TypeLayoutErrorKind"
  | .tokenKind => "TokenKind"
  | .diagnosticSeverity => "DiagnosticSeverity"
  | .saveError => "SaveError"
  | .completionChunkKind => "CompletionChunkKind"
  | .commentKind => "CommentKind"
  | .compilationDatabaseErrorCode => "CompilationDatabaseErrorCode"
  | .cursorKind => "CursorKind"
  | .typeKind => "TypeKind"

def childVisitResultMembers : List (String × Int) := [
    ("BREAK", 0), ("CONTINUE", 1), ("RECURSE", 2)]

def availabilityKindMembers : List (String × Int) := [
    ("AVAILABLE", 0), ("DEPRECATED", 1), ("NOT_AVAILABLE", 2), ("NOT_ACCESSIBLE", 3)]

def callingConvMembers : List (String × Int) := [
    ("DEFAULT", 0), ("C", 1), ("X86_STDCALL", 2), ("X86_FASTCALL", 3), ("X86_THISCALL", 4),
    ("X86_PASCAL", 5), ("AAPCS", 6), ("AAPCS_VFP", 7), ("X86_REGCALL", 8), ("INTEL_OCL_BICC", 9),
    ("WIN64", 10), ("X86_64_SYSV", 11), ("X86_VECTORCALL", 12), ("SWIFT", 13),
    ("PRESERVE_MOST", 14), ("PRESERVE_ALL", 15), ("AARCH64_VECTORCALL", 16), ("SWIFT_ASYNC", 17),
    ("AARCH64_SVE_PCS", 18), ("M68K_RTD", 19), ("INVALID", 100), ("UNEXPOSED", 200),
    ("X86_64_WIN64", 10)]

def linkageKindMembers : List (String × Int) := [
    ("INVALID", 0), ("NO_LINKAGE", 1), ("INTERNAL", 2), ("UNIQUE_EXTERNAL", 3), ("EXTERNAL", 4)]

def languageKindMembers : List (String × Int) := [
    ("INVALID", 0), ("C", 1), ("OBJ_C", 2), ("C_PLUS_PLUS", 3)]

def accessSpecifierMembers : List (String × Int) := [
    ("INVALID", 0), ("PUBLIC", 1), ("PROTECTED", 2), ("PRIVATE", 3)]

def refQualifierKindMembers : List (String × Int) := [
    ("NONE", 0), ("LVALUE", 1), ("RVALUE", 2)]

def resultMembers : List (String × Int) := [
    ("SUCCESS", 0), ("INVALID", 1), ("VISIT_BREAK", 2)]

def typeLayoutErrorKindMembers : List (String × Int) := [
    ("INVALID", (-1)), ("INCOMPLETE", (-2)), ("DEPENDENT", (-3)), ("NOT_CONSTANT_SIZE", (-4)),
    ("INVALID_FIELD_NAME", (-5)), ("UNDEDUCED", (-6))]

def tokenKindMembers : List (String × Int) := [
    ("PUNCTUATION", 0), ("KEYWORD", 1), ("IDENTIFIER", 2), ("LITERAL", 3), ("COMMENT", 4)]

def diagnosticSeverityMembers : List (String × Int) := [
    ("IGNORED", 0), ("NOTE", 1), ("WARNING", 2), ("ERROR", 3), ("FATAL", 4)]

def saveErrorMembers : List (String × Int) := [
    ("NONE", 0), ("UNKNOWN", 1), ("TRANSLATION_ERRORS", 2), ("INVALID_TU", 3)]

def completionChunkKindMembers : List (String × Int) := [
    ("OPTIONAL", 0), ("TYPED_TEXT", 1), ("TEXT", 2), ("PLACEHOLDER", 3), ("INFORMATIVE", 4),
    ("CURRENT_PARAMETER", 5), ("LEFT_PAREN", 6), ("RIGHT_PAREN", 7), ("LEFT_BRACKET", 8),
    ("RIGHT_BRACKET", 9), ("LEFT_BRACE", 10), ("RIGHT_BRACE", 11), ("LEFT_ANGLE", 12),
    ("RIGHT_ANGLE", 13), ("COMMA", 14), ("RESULT_TYPE", 15), ("COLON", 16), ("SEMI_COLON", 17),
    ("EQUAL", 18), ("HORIZONTAL_SPACE", 19), ("VERTICAL_SPACE", 20)]

def commentKindMembers : List (String × Int) := [
    ("NULL", 0), ("TEXT", 1), ("INLINE_COMMAND", 2), ("HTML_START_TAG", 3), ("HTML_END_TAG", 4),
    ("PARAGRAPH", 5), ("BLOCK_COMMAND", 6), ("PARAM_COMMAND", 7), ("TPARAM_COMMAND", 8),
    ("VERBATIM_BLOCK_COMMAND", 9), ("VERBATIM_BLOCK_LINE", 10), ("VERBATIM_LINE", 11),
    ("FULL_COMMENT", 12)]

def compilationDatabaseErrorCodeMembers : List (String × Int) := [
    ("NO_ERROR", 0), ("CAN_NOT_LOAD_DATABASE", 1)]

def cursorKindMembers : List (String × Int) := [
    ("UNEXPOSED_DECL", 1), ("STRUCT_DECL", 2), ("UNION_DECL", 3), ("CLASS_DECL", 4),
    ("ENUM_DECL", 5), ("FIELD_DECL", 6), ("ENUM_CONSTANT_DECL", 7), ("FUNCTION_DECL", 8),
    ("VAR_DECL", 9), ("PARM_DECL", 10), ("OBJC_INTERFACE_DECL", 11), ("OBJC_CATEGORY_DECL", 12),
    ("OBJC_PROTOCOL_DECL", 13), ("OBJC_PROPERTY_DECL", 14), ("OBJC_IVAR_DECL", 15),
    ("OBJC_INSTANCE_METHOD_DECL", 16), ("OBJC_CLASS_METHOD_DECL", 17),
    ("OBJC_IMPLEMENTATION_DECL", 18), ("OBJC_CATEGORY_IMPL_DECL", 19), ("TYPEDEF_DECL", 20),
    ("CXX_METHOD", 21), ("NAMESPACE", 22), ("LINKAGE_SPEC", 23), ("CONSTRUCTOR", 24),
    ("DESTRUCTOR", 25), ("CONVERSION_FUNCTION", 26), ("TEMPLATE_TYPE_PARAMETER", 27),
    ("TEMPLATE_NON_TYPE_PARAMETER", 28), ("TEMPLATE_TEMPLATE_PARAMETER", 29),
    ("FUNCTION_TEMPLATE", 30), ("CLASS_TEMPLATE", 31),
    ("CLASS_TEMPLATE_PARTIAL_SPECIALIZATION", 32), ("NAMESPACE_ALIAS", 33),
    ("USING_DIRECTIVE", 34), ("USING_DECLARATION", 35), ("TYPE_ALIAS_DECL", 36),
    ("OBJC_SYNTHESIZE_DECL", 37), ("OBJC_DYNAMIC_DECL", 38), ("CXX_ACCESS_SPEC_DECL", 39),
    ("OBJC_SUPER_CLASS_REF", 40), ("OBJC_PROTOCOL_REF", 41), ("OBJC_CLASS_REF", 42),
    ("TYPE_REF", 43), ("CXX_BASE_SPECIFIER", 44), ("TEMPLATE_REF", 45), ("NAMESPACE_REF", 46),
    ("MEMBER_REF", 47), ("LABEL_REF", 48), ("OVERLOADED_DECL_REF", 49), ("VARIABLE_REF", 50),
    ("INVALID_FILE", 70), ("NO_DECL_FOUND", 71), ("NOT_IMPLEMENTED", 72), ("INVALID_CODE", 73),
    ("UNEXPOSED_EXPR", 100), ("DECL_REF_EXPR", 101), ("MEMBER_REF_EXPR", 102), ("CALL_EXPR", 103),
    ("OBJC_MESSAGE_EXPR", 104), ("BLOCK_EXPR", 105), ("INTEGER_LITERAL", 106),
    ("FLOATING_LITERAL", 107), ("IMAGINARY_LITERAL", 108), ("STRING_LITERAL", 109),
    ("CHARACTER_LITERAL", 110), ("PAREN_EXPR", 111), ("UNARY_OPERATOR", 112),
    ("ARRAY_SUBSCRIPT_EXPR", 113), ("BINARY_OPERATOR", 114),
    ("COMPOUND_ASSIGNMENT_OPERATOR", 115), ("CONDITIONAL_OPERATOR", 116),
    ("CSTYLE_CAST_EXPR", 117), ("COMPOUND_LITERAL_EXPR", 118), ("INIT_LIST_EXPR", 119),
    ("ADDR_LABEL_EXPR", 120), ("STMT_EXPR", 121), ("GENERIC_SELECTION_EXPR", 122),
    ("GNU_NULL_EXPR", 123), ("CXX_STATIC_CAST_EXPR", 124), ("CXX_DYNAMIC_CAST_EXPR", 125),
    ("CXX_REINTERPRET_CAST_EXPR", 126), ("CXX_CONST_CAST_EXPR", 127),
    ("CXX_FUNCTIONAL_CAST_EXPR", 128), ("CXX_TYPEID_EXPR", 129), ("CXX_BOOL_LITERAL_EXPR", 130),
    ("CXX_NULL_PTR_LITERAL_EXPR", 131), ("CXX_THIS_EXPR", 132), ("CXX_THROW_EXPR", 133),
    ("CXX_NEW_EXPR", 134), ("CXX_DELETE_EXPR", 135), ("CXX_UNARY_EXPR", 136),
    ("OBJC_STRING_LITERAL", 137), ("OBJC_ENCODE_EXPR", 138), ("OBJC_SELECTOR_EXPR", 139),
    ("OBJC_PROTOCOL_EXPR", 140), ("OBJC_BRIDGE_CAST_EXPR", 141), ("PACK_EXPANSION_EXPR", 142),
    ("SIZE_OF_PACK_EXPR", 143), ("LAMBDA_EXPR", 144), ("OBJ_BOOL_LITERAL_EXPR", 145),
    ("OBJ_SELF_EXPR", 146), ("OMP_ARRAY_SECTION_EXPR", 147),
    ("OBJC_AVAILABILITY_CHECK_EXPR", 148), ("FIXED_POINT_LITERAL", 149),
    ("OMP_ARRAY_SHAPING_EXPR", 150), ("OMP_ITERATOR_EXPR", 151), ("CXX_ADDRSPACE_CAST_EXPR", 152),
    ("CONCEPT_SPECIALIZATION_EXPR", 153), ("REQUIRES_EXPR", 154),
    ("CXX_PAREN_LIST_INIT_EXPR", 155), ("PACK_INDEXING_EXPR", 156), ("UNEXPOSED_STMT", 200),
    ("LABEL_STMT", 201), ("COMPOUND_STMT", 202), ("CASE_STMT", 203), ("DEFAULT_STMT", 204),
    ("IF_STMT", 205), ("SWITCH_STMT", 206), ("WHILE_STMT", 207), ("DO_STMT", 208),
    ("FOR_STMT", 209), ("GOTO_STMT", 210), ("INDIRECT_GOTO_STMT", 211), ("CONTINUE_STMT", 212),
    ("BREAK_STMT", 213), ("RETURN_STMT", 214), ("ASM_STMT", 215), ("OBJC_AT_TRY_STMT", 216),
    ("OBJC_AT_CATCH_STMT", 217), ("OBJC_AT_FINALLY_STMT", 218), ("OBJC_AT_THROW_STMT", 219),
    ("OBJC_AT_SYNCHRONIZED_STMT", 220), ("OBJC_AUTORELEASE_POOL_STMT", 221),
    ("OBJC_FOR_COLLECTION_STMT", 222), ("CXX_CATCH_STMT", 223), ("CXX_TRY_STMT", 224),
    ("CXX_FOR_RANGE_STMT", 225), ("SEH_TRY_STMT", 226), ("SEH_EXCEPT_STMT", 227),
    ("SEH_FINALLY_STMT", 228), ("MS_ASM_STMT", 229), ("NULL_STMT", 230), ("DECL_STMT", 231),
    ("OMP_PARALLEL_DIRECTIVE", 232), ("OMP_SIMD_DIRECTIVE", 233), ("OMP_FOR_DIRECTIVE", 234),
    ("OMP_SECTIONS_DIRECTIVE", 235), ("OMP_SECTION_DIRECTIVE", 236),
    ("OMP_SINGLE_DIRECTIVE", 237), ("OMP_PARALLEL_FOR_DIRECTIVE", 238),
    ("OMP_PARALLEL_SECTIONS_DIRECTIVE", 239), ("OMP_TASK_DIRECTIVE", 240),
    ("OMP_MASTER_DIRECTIVE", 241), ("OMP_CRITICAL_DIRECTIVE", 242),
    ("OMP_TASKYIELD_DIRECTIVE", 243), ("OMP_BARRIER_DIRECTIVE", 244),
    ("OMP_TASKWAIT_DIRECTIVE", 245), ("OMP_FLUSH_DIRECTIVE", 246), ("SEH_LEAVE_STMT", 247),
    ("OMP_ORDERED_DIRECTIVE", 248), ("OMP_ATOMIC_DIRECTIVE", 249),
    ("OMP_FOR_SIMD_DIRECTIVE", 250), ("OMP_PARALLELFORSIMD_DIRECTIVE", 251),
    ("OMP_TARGET_DIRECTIVE", 252), ("OMP_TEAMS_DIRECTIVE", 253), ("OMP_TASKGROUP_DIRECTIVE", 254),
    ("OMP_CANCELLATION_POINT_DIRECTIVE", 255), ("OMP_CANCEL_DIRECTIVE", 256),
    ("OMP_TARGET_DATA_DIRECTIVE", 257), ("OMP_TASK_LOOP_DIRECTIVE", 258),
    ("OMP_TASK_LOOP_SIMD_DIRECTIVE", 259), ("OMP_DISTRIBUTE_DIRECTIVE", 260),
    ("OMP_TARGET_ENTER_DATA_DIRECTIVE", 261), ("OMP_TARGET_EXIT_DATA_DIRECTIVE", 262),
    ("OMP_TARGET_PARALLEL_DIRECTIVE", 263), ("OMP_TARGET_PARALLELFOR_DIRECTIVE", 264),
    ("OMP_TARGET_UPDATE_DIRECTIVE", 265), ("OMP_DISTRIBUTE_PARALLELFOR_DIRECTIVE", 266),
    ("OMP_DISTRIBUTE_PARALLEL_FOR_SIMD_DIRECTIVE", 267), ("OMP_DISTRIBUTE_SIMD_DIRECTIVE", 268),
    ("OMP_TARGET_PARALLEL_FOR_SIMD_DIRECTIVE", 269), ("OMP_TARGET_SIMD_DIRECTIVE", 270),
    ("OMP_TEAMS_DISTRIBUTE_DIRECTIVE", 271), ("OMP_TEAMS_DISTRIBUTE_SIMD_DIRECTIVE", 272),
    ("OMP_TEAMS_DISTRIBUTE_PARALLEL_FOR_SIMD_DIRECTIVE", 273),
    ("OMP_TEAMS_DISTRIBUTE_PARALLEL_FOR_DIRECTIVE", 274), ("OMP_TARGET_TEAMS_DIRECTIVE", 275),
    ("OMP_TARGET_TEAMS_DISTRIBUTE_DIRECTIVE", 276),
    ("OMP_TARGET_TEAMS_DISTRIBUTE_PARALLEL_FOR_DIRECTIVE", 277),
    ("OMP_TARGET_TEAMS_DISTRIBUTE_PARALLEL_FOR_SIMD_DIRECTIVE", 278),
    ("OMP_TARGET_TEAMS_DISTRIBUTE_SIMD_DIRECTIVE", 279), ("BUILTIN_BIT_CAST_EXPR", 280),
    ("OMP_MASTER_TASK_LOOP_DIRECTIVE", 281), ("OMP_PARALLEL_MASTER_TASK_LOOP_DIRECTIVE", 282),
    ("OMP_MASTER_TASK_LOOP_SIMD_DIRECTIVE", 283),
    ("OMP_PARALLEL_MASTER_TASK_LOOP_SIMD_DIRECTIVE", 284), ("OMP_PARALLEL_MASTER_DIRECTIVE", 285),
    ("OMP_DEPOBJ_DIRECTIVE", 286), ("OMP_SCAN_DIRECTIVE", 287), ("OMP_TILE_DIRECTIVE", 288),
    ("OMP_CANONICAL_LOOP", 289), ("OMP_INTEROP_DIRECTIVE", 290), ("OMP_DISPATCH_DIRECTIVE", 291),
    ("OMP_MASKED_DIRECTIVE", 292), ("OMP_UNROLL_DIRECTIVE", 293), ("OMP_META_DIRECTIVE", 294),
    ("OMP_GENERIC_LOOP_DIRECTIVE", 295), ("OMP_TEAMS_GENERIC_LOOP_DIRECTIVE", 296),
    ("OMP_TARGET_TEAMS_GENERIC_LOOP_DIRECTIVE", 297),
    ("OMP_PARALLEL_GENERIC_LOOP_DIRECTIVE", 298),
    ("OMP_TARGET_PARALLEL_GENERIC_LOOP_DIRECTIVE", 299), ("OMP_PARALLEL_MASKED_DIRECTIVE", 300),
    ("OMP_MASKED_TASK_LOOP_DIRECTIVE", 301), ("OMP_MASKED_TASK_LOOP_SIMD_DIRECTIVE", 302),
    ("OMP_PARALLEL_MASKED_TASK_LOOP_DIRECTIVE", 303),
    ("OMP_PARALLEL_MASKED_TASK_LOOP_SIMD_DIRECTIVE", 304), ("OMP_ERROR_DIRECTIVE", 305),
    ("OMP_SCOPE_DIRECTIVE", 306), ("OPEN_ACC_COMPUTE_DIRECTIVE", 320), ("TRANSLATION_UNIT", 350),
    ("UNEXPOSED_ATTR", 400), ("IB_ACTION_ATTR", 401), ("IB_OUTLET_ATTR", 402),
    ("IB_OUTLET_COLLECTION_ATTR", 403), ("CXX_FINAL_ATTR", 404), ("CXX_OVERRIDE_ATTR", 405),
    ("ANNOTATE_ATTR", 406), ("ASM_LABEL_ATTR", 407), ("PACKED_ATTR", 408), ("PURE_ATTR", 409),
    ("CONST_ATTR", 410), ("NODUPLICATE_ATTR", 411), ("CUDACONSTANT_ATTR", 412),
    ("CUDADEVICE_ATTR", 413), ("CUDAGLOBAL_ATTR", 414), ("CUDAHOST_ATTR", 415),
    ("CUDASHARED_ATTR", 416), ("VISIBILITY_ATTR", 417), ("DLLEXPORT_ATTR", 418),
    ("DLLIMPORT_ATTR", 419), ("NS_RETURNS_RETAINED", 420), ("NS_RETURNS_NOT_RETAINED", 421),
    ("NS_RETURNS_AUTORELEASED", 422), ("NS_CONSUMES_SELF", 423), ("NS_CONSUMED", 424),
    ("OBJC_EXCEPTION", 425), ("OBJC_NSOBJECT", 426), ("OBJC_INDEPENDENT_CLASS", 427),
    ("OBJC_PRECISE_LIFETIME", 428), ("OBJC_RETURNS_INNER_POINTER", 429),
    ("OBJC_REQUIRES_SUPER", 430), ("OBJC_ROOT_CLASS", 431), ("OBJC_SUBCLASSING_RESTRICTED", 432),
    ("OBJC_EXPLICIT_PROTOCOL_IMPL", 433), ("OBJC_DESIGNATED_INITIALIZER", 434),
    ("OBJC_RUNTIME_VISIBLE", 435), ("OBJC_BOXABLE", 436), ("FLAG_ENUM", 437),
    ("CONVERGENT_ATTR", 438), ("WARN_UNUSED_ATTR", 439), ("WARN_UNUSED_RESULT_ATTR", 440),
    ("ALIGNED_ATTR", 441), ("PREPROCESSING_DIRECTIVE", 500), ("MACRO_DEFINITION", 501),
    ("MACRO_INSTANTIATION", 502), ("INCLUSION_DIRECTIVE", 503), ("MODULE_IMPORT_DECL", 600),
    ("TYPE_ALIAS_TEMPLATE_DECL", 601), ("STATIC_ASSERT", 602), ("FRIEND_DECL", 603),
    ("CONCEPT_DECL", 604), ("OVERLOAD_CANDIDATE", 700)]

def typeKindMembers : List (String × Int) := [
    ("INVALID", 0), ("UNEXPOSED", 1), ("VOID", 2), ("BOOL", 3), ("CHAR_U", 4), ("UCHAR", 5),
    ("CHAR16", 6), ("CHAR32", 7), ("USHORT", 8), ("UINT", 9), ("ULONG", 10), ("ULONGLONG", 11),
    ("UINT128", 12), ("CHAR_S", 13), ("SCHAR", 14), ("WCHAR", 15), ("SHORT", 16), ("INT", 17),
    ("LONG", 18), ("LONGLONG", 19), ("INT128", 20), ("FLOAT", 21), ("DOUBLE", 22),
    ("LONGDOUBLE", 23), ("NULLPTR", 24), ("OVERLOAD", 25), ("DEPENDENT", 26), ("OBJCID", 27),
    ("OBJCCLASS", 28), ("OBJCSEL", 29), ("FLOAT128", 30), ("HALF", 31), ("FLOAT16", 32),
    ("SHORTACCUM", 33), ("ACCUM", 34), ("LONGACCUM", 35), ("USHORTACCUM", 36), ("UACCUM", 37),
    ("ULONGACCUM", 38), ("BFLOAT16", 39), ("IBM128", 40), ("COMPLEX", 100), ("POINTER", 101),
    ("BLOCKPOINTER", 102), ("LVALUEREFERENCE", 103), ("RVALUEREFERENCE", 104), ("RECORD", 105),
    ("ENUM", 106), ("TYPEDEF", 107), ("OBJCINTERFACE", 108), ("OBJCOBJECTPOINTER", 109),
    ("FUNCTIONNOPROTO", 110), ("FUNCTIONPROTO", 111), ("CONSTANTARRAY", 112), ("VECTOR", 113),
    ("INCOMPLETEARRAY", 114), ("VARIABLEARRAY", 115), ("DEPENDENTSIZEDARRAY", 116),
    ("MEMBERPOINTER", 117), ("AUTO", 118), ("ELABORATED", 119), ("PIPE", 120),
    ("OCLIMAGE1DRO", 121), ("OCLIMAGE1DARRAYRO", 122), ("OCLIMAGE1DBUFFERRO", 123),
    ("OCLIMAGE2DRO", 124), ("OCLIMAGE2DARRAYRO", 125), ("OCLIMAGE2DDEPTHRO", 126),
    ("OCLIMAGE2DARRAYDEPTHRO", 127), ("OCLIMAGE2DMSAARO", 128), ("OCLIMAGE2DARRAYMSAARO", 129),
    ("OCLIMAGE2DMSAADEPTHRO", 130), ("OCLIMAGE2DARRAYMSAADEPTHRO", 131), ("OCLIMAGE3DRO", 132),
    ("OCLIMAGE1DWO", 133), ("OCLIMAGE1DARRAYWO", 134), ("OCLIMAGE1DBUFFERWO", 135),
    ("OCLIMAGE2DWO", 136), ("OCLIMAGE2DARRAYWO", 137), ("OCLIMAGE2DDEPTHWO", 138),
    ("OCLIMAGE2DARRAYDEPTHWO", 139), ("OCLIMAGE2DMSAAWO", 140), ("OCLIMAGE2DARRAYMSAAWO", 141),
    ("OCLIMAGE2DMSAADEPTHWO", 142), ("OCLIMAGE2DARRAYMSAADEPTHWO", 143), ("OCLIMAGE3DWO", 144),
    ("OCLIMAGE1DRW", 145), ("OCLIMAGE1DARRAYRW", 146), ("OCLIMAGE1DBUFFERRW", 147),
    ("OCLIMAGE2DRW", 148), ("OCLIMAGE2DARRAYRW", 149), ("OCLIMAGE2DDEPTHRW", 150),
    ("OCLIMAGE2DARRAYDEPTHRW", 151), ("OCLIMAGE2DMSAARW", 152), ("OCLIMAGE2DARRAYMSAARW", 153),
    ("OCLIMAGE2DMSAADEPTHRW", 154), ("OCLIMAGE2DARRAYMSAADEPTHRW", 155), ("OCLIMAGE3DRW", 156),
    ("OCLSAMPLER", 157), ("OCLEVENT", 158), ("OCLQUEUE", 159), ("OCLRESERVEID", 160),
    ("OBJCOBJECT", 161), ("OBJCTYPEPARAM", 162), ("ATTRIBUTED", 163),
    ("OCLINTELSUBGROUPAVCMCEPAYLOAD", 164), ("OCLINTELSUBGROUPAVCIMEPAYLOAD", 165),
    ("OCLINTELSUBGROUPAVCREFPAYLOAD", 166), ("OCLINTELSUBGROUPAVCSICPAYLOAD", 167),
    ("OCLINTELSUBGROUPAVCMCERESULT", 168), ("OCLINTELSUBGROUPAVCIMERESULT", 169),
    ("OCLINTELSUBGROUPAVCREFRESULT", 170), ("OCLINTELSUBGROUPAVCSICRESULT", 171),
    ("OCLINTELSUBGROUPAVCIMERESULTSINGLEREFERENCESTREAMOUT", 172),
    ("OCLINTELSUBGROUPAVCIMERESULTSDUALREFERENCESTREAMOUT", 173),
    ("OCLINTELSUBGROUPAVCIMERESULTSSINGLEREFERENCESTREAMIN", 174),
    ("OCLINTELSUBGROUPAVCIMEDUALREFERENCESTREAMIN", 175), ("EXTVECTOR", 176), ("ATOMIC", 177),
    ("BTFTAGATTRIBUTED", 178)]

def members : Enumeration → List (String × Int)
  | .childVisitResult => childVisitResultMembers
  | .availabilityKind => availabilityKindMembers
  | .callingConv => callingConvMembers
  | .linkageKind => linkageKindMembers
  | .languageKind => languageKindMembers
  | .accessSpecifier => accessSpecifierMembers
  | .refQualifierKind => refQualifierKindMembers
  | .result => resultMembers
  | .typeLayoutErrorKind => typeLayoutErrorKindMembers
  | .tokenKind => tokenKindMembers
  | .diagnosticSeverity => diagnosticSeverityMembers
  | .saveError => saveErrorMembers
  | .completionChunkKind => completionChunkKindMembers
  | .commentKind => commentKindMembers
  | .compilationDatabaseErrorCode => compilationDatabaseErrorCodeMembers
  | .cursorKind => cursorKindMembers
  | .typeKind => typeKindMembers

/-- An open enumeration has a member for every number. -/
def isOpen : Enumeration → Bool
  | .cursorKind | .typeKind => true
  | _ => false

def ofName? (s : String) : Option Enumeration := all.find? fun e => e.name == s

def nameOf? (e : Enumeration) (n : Int) : Option String :=
  (e.members.find? fun m => m.2 == n).map (·.1)

def numberOf? (e : Enumeration) (s : String) : Option Int :=
  (e.members.find? fun m => m.1 == s).map (·.2)

/-- The name of a member that is made for a number. A number with too many digits has none. -/
def unknownName? (n : Int) : Option String := (Number.writeInteger? n).map ("UNKNOWN_" ++ ·)

structure Entry where
  name : String
  number : Int
  deriving DecidableEq, Repr

/-- The members that an enumeration has: those of its declaration, and those that were made for
numbers without a name, which only an open enumeration makes. -/
structure Register where
  isOpen : Bool
  declared : List Entry
  made : List Entry := []
  deriving DecidableEq, Repr

namespace Register

def entries (r : Register) : List Entry := r.declared ++ r.made

def newEntry? (r : Register) (n : Int) : Option Entry :=
  if r.isOpen then (unknownName? n).map fun s => ⟨s, n⟩ else none

def find (r : Register) (n : Int) : Option Entry × Register :=
  match r.entries.find? fun m => m.number == n with
  | some m => (some m, r)
  | none =>
    match r.newEntry? n with
    | some m => (some m, { r with made := r.made ++ [m] })
    | none => (none, r)

def listing (r : Register) : List Entry := r.declared.eraseDupsBy fun a b => a.number == b.number

end Register

def register (e : Enumeration) : Register where
  isOpen := e.isOpen
  declared := e.members.map fun m => ⟨m.1, m.2⟩

theorem declared_find? (e : Enumeration) (n : Int) :
    (e.register.declared.find? fun m => m.number == n) = (e.nameOf? n).map fun s => ⟨s, n⟩ := by
  rw [register, nameOf?, List.find?_map, Option.map_map]
  change (e.members.find? fun m => m.2 == n).map _ = (e.members.find? fun m => m.2 == n).map _
  cases found : e.members.find? fun m => m.2 == n with
  | none => rfl
  | some m =>
    have same : m.2 = n := by simpa using List.find?_some found
    simp [same]

def nameFor? (e : Enumeration) (n : Int) : Option String :=
  e.nameOf? n <|> if e.isOpen then unknownName? n else none

theorem register_find (e : Enumeration) (n : Int) :
    (e.register.find n).1 = (e.nameFor? n).map fun s => ⟨s, n⟩ := by
  have entries : e.register.entries = e.register.declared := List.append_nil _
  have made : e.register.newEntry? n =
      (if e.isOpen then unknownName? n else none).map fun s => ⟨s, n⟩ := by
    rw [Register.newEntry?, apply_ite (Option.map _)]
    rfl
  rw [Register.find, entries, declared_find?, made, nameFor?]
  cases e.nameOf? n with
  | some s => rfl
  | none => cases (if e.isOpen then unknownName? n else none) <;> rfl

end Enumeration

structure Member where
  kind : Enumeration
  number : Int
  deriving DecidableEq, Repr, Inhabited

namespace Member

def name (m : Member) : String := ((m.kind.register.find m.number).1.map (·.name)).getD ""

def qualified (m : Member) : String := m.kind.name ++ "." ++ m.name

end Member

namespace Enumeration

def ofNumber? (e : Enumeration) (n : Int) : Option Member :=
  (e.register.find n).1.map fun m => ⟨e, m.number⟩

theorem ofNumber?_eq (e : Enumeration) (n : Int) :
    e.ofNumber? n = if (e.nameFor? n).isSome then some ⟨e, n⟩ else none := by
  rw [ofNumber?, register_find]
  cases e.nameFor? n <;> rfl

def ofMemberName? (e : Enumeration) (s : String) : Option Member :=
  (e.numberOf? s).map fun n => ⟨e, n⟩

end Enumeration

def capitalized (s : List Char) : List Char :=
  match s with
  | [] => []
  | c :: r => c.toUpper :: r.map Char.toLower

def wordsCapitalized (word : List Char) : List Char → List Char
  | [] => capitalized word
  | '_' :: r => capitalized word ++ wordsCapitalized [] r
  | c :: r => wordsCapitalized (word ++ [c]) r

def Member.spelling? (m : Member) : Option String :=
  match m.kind with
  | .availabilityKind | .typeLayoutErrorKind | .diagnosticSeverity | .completionChunkKind =>
    some (String.ofList (wordsCapitalized [] m.name.toList))
  | _ => none

def chunkSpelling (n : Int) : String :=
  ((Enumeration.completionChunkKind.ofNumber? n).bind Member.spelling?).getD "Invalid"

end ClangIndex
