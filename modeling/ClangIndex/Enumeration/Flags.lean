
namespace ClangIndex

inductive FlagSet
  | nameRefFlags
  | diagnosticDisplayOptions
  | translationUnitFlags
  | saveTranslationUnitFlags
  | reparseFlags
  | codeCompleteFlags
  | completionContext
  | globalOptions
  deriving DecidableEq, Repr, Inhabited

namespace FlagSet

def all : List FlagSet := [
    .nameRefFlags,
    .diagnosticDisplayOptions,
    .translationUnitFlags,
    .saveTranslationUnitFlags,
    .reparseFlags,
    .codeCompleteFlags,
    .completionContext,
    .globalOptions]

def name : FlagSet → String
  | .nameRefFlags => "NameRefFlags"
  | .diagnosticDisplayOptions => "DiagnosticDisplayOptions"
  | .translationUnitFlags => "TranslationUnitFlags"
  | .saveTranslationUnitFlags => "SaveTranslationUnitFlags"
  | .reparseFlags => "ReparseFlags"
  | .codeCompleteFlags => "CodeCompleteFlags"
  | .completionContext => "CompletionContext"
  | .globalOptions => "GlobalOptions"

/-- Names and masks in the order of declaration; some have no bit or several. -/
def members : FlagSet → List (String × Nat)
  | .nameRefFlags => [
    ("WANT_QUALIFIER", 1), ("WANT_TEMPLATE_ARGS", 2), ("WANT_SINGLE_PIECE", 4)]
  | .diagnosticDisplayOptions => [
    ("NONE", 0), ("SOURCE_LOCATION", 1), ("COLUMN", 2), ("SOURCE_RANGES", 4), ("OPTION", 8),
    ("CATEGORY_ID", 16), ("CATEGORY_NAME", 32)]
  | .translationUnitFlags => [
    ("NONE", 0), ("DETAILED_PREPROCESSING_RECORD", 1), ("INCOMPLETE", 2),
    ("PRECOMPILED_PREAMBLE", 4), ("CACHE_COMPLETION_RESULTS", 8), ("FOR_SERIALIZATION", 16),
    ("CXX_CHAINED_PCH", 32), ("SKIP_FUNCTION_BODIES", 64),
    ("INCLUDE_BRIEF_COMMENTS_IN_CODE_COMPLETION", 128), ("CREATE_PREAMBLE_ON_FIRST_PARSE", 256),
    ("KEEP_GOING", 512), ("SINGLE_FILE_PARSE", 1024),
    ("LIMIT_SKIP_FUNCTION_BODIES_TO_PREAMBLE", 2048), ("INCLUDE_ATTRIBUTED_TYPES", 4096),
    ("VISIT_IMPLICIT_ATTRIBUTES", 8192), ("IGNORE_NON_ERRORS_FROM_INCLUDED_FILES", 16384),
    ("RETAIN_EXCLUDED_CONDITIONAL_BLOCKS", 32768)]
  | .saveTranslationUnitFlags => [
    ("NONE", 0)]
  | .reparseFlags => [
    ("NONE", 0)]
  | .codeCompleteFlags => [
    ("NONE", 0), ("INCLUDE_MACROS", 1), ("INCLUDE_CODE_PATTERNS", 2),
    ("INCLUDE_BRIEF_COMMENTS", 4), ("SKIP_PREAMBLE", 8), ("INCLUDE_COMPLETIONS_WITH_FIX_ITS", 16)]
  | .completionContext => [
    ("UNEXPOSED", 0), ("ANY_TYPE", 1), ("ANY_VALUE", 2), ("OBJC_OBJECT_VALUE", 4),
    ("OBJC_SELECTOR_VALUE", 8), ("CXX_CLASS_TYPE_VALUE", 16), ("DOT_MEMBER_ACCESS", 32),
    ("ARROW_MEMBER_ACCESS", 64), ("OBJC_PROPERTY_ACCESS", 128), ("ENUM_TAG", 256),
    ("UNION_TAG", 512), ("STRUCT_TAG", 1024), ("CLASS_TAG", 2048), ("NAMESPACE", 4096),
    ("NESTED_NAME_SPECIFIER", 8192), ("OBJC_INTERFACE", 16384), ("OBJC_PROTOCOL", 32768),
    ("OBJC_CATEGORY", 65536), ("OBJC_INSTANCE_MESSAGE", 131072), ("OBJC_CLASS_MESSAGE", 262144),
    ("OBJC_SELECTOR_NAME", 524288), ("MACRO_NAME", 1048576), ("NATURAL_LANGUAGE", 2097152),
    ("INCLUDED_FILE", 4194304), ("UNKNOWN", 8388607)]
  | .globalOptions => [
    ("NONE", 0), ("THREAD_BACKGROUND_PRIORITY_FOR_INDEXING", 1),
    ("THREAD_BACKGROUND_PRIORITY_FOR_EDITING", 2), ("THREAD_BACKGROUND_PRIORITY_FOR_ALL", 3)]

def ofName? (s : String) : Option FlagSet := all.find? fun f => f.name == s

def isSingleBit (n : Nat) : Bool := n != 0 && n == Nat.pow 2 (Nat.log2 n)

def bitsOf (f : FlagSet) (n : Nat) : List (String × Nat) :=
  f.members.filter fun m => isSingleBit m.2 && (n &&& m.2) != 0

def namesOf (f : FlagSet) (n : Nat) : List String := (f.bitsOf n).map (·.1)

/-- The name declared for a mask, else its single bits and what is left over. -/
def nameOf? (f : FlagSet) (n : Nat) : Option String :=
  match f.members.find? fun m => m.2 == n with
  | some m => some m.1
  | none =>
    let bits := f.bitsOf n
    let rest := n ^^^ (bits.foldl (fun a m => a ||| m.2) 0)
    if bits.isEmpty then none
    else some ("|".intercalate (bits.map (·.1)) ++ if rest = 0 then "" else "|" ++ toString rest)

def maskOf? (f : FlagSet) (s : String) : Option Nat :=
  (f.members.find? fun m => m.1 == s).map (·.2)

def shown (f : FlagSet) (n : Nat) : String :=
  match f.nameOf? n with
  | some s => "<" ++ f.name ++ "." ++ s ++ ": " ++ toString n ++ ">"
  | none => "<" ++ f.name ++ ": " ++ toString n ++ ">"

end FlagSet

end ClangIndex
