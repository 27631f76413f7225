import ClangIndex.Native.CType

namespace ClangIndex.Native

inductive Function
  | getCString
  | disposeString
  | getClangVersion
  | isDeclaration
  | isReference
  | isExpression
  | isStatement
  | isAttribute
  | isInvalid
  | isTranslationUnit
  | isPreprocessing
  | isUnexposed
  | getCursorKindSpelling
  | getNullLocation
  | equalLocations
  | locationIsInSystemHeader
  | locationIsFromMainFile
  | getExpansionLocation
  | getInstantiationLocation
  | getSpellingLocation
  | getFileLocation
  | getPresumedLocation
  | getNullRange
  | getRange
  | equalRanges
  | rangeIsNull
  | getRangeStart
  | getRangeEnd
  | getFileName
  | getFileTime
  | getFileUniqueID
  | disposeCXPlatformAvailability
  | equalTypes
  | getTypeSpelling
  | getTypeKindSpelling
  | getCanonicalType
  | isConstQualifiedType
  | isVolatileQualifiedType
  | isRestrictQualifiedType
  | getPointeeType
  | getResultType
  | isPODType
  | getArrayElementType
  | getArraySize
  | getFunctionTypeCallingConv
  | getNumArgTypes
  | getArgType
  | isFunctionTypeVariadic
  | typeGetCXXRefQualifier
  | typeGetSizeOf
  | typeGetAlignOf
  | typeGetOffsetOf
  | commentGetKind
  | commentGetNumChildren
  | commentGetChild
  | textCommentGetText
  | moduleGetASTFile
  | moduleGetParent
  | moduleGetName
  | moduleGetFullName
  | moduleIsSystem
  | disposeDiagnostic
  | getDiagnosticSeverity
  | getDiagnosticLocation
  | getDiagnosticSpelling
  | getDiagnosticOption
  | getDiagnosticNumRanges
  | getDiagnosticRange
  | getDiagnosticNumFixIts
  | getDiagnosticFixIt
  | getDiagnosticCategory
  | getDiagnosticCategoryText
  | formatDiagnostic
  | defaultDiagnosticDisplayOptions
  | defaultCodeCompleteOptions
  | disposeCodeCompleteResults
  | sortCodeCompletionResults
  | codeCompleteGetNumDiagnostics
  | codeCompleteGetDiagnostic
  | codeCompleteGetContexts
  | getCompletionPriority
  | getCompletionAvailability
  | getCompletionNumAnnotations
  | getCompletionAnnotationAt
  | getCompletionParent
  | getCompletionBriefComment
  | getNumCompletionChunks
  | getCompletionChunkText
  | getCompletionChunkKind
  | getCompletionChunkCompletionString
  | getNullCursor
  | cursorIsNull
  | equalCursors
  | hashCursor
  | getCursorSpelling
  | getCursorDisplayName
  | getCursorUSR
  | getCursorLinkage
  | getCursorAvailability
  | getCursorPlatformAvailability
  | getCursorLanguage
  | cursorGetTranslationUnit
  | getDeclObjCTypeEncoding
  | getCursorSemanticParent
  | getCursorLexicalParent
  | getOverriddenCursors
  | disposeOverriddenCursors
  | getIncludedFile
  | getCursorLocation
  | getCursorExtent
  | getCursorType
  | getTypedefDeclUnderlyingType
  | getEnumDeclIntegerType
  | getEnumConstantDeclValue
  | getEnumConstantDeclUnsignedValue
  | getFieldDeclBitWidth
  | cursorGetNumArguments
  | cursorGetArgument
  | getCursorResultType
  | cursorIsBitField
  | isVirtualBase
  | getCXXAccessSpecifier
  | getNumOverloadedDecls
  | getOverloadedDecl
  | getIBOutletCollectionType
  | visitChildren
  | getCursorReferenced
  | getCursorDefinition
  | isCursorDefinition
  | getCanonicalCursor
  | cursorIsDynamicCall
  | cursorGetReceiverType
  | cursorIsVariadic
  | cursorGetCommentRange
  | cursorGetRawCommentText
  | cursorGetBriefCommentText
  | cursorGetParsedComment
  | cursorGetModule
  | cxxMethodIsPureVirtual
  | cxxMethodIsStatic
  | cxxMethodIsVirtual
  | getTemplateCursorKind
  | getSpecializedCursorTemplate
  | getCursorReferenceNameRange
  | getCursorCompletionString
  | cursorGetOffsetOfField
  | findReferencesInFile
  | createCXCursorSet
  | disposeCXCursorSet
  | cxCursorSetContains
  | cxCursorSetInsert
  | getTypeDeclaration
  | getTokenKind
  | getTokenSpelling
  | getTokenLocation
  | getTokenExtent
  | tokenize
  | disposeTokens
  | annotateTokens
  | disposeTranslationUnit
  | getTranslationUnitSpelling
  | getTranslationUnitCursor
  | getFile
  | isFileMultipleIncludeGuarded
  | getCursor
  | getLocation
  | getLocationForOffset
  | getNumDiagnostics
  | getDiagnostic
  | defaultReparseOptions
  | defaultSaveOptions
  | reparseTranslationUnit
  | saveTranslationUnit
  | codeCompleteAt
  | moduleGetNumTopLevelHeaders
  | moduleGetTopLevelHeader
  | createIndex
  | disposeIndex
  | cxIndexGetGlobalOptions
  | cxIndexSetGlobalOptions
  | parseTranslationUnit
  | createTranslationUnit
  | createTranslationUnitFromSourceFile
  | compilationDatabaseFromDirectory
  | compilationDatabaseDispose
  | compilationDatabaseGetCompileCommands
  | compilationDatabaseGetAllCompileCommands
  | compileCommandsDispose
  | compileCommandsGetSize
  | compileCommandsGetCommand
  | compileCommandGetDirectory
  | compileCommandGetFilename
  | compileCommandGetNumArgs
  | compileCommandGetArg
  | compileCommandGetNumMappedSources
  | compileCommandGetMappedSourcePath
  | compileCommandGetMappedSourceContent
  deriving DecidableEq, Repr

inductive ResultCheck
  | takeString
  | decode
  | truth
  | cursor
  | type
  | file
  | module
  | diagnostic
  | completionString
  | codeCompleteResults
  deriving DecidableEq, Repr

namespace ResultCheck

def text : ResultCheck → String
  | .takeString => "CXString.from_result"
  | .decode => "c_interop_string.to_python_string"
  | .truth => "_is_kind"
  | .cursor => "Cursor.from_result"
  | .type => "Type.from_result"
  | .file => "File.from_result"
  | .module => "Module.from_result"
  | .diagnostic => "Diagnostic.from_result"
  | .completionString => "CompletionString.from_result"
  | .codeCompleteResults => "CodeCompleteResults.from_result"

end ResultCheck

structure Signature where
  symbol : String
  parameters : List CType
  result : Option CType := none
  check : Option ResultCheck := none
  deriving DecidableEq, Repr

namespace Function

def signature : Function → Signature
  | .getCString => ⟨"clang_getCString", [.struct .string], some .text, some .decode⟩
  | .disposeString => ⟨"clang_disposeString", [.struct .string], none, none⟩
  | .getClangVersion => ⟨"clang_getClangVersion", [], some (.struct .string), some .takeString⟩
  | .isDeclaration => ⟨"clang_isDeclaration", [.cursorKind], some .uint32, some .truth⟩
  | .isReference => ⟨"clang_isReference", [.cursorKind], some .uint32, some .truth⟩
  | .isExpression => ⟨"clang_isExpression", [.cursorKind], some .uint32, some .truth⟩
  | .isStatement => ⟨"clang_isStatement", [.cursorKind], some .uint32, some .truth⟩
  | .isAttribute => ⟨"clang_isAttribute", [.cursorKind], some .uint32, some .truth⟩
  | .isInvalid => ⟨"clang_isInvalid", [.cursorKind], some .uint32, some .truth⟩
  | .isTranslationUnit => ⟨"clang_isTranslationUnit", [.cursorKind], some .uint32, some .truth⟩
  | .isPreprocessing => ⟨"clang_isPreprocessing", [.cursorKind], some .uint32, some .truth⟩
  | .isUnexposed => ⟨"clang_isUnexposed", [.cursorKind], some .uint32, some .truth⟩
  | .getCursorKindSpelling =>
    ⟨"clang_getCursorKindSpelling",
      [.cursorKind], some (.struct .string), some .takeString⟩
  | .getNullLocation => ⟨"clang_getNullLocation", [], some (.struct .sourceLocation), none⟩
  | .equalLocations =>
    ⟨"clang_equalLocations",
      [.struct .sourceLocation, .struct .sourceLocation], some .uint32, none⟩
  | .locationIsInSystemHeader =>
    ⟨"clang_Location_isInSystemHeader",
      [.struct .sourceLocation], some .int32, none⟩
  | .locationIsFromMainFile =>
    ⟨"clang_Location_isFromMainFile",
      [.struct .sourceLocation], some .int32, none⟩
  | .getExpansionLocation =>
    ⟨"clang_getExpansionLocation",
      [.struct .sourceLocation, .pointer .handle, .pointer .uint32, .pointer .uint32,
       .pointer .uint32], none, none⟩
  | .getInstantiationLocation =>
    ⟨"clang_getInstantiationLocation",
      [.struct .sourceLocation, .pointer .handle, .pointer .uint32, .pointer .uint32,
       .pointer .uint32], none, none⟩
  | .getSpellingLocation =>
    ⟨"clang_getSpellingLocation",
      [.struct .sourceLocation, .pointer .handle, .pointer .uint32, .pointer .uint32,
       .pointer .uint32], none, none⟩
  | .getFileLocation =>
    ⟨"clang_getFileLocation",
      [.struct .sourceLocation, .pointer .handle, .pointer .uint32, .pointer .uint32,
       .pointer .uint32], none, none⟩
  | .getPresumedLocation =>
    ⟨"clang_getPresumedLocation",
      [.struct .sourceLocation, .pointer (.struct .string), .pointer .uint32, .pointer .uint32],
       none, none⟩
  | .getNullRange => ⟨"clang_getNullRange", [], some (.struct .sourceRange), none⟩
  | .getRange =>
    ⟨"clang_getRange",
      [.struct .sourceLocation, .struct .sourceLocation], some (.struct .sourceRange), none⟩
  | .equalRanges =>
    ⟨"clang_equalRanges",
      [.struct .sourceRange, .struct .sourceRange], some .uint32, none⟩
  | .rangeIsNull => ⟨"clang_Range_isNull", [.struct .sourceRange], some .int32, none⟩
  | .getRangeStart =>
    ⟨"clang_getRangeStart",
      [.struct .sourceRange], some (.struct .sourceLocation), none⟩
  | .getRangeEnd =>
    ⟨"clang_getRangeEnd",
      [.struct .sourceRange], some (.struct .sourceLocation), none⟩
  | .getFileName =>
    ⟨"clang_getFileName",
      [.wrapper .file], some (.struct .string), some .takeString⟩
  | .getFileTime => ⟨"clang_getFileTime", [.wrapper .file], some .int64, none⟩
  | .getFileUniqueID =>
    ⟨"clang_getFileUniqueID",
      [.wrapper .file, .pointer (.struct .fileUniqueID)], some .int32, none⟩
  | .disposeCXPlatformAvailability =>
    ⟨"clang_disposeCXPlatformAvailability",
      [.pointer (.struct .platformAvailability)], none, none⟩
  | .equalTypes => ⟨"clang_equalTypes", [.struct .type, .struct .type], some .uint32, none⟩
  | .getTypeSpelling =>
    ⟨"clang_getTypeSpelling",
      [.struct .type], some (.struct .string), some .takeString⟩
  | .getTypeKindSpelling =>
    ⟨"clang_getTypeKindSpelling",
      [.uint32], some (.struct .string), some .takeString⟩
  | .getCanonicalType =>
    ⟨"clang_getCanonicalType",
      [.struct .type], some (.struct .type), some .type⟩
  | .isConstQualifiedType => ⟨"clang_isConstQualifiedType", [.struct .type], some .uint32, none⟩
  | .isVolatileQualifiedType =>
    ⟨"clang_isVolatileQualifiedType",
      [.struct .type], some .uint32, none⟩
  | .isRestrictQualifiedType =>
    ⟨"clang_isRestrictQualifiedType",
      [.struct .type], some .uint32, none⟩
  | .getPointeeType => ⟨"clang_getPointeeType", [.struct .type], some (.struct .type), some .type⟩
  | .getResultType => ⟨"clang_getResultType", [.struct .type], some (.struct .type), some .type⟩
  | .isPODType => ⟨"clang_isPODType", [.struct .type], some .uint32, none⟩
  | .getArrayElementType =>
    ⟨"clang_getArrayElementType",
      [.struct .type], some (.struct .type), some .type⟩
  | .getArraySize => ⟨"clang_getArraySize", [.struct .type], some .int64, none⟩
  | .getFunctionTypeCallingConv =>
    ⟨"clang_getFunctionTypeCallingConv",
      [.struct .type], some .int32, none⟩
  | .getNumArgTypes => ⟨"clang_getNumArgTypes", [.struct .type], some .int32, none⟩
  | .getArgType => ⟨"clang_getArgType", [.struct .type, .uint32], some (.struct .type), some .type⟩
  | .isFunctionTypeVariadic => ⟨"clang_isFunctionTypeVariadic", [.struct .type], some .uint32, none⟩
  | .typeGetCXXRefQualifier => ⟨"clang_Type_getCXXRefQualifier", [.struct .type], some .int32, none⟩
  | .typeGetSizeOf => ⟨"clang_Type_getSizeOf", [.struct .type], some .int64, none⟩
  | .typeGetAlignOf => ⟨"clang_Type_getAlignOf", [.struct .type], some .int64, none⟩
  | .typeGetOffsetOf => ⟨"clang_Type_getOffsetOf", [.struct .type, .text], some .int64, none⟩
  | .commentGetKind => ⟨"clang_Comment_getKind", [.struct .comment], some .int32, none⟩
  | .commentGetNumChildren =>
    ⟨"clang_Comment_getNumChildren",
      [.struct .comment], some .uint32, none⟩
  | .commentGetChild =>
    ⟨"clang_Comment_getChild",
      [.struct .comment, .uint32], some (.struct .comment), none⟩
  | .textCommentGetText =>
    ⟨"clang_TextComment_getText",
      [.struct .comment], some (.struct .string), some .takeString⟩
  | .moduleGetASTFile => ⟨"clang_Module_getASTFile", [.wrapper .module], some .handle, some .file⟩
  | .moduleGetParent => ⟨"clang_Module_getParent", [.wrapper .module], some .handle, some .module⟩
  | .moduleGetName =>
    ⟨"clang_Module_getName",
      [.wrapper .module], some (.struct .string), some .takeString⟩
  | .moduleGetFullName =>
    ⟨"clang_Module_getFullName",
      [.wrapper .module], some (.struct .string), some .takeString⟩
  | .moduleIsSystem => ⟨"clang_Module_isSystem", [.wrapper .module], some .int32, none⟩
  | .disposeDiagnostic => ⟨"clang_disposeDiagnostic", [.wrapper .diagnostic], none, none⟩
  | .getDiagnosticSeverity =>
    ⟨"clang_getDiagnosticSeverity",
      [.wrapper .diagnostic], some .int32, none⟩
  | .getDiagnosticLocation =>
    ⟨"clang_getDiagnosticLocation",
      [.wrapper .diagnostic], some (.struct .sourceLocation), none⟩
  | .getDiagnosticSpelling =>
    ⟨"clang_getDiagnosticSpelling",
      [.wrapper .diagnostic], some (.struct .string), some .takeString⟩
  | .getDiagnosticOption =>
    ⟨"clang_getDiagnosticOption",
      [.wrapper .diagnostic, .pointer (.struct .string)], some (.struct .string), some .takeString⟩
  | .getDiagnosticNumRanges =>
    ⟨"clang_getDiagnosticNumRanges",
      [.wrapper .diagnostic], some .uint32, none⟩
  | .getDiagnosticRange =>
    ⟨"clang_getDiagnosticRange",
      [.wrapper .diagnostic, .uint32], some (.struct .sourceRange), none⟩
  | .getDiagnosticNumFixIts =>
    ⟨"clang_getDiagnosticNumFixIts",
      [.wrapper .diagnostic], some .uint32, none⟩
  | .getDiagnosticFixIt =>
    ⟨"clang_getDiagnosticFixIt",
      [.wrapper .diagnostic, .uint32, .pointer (.struct .sourceRange)], some (.struct .string),
       some .takeString⟩
  | .getDiagnosticCategory =>
    ⟨"clang_getDiagnosticCategory",
      [.wrapper .diagnostic], some .uint32, none⟩
  | .getDiagnosticCategoryText =>
    ⟨"clang_getDiagnosticCategoryText",
      [.wrapper .diagnostic], some (.struct .string), some .takeString⟩
  | .formatDiagnostic =>
    ⟨"clang_formatDiagnostic",
      [.wrapper .diagnostic, .uint32], some (.struct .string), some .takeString⟩
  | .defaultDiagnosticDisplayOptions =>
    ⟨"clang_defaultDiagnosticDisplayOptions",
      [], some .uint32, none⟩
  | .defaultCodeCompleteOptions => ⟨"clang_defaultCodeCompleteOptions", [], some .uint32, none⟩
  | .disposeCodeCompleteResults =>
    ⟨"clang_disposeCodeCompleteResults",
      [.pointer (.struct .codeCompleteResultsData)], none, none⟩
  | .sortCodeCompletionResults =>
    ⟨"clang_sortCodeCompletionResults",
      [.pointer (.struct .completionResult), .uint32], none, none⟩
  | .codeCompleteGetNumDiagnostics =>
    ⟨"clang_codeCompleteGetNumDiagnostics",
      [.pointer (.struct .codeCompleteResultsData)], some .uint32, none⟩
  | .codeCompleteGetDiagnostic =>
    ⟨"clang_codeCompleteGetDiagnostic",
      [.pointer (.struct .codeCompleteResultsData), .uint32], some .handle, some .diagnostic⟩
  | .codeCompleteGetContexts =>
    ⟨"clang_codeCompleteGetContexts",
      [.pointer (.struct .codeCompleteResultsData)], some .uint64, none⟩
  | .getCompletionPriority =>
    ⟨"clang_getCompletionPriority",
      [.wrapper .completionString], some .uint32, none⟩
  | .getCompletionAvailability =>
    ⟨"clang_getCompletionAvailability",
      [.wrapper .completionString], some .int32, none⟩
  | .getCompletionNumAnnotations =>
    ⟨"clang_getCompletionNumAnnotations",
      [.wrapper .completionString], some .uint32, none⟩
  | .getCompletionAnnotationAt =>
    ⟨"clang_getCompletionAnnotation",
      [.wrapper .completionString, .uint32], some (.struct .string), some .takeString⟩
  | .getCompletionParent =>
    ⟨"clang_getCompletionParent",
      [.wrapper .completionString, .voidPointer], some (.struct .string), some .takeString⟩
  | .getCompletionBriefComment =>
    ⟨"clang_getCompletionBriefComment",
      [.wrapper .completionString], some (.struct .string), some .takeString⟩
  | .getNumCompletionChunks =>
    ⟨"clang_getNumCompletionChunks",
      [.wrapper .completionString], some .uint32, none⟩
  | .getCompletionChunkText =>
    ⟨"clang_getCompletionChunkText",
      [.wrapper .completionString, .uint32], some (.struct .string), some .takeString⟩
  | .getCompletionChunkKind =>
    ⟨"clang_getCompletionChunkKind",
      [.wrapper .completionString, .uint32], some .int32, none⟩
  | .getCompletionChunkCompletionString =>
    ⟨"clang_getCompletionChunkCompletionString",
      [.wrapper .completionString, .uint32], some .handle, none⟩
  | .getNullCursor => ⟨"clang_getNullCursor", [], some (.struct .cursor), some .cursor⟩
  | .cursorIsNull => ⟨"clang_Cursor_isNull", [.struct .cursor], some .int32, none⟩
  | .equalCursors => ⟨"clang_equalCursors", [.struct .cursor, .struct .cursor], some .uint32, none⟩
  | .hashCursor => ⟨"clang_hashCursor", [.struct .cursor], some .uint32, none⟩
  | .getCursorSpelling =>
    ⟨"clang_getCursorSpelling",
      [.struct .cursor], some (.struct .string), some .takeString⟩
  | .getCursorDisplayName =>
    ⟨"clang_getCursorDisplayName",
      [.struct .cursor], some (.struct .string), some .takeString⟩
  | .getCursorUSR =>
    ⟨"clang_getCursorUSR",
      [.struct .cursor], some (.struct .string), some .takeString⟩
  | .getCursorLinkage => ⟨"clang_getCursorLinkage", [.struct .cursor], some .int32, none⟩
  | .getCursorAvailability => ⟨"clang_getCursorAvailability", [.struct .cursor], some .int32, none⟩
  | .getCursorPlatformAvailability =>
    ⟨"clang_getCursorPlatformAvailability",
      [.struct .cursor, .pointer .int32, .pointer (.struct .string), .pointer .int32,
       .pointer (.struct .string), .pointer (.struct .platformAvailability), .int32], some .int32,
       none⟩
  | .getCursorLanguage => ⟨"clang_getCursorLanguage", [.struct .cursor], some .int32, none⟩
  | .cursorGetTranslationUnit =>
    ⟨"clang_Cursor_getTranslationUnit",
      [.struct .cursor], some .handle, none⟩
  | .getDeclObjCTypeEncoding =>
    ⟨"clang_getDeclObjCTypeEncoding",
      [.struct .cursor], some (.struct .string), some .takeString⟩
  | .getCursorSemanticParent =>
    ⟨"clang_getCursorSemanticParent",
      [.struct .cursor], some (.struct .cursor), some .cursor⟩
  | .getCursorLexicalParent =>
    ⟨"clang_getCursorLexicalParent",
      [.struct .cursor], some (.struct .cursor), some .cursor⟩
  | .getOverriddenCursors =>
    ⟨"clang_getOverriddenCursors",
      [.struct .cursor, .pointer (.pointer (.struct .cursor)), .pointer .uint32], none, none⟩
  | .disposeOverriddenCursors =>
    ⟨"clang_disposeOverriddenCursors",
      [.pointer (.struct .cursor)], none, none⟩
  | .getIncludedFile => ⟨"clang_getIncludedFile", [.struct .cursor], some .handle, some .file⟩
  | .getCursorLocation =>
    ⟨"clang_getCursorLocation",
      [.struct .cursor], some (.struct .sourceLocation), none⟩
  | .getCursorExtent =>
    ⟨"clang_getCursorExtent",
      [.struct .cursor], some (.struct .sourceRange), none⟩
  | .getCursorType => ⟨"clang_getCursorType", [.struct .cursor], some (.struct .type), some .type⟩
  | .getTypedefDeclUnderlyingType =>
    ⟨"clang_getTypedefDeclUnderlyingType",
      [.struct .cursor], some (.struct .type), some .type⟩
  | .getEnumDeclIntegerType =>
    ⟨"clang_getEnumDeclIntegerType",
      [.struct .cursor], some (.struct .type), some .type⟩
  | .getEnumConstantDeclValue =>
    ⟨"clang_getEnumConstantDeclValue",
      [.struct .cursor], some .int64, none⟩
  | .getEnumConstantDeclUnsignedValue =>
    ⟨"clang_getEnumConstantDeclUnsignedValue",
      [.struct .cursor], some .uint64, none⟩
  | .getFieldDeclBitWidth => ⟨"clang_getFieldDeclBitWidth", [.struct .cursor], some .int32, none⟩
  | .cursorGetNumArguments => ⟨"clang_Cursor_getNumArguments", [.struct .cursor], some .int32, none⟩
  | .cursorGetArgument =>
    ⟨"clang_Cursor_getArgument",
      [.struct .cursor, .uint32], some (.struct .cursor), some .cursor⟩
  | .getCursorResultType =>
    ⟨"clang_getCursorResultType",
      [.struct .cursor], some (.struct .type), some .type⟩
  | .cursorIsBitField => ⟨"clang_Cursor_isBitField", [.struct .cursor], some .uint32, none⟩
  | .isVirtualBase => ⟨"clang_isVirtualBase", [.struct .cursor], some .uint32, none⟩
  | .getCXXAccessSpecifier => ⟨"clang_getCXXAccessSpecifier", [.struct .cursor], some .int32, none⟩
  | .getNumOverloadedDecls => ⟨"clang_getNumOverloadedDecls", [.struct .cursor], some .uint32, none⟩
  | .getOverloadedDecl =>
    ⟨"clang_getOverloadedDecl",
      [.struct .cursor, .uint32], some (.struct .cursor), some .cursor⟩
  | .getIBOutletCollectionType =>
    ⟨"clang_getIBOutletCollectionType",
      [.struct .cursor], some (.struct .type), some .type⟩
  | .visitChildren =>
    ⟨"clang_visitChildren",
      [.struct .cursor, .callback, .object], some .uint32, none⟩
  | .getCursorReferenced =>
    ⟨"clang_getCursorReferenced",
      [.struct .cursor], some (.struct .cursor), some .cursor⟩
  | .getCursorDefinition =>
    ⟨"clang_getCursorDefinition",
      [.struct .cursor], some (.struct .cursor), some .cursor⟩
  | .isCursorDefinition => ⟨"clang_isCursorDefinition", [.struct .cursor], some .uint32, none⟩
  | .getCanonicalCursor =>
    ⟨"clang_getCanonicalCursor",
      [.struct .cursor], some (.struct .cursor), some .cursor⟩
  | .cursorIsDynamicCall => ⟨"clang_Cursor_isDynamicCall", [.struct .cursor], some .int32, none⟩
  | .cursorGetReceiverType =>
    ⟨"clang_Cursor_getReceiverType",
      [.struct .cursor], some (.struct .type), some .type⟩
  | .cursorIsVariadic => ⟨"clang_Cursor_isVariadic", [.struct .cursor], some .uint32, none⟩
  | .cursorGetCommentRange =>
    ⟨"clang_Cursor_getCommentRange",
      [.struct .cursor], some (.struct .sourceRange), none⟩
  | .cursorGetRawCommentText =>
    ⟨"clang_Cursor_getRawCommentText",
      [.struct .cursor], some (.struct .string), some .takeString⟩
  | .cursorGetBriefCommentText =>
    ⟨"clang_Cursor_getBriefCommentText",
      [.struct .cursor], some (.struct .string), some .takeString⟩
  | .cursorGetParsedComment =>
    ⟨"clang_Cursor_getParsedComment",
      [.struct .cursor], some (.struct .comment), none⟩
  | .cursorGetModule => ⟨"clang_Cursor_getModule", [.struct .cursor], some .handle, some .module⟩
  | .cxxMethodIsPureVirtual =>
    ⟨"clang_CXXMethod_isPureVirtual",
      [.struct .cursor], some .uint32, none⟩
  | .cxxMethodIsStatic => ⟨"clang_CXXMethod_isStatic", [.struct .cursor], some .uint32, none⟩
  | .cxxMethodIsVirtual => ⟨"clang_CXXMethod_isVirtual", [.struct .cursor], some .uint32, none⟩
  | .getTemplateCursorKind => ⟨"clang_getTemplateCursorKind", [.struct .cursor], some .int32, none⟩
  | .getSpecializedCursorTemplate =>
    ⟨"clang_getSpecializedCursorTemplate",
      [.struct .cursor], some (.struct .cursor), some .cursor⟩
  | .getCursorReferenceNameRange =>
    ⟨"clang_getCursorReferenceNameRange",
      [.struct .cursor, .uint32, .uint32], some (.struct .sourceRange), none⟩
  | .getCursorCompletionString =>
    ⟨"clang_getCursorCompletionString",
      [.struct .cursor], some .handle, some .completionString⟩
  | .cursorGetOffsetOfField =>
    ⟨"clang_Cursor_getOffsetOfField",
      [.struct .cursor], some .int64, none⟩
  | .findReferencesInFile =>
    ⟨"clang_findReferencesInFile",
      [.struct .cursor, .wrapper .file, .struct .cursorAndRangeVisitor], some .int32, none⟩
  | .createCXCursorSet => ⟨"clang_createCXCursorSet", [], some .handle, none⟩
  | .disposeCXCursorSet => ⟨"clang_disposeCXCursorSet", [.wrapper .cursorSet], none, none⟩
  | .cxCursorSetContains =>
    ⟨"clang_CXCursorSet_contains",
      [.wrapper .cursorSet, .struct .cursor], some .uint32, none⟩
  | .cxCursorSetInsert =>
    ⟨"clang_CXCursorSet_insert",
      [.wrapper .cursorSet, .struct .cursor], some .uint32, none⟩
  | .getTypeDeclaration =>
    ⟨"clang_getTypeDeclaration",
      [.struct .type], some (.struct .cursor), some .cursor⟩
  | .getTokenKind => ⟨"clang_getTokenKind", [.struct .token], some .int32, none⟩
  | .getTokenSpelling =>
    ⟨"clang_getTokenSpelling",
      [.handle, .struct .token], some (.struct .string), some .takeString⟩
  | .getTokenLocation =>
    ⟨"clang_getTokenLocation",
      [.handle, .struct .token], some (.struct .sourceLocation), none⟩
  | .getTokenExtent =>
    ⟨"clang_getTokenExtent",
      [.handle, .struct .token], some (.struct .sourceRange), none⟩
  | .tokenize =>
    ⟨"clang_tokenize",
      [.handle, .struct .sourceRange, .pointer (.pointer (.struct .token)), .pointer .uint32],
       none, none⟩
  | .disposeTokens =>
    ⟨"clang_disposeTokens",
      [.handle, .pointer (.struct .token), .uint32], none, none⟩
  | .annotateTokens =>
    ⟨"clang_annotateTokens",
      [.handle, .pointer (.struct .token), .uint32, .pointer (.struct .cursor)], none, none⟩
  | .disposeTranslationUnit =>
    ⟨"clang_disposeTranslationUnit",
      [.wrapper .translationUnit], none, none⟩
  | .getTranslationUnitSpelling =>
    ⟨"clang_getTranslationUnitSpelling",
      [.wrapper .translationUnit], some (.struct .string), some .takeString⟩
  | .getTranslationUnitCursor =>
    ⟨"clang_getTranslationUnitCursor",
      [.wrapper .translationUnit], some (.struct .cursor), some .cursor⟩
  | .getFile => ⟨"clang_getFile", [.wrapper .translationUnit, .text], some .handle, some .file⟩
  | .isFileMultipleIncludeGuarded =>
    ⟨"clang_isFileMultipleIncludeGuarded",
      [.wrapper .translationUnit, .wrapper .file], some .uint32, none⟩
  | .getCursor =>
    ⟨"clang_getCursor",
      [.wrapper .translationUnit, .struct .sourceLocation], some (.struct .cursor), some .cursor⟩
  | .getLocation =>
    ⟨"clang_getLocation",
      [.wrapper .translationUnit, .wrapper .file, .uint32, .uint32],
       some (.struct .sourceLocation), none⟩
  | .getLocationForOffset =>
    ⟨"clang_getLocationForOffset",
      [.wrapper .translationUnit, .wrapper .file, .uint32], some (.struct .sourceLocation), none⟩
  | .getNumDiagnostics =>
    ⟨"clang_getNumDiagnostics",
      [.wrapper .translationUnit], some .uint32, none⟩
  | .getDiagnostic =>
    ⟨"clang_getDiagnostic",
      [.wrapper .translationUnit, .uint32], some .handle, some .diagnostic⟩
  | .defaultReparseOptions =>
    ⟨"clang_defaultReparseOptions",
      [.wrapper .translationUnit], some .uint32, none⟩
  | .defaultSaveOptions =>
    ⟨"clang_defaultSaveOptions",
      [.wrapper .translationUnit], some .uint32, none⟩
  | .reparseTranslationUnit =>
    ⟨"clang_reparseTranslationUnit",
      [.wrapper .translationUnit, .uint32, .pointer (.struct .unsavedFile), .uint32], some .int32,
       none⟩
  | .saveTranslationUnit =>
    ⟨"clang_saveTranslationUnit",
      [.wrapper .translationUnit, .text, .uint32], some .int32, none⟩
  | .codeCompleteAt =>
    ⟨"clang_codeCompleteAt",
      [.wrapper .translationUnit, .text, .uint32, .uint32, .pointer (.struct .unsavedFile),
       .uint32, .uint32], some (.pointer (.struct .codeCompleteResultsData)),
       some .codeCompleteResults⟩
  | .moduleGetNumTopLevelHeaders =>
    ⟨"clang_Module_getNumTopLevelHeaders",
      [.wrapper .translationUnit, .wrapper .module], some .uint32, none⟩
  | .moduleGetTopLevelHeader =>
    ⟨"clang_Module_getTopLevelHeader",
      [.wrapper .translationUnit, .wrapper .module, .uint32], some .handle, some .file⟩
  | .createIndex => ⟨"clang_createIndex", [.int32, .int32], some .handle, none⟩
  | .disposeIndex => ⟨"clang_disposeIndex", [.wrapper .index], none, none⟩
  | .cxIndexGetGlobalOptions =>
    ⟨"clang_CXIndex_getGlobalOptions",
      [.wrapper .index], some .uint32, none⟩
  | .cxIndexSetGlobalOptions =>
    ⟨"clang_CXIndex_setGlobalOptions",
      [.wrapper .index, .uint32], none, none⟩
  | .parseTranslationUnit =>
    ⟨"clang_parseTranslationUnit",
      [.wrapper .index, .text, .voidPointer, .int32, .pointer (.struct .unsavedFile), .uint32,
       .uint32], some .handle, none⟩
  | .createTranslationUnit =>
    ⟨"clang_createTranslationUnit",
      [.wrapper .index, .text], some .handle, none⟩
  | .createTranslationUnitFromSourceFile =>
    ⟨"clang_createTranslationUnitFromSourceFile",
      [.wrapper .index, .text, .int32, .voidPointer, .uint32, .pointer (.struct .unsavedFile)],
       some .handle, none⟩
  | .compilationDatabaseFromDirectory =>
    ⟨"clang_CompilationDatabase_fromDirectory",
      [.text, .pointer .uint32], some .handle, none⟩
  | .compilationDatabaseDispose => ⟨"clang_CompilationDatabase_dispose", [.handle], none, none⟩
  | .compilationDatabaseGetCompileCommands =>
    ⟨"clang_CompilationDatabase_getCompileCommands",
      [.wrapper .compilationDatabase, .text], some .handle, none⟩
  | .compilationDatabaseGetAllCompileCommands =>
    ⟨"clang_CompilationDatabase_getAllCompileCommands",
      [.wrapper .compilationDatabase], some .handle, none⟩
  | .compileCommandsDispose => ⟨"clang_CompileCommands_dispose", [.handle], none, none⟩
  | .compileCommandsGetSize =>
    ⟨"clang_CompileCommands_getSize",
      [.wrapper .compileCommands], some .uint32, none⟩
  | .compileCommandsGetCommand =>
    ⟨"clang_CompileCommands_getCommand",
      [.wrapper .compileCommands, .uint32], some .handle, none⟩
  | .compileCommandGetDirectory =>
    ⟨"clang_CompileCommand_getDirectory",
      [.wrapper .compileCommand], some (.struct .string), some .takeString⟩
  | .compileCommandGetFilename =>
    ⟨"clang_CompileCommand_getFilename",
      [.wrapper .compileCommand], some (.struct .string), some .takeString⟩
  | .compileCommandGetNumArgs =>
    ⟨"clang_CompileCommand_getNumArgs",
      [.wrapper .compileCommand], some .uint32, none⟩
  | .compileCommandGetArg =>
    ⟨"clang_CompileCommand_getArg",
      [.wrapper .compileCommand, .uint32], some (.struct .string), some .takeString⟩
  | .compileCommandGetNumMappedSources =>
    ⟨"clang_CompileCommand_getNumMappedSources",
      [.wrapper .compileCommand], some .uint32, none⟩
  | .compileCommandGetMappedSourcePath =>
    ⟨"clang_CompileCommand_getMappedSourcePath",
      [.wrapper .compileCommand, .uint32], some (.struct .string), some .takeString⟩
  | .compileCommandGetMappedSourceContent =>
    ⟨"clang_CompileCommand_getMappedSourceContent",
      [.wrapper .compileCommand, .uint32], some (.struct .string), some .takeString⟩

def symbol (f : Function) : String := f.signature.symbol

end Function

inductive Area
  | strings
  | library
  | cursorKinds
  | source
  | availability
  | types
  | comments
  | modules
  | diagnostics
  | completion
  | cursors
  | tokens
  | translationUnits
  | index
  | compilationDatabases
  deriving DecidableEq, Repr

namespace Area

def all : List Area := [
    .strings,
    .library,
    .cursorKinds,
    .source,
    .availability,
    .types,
    .comments,
    .modules,
    .diagnostics,
    .completion,
    .cursors,
    .tokens,
    .translationUnits,
    .index,
    .compilationDatabases]

def functions : Area → List Function
  | .strings => [
      .getCString, .disposeString]
  | .library => [
      .getClangVersion]
  | .cursorKinds => [
      .isDeclaration, .isReference, .isExpression, .isStatement, .isAttribute, .isInvalid,
      .isTranslationUnit, .isPreprocessing, .isUnexposed, .getCursorKindSpelling]
  | .source => [
      .getNullLocation, .equalLocations, .locationIsInSystemHeader, .locationIsFromMainFile,
      .getExpansionLocation, .getInstantiationLocation, .getSpellingLocation, .getFileLocation,
      .getPresumedLocation, .getNullRange, .getRange, .equalRanges, .rangeIsNull, .getRangeStart,
      .getRangeEnd, .getFileName, .getFileTime, .getFileUniqueID]
  | .availability => [
      .disposeCXPlatformAvailability]
  | .types => [
      .equalTypes, .getTypeSpelling, .getTypeKindSpelling, .getCanonicalType,
      .isConstQualifiedType, .isVolatileQualifiedType, .isRestrictQualifiedType, .getPointeeType,
      .getResultType, .isPODType, .getArrayElementType, .getArraySize,
      .getFunctionTypeCallingConv, .getNumArgTypes, .getArgType, .isFunctionTypeVariadic,
      .typeGetCXXRefQualifier, .typeGetSizeOf, .typeGetAlignOf, .typeGetOffsetOf]
  | .comments => [
      .commentGetKind, .commentGetNumChildren, .commentGetChild, .textCommentGetText]
  | .modules => [
      .moduleGetASTFile, .moduleGetParent, .moduleGetName, .moduleGetFullName, .moduleIsSystem]
  | .diagnostics => [
      .disposeDiagnostic, .getDiagnosticSeverity, .getDiagnosticLocation, .getDiagnosticSpelling,
      .getDiagnosticOption, .getDiagnosticNumRanges, .getDiagnosticRange, .getDiagnosticNumFixIts,
      .getDiagnosticFixIt, .getDiagnosticCategory, .getDiagnosticCategoryText, .formatDiagnostic,
      .defaultDiagnosticDisplayOptions]
  | .completion => [
      .defaultCodeCompleteOptions, .disposeCodeCompleteResults, .sortCodeCompletionResults,
      .codeCompleteGetNumDiagnostics, .codeCompleteGetDiagnostic, .codeCompleteGetContexts,
      .getCompletionPriority, .getCompletionAvailability, .getCompletionNumAnnotations,
      .getCompletionAnnotationAt, .getCompletionParent, .getCompletionBriefComment,
      .getNumCompletionChunks, .getCompletionChunkText, .getCompletionChunkKind,
      .getCompletionChunkCompletionString]
  | .cursors => [
      .getNullCursor, .cursorIsNull, .equalCursors, .hashCursor, .getCursorSpelling,
      .getCursorDisplayName, .getCursorUSR, .getCursorLinkage, .getCursorAvailability,
      .getCursorPlatformAvailability, .getCursorLanguage, .cursorGetTranslationUnit,
      .getDeclObjCTypeEncoding, .getCursorSemanticParent, .getCursorLexicalParent,
      .getOverriddenCursors, .disposeOverriddenCursors, .getIncludedFile, .getCursorLocation,
      .getCursorExtent, .getCursorType, .getTypedefDeclUnderlyingType, .getEnumDeclIntegerType,
      .getEnumConstantDeclValue, .getEnumConstantDeclUnsignedValue, .getFieldDeclBitWidth,
      .cursorGetNumArguments, .cursorGetArgument, .getCursorResultType, .cursorIsBitField,
      .isVirtualBase, .getCXXAccessSpecifier, .getNumOverloadedDecls, .getOverloadedDecl,
      .getIBOutletCollectionType, .visitChildren, .getCursorReferenced, .getCursorDefinition,
      .isCursorDefinition, .getCanonicalCursor, .cursorIsDynamicCall, .cursorGetReceiverType,
      .cursorIsVariadic, .cursorGetCommentRange, .cursorGetRawCommentText,
      .cursorGetBriefCommentText, .cursorGetParsedComment, .cursorGetModule,
      .cxxMethodIsPureVirtual, .cxxMethodIsStatic, .cxxMethodIsVirtual, .getTemplateCursorKind,
      .getSpecializedCursorTemplate, .getCursorReferenceNameRange, .getCursorCompletionString,
      .cursorGetOffsetOfField, .findReferencesInFile, .createCXCursorSet, .disposeCXCursorSet,
      .cxCursorSetContains, .cxCursorSetInsert, .getTypeDeclaration]
  | .tokens => [
      .getTokenKind, .getTokenSpelling, .getTokenLocation, .getTokenExtent, .tokenize,
      .disposeTokens, .annotateTokens]
  | .translationUnits => [
      .disposeTranslationUnit, .getTranslationUnitSpelling, .getTranslationUnitCursor, .getFile,
      .isFileMultipleIncludeGuarded, .getCursor, .getLocation, .getLocationForOffset,
      .getNumDiagnostics, .getDiagnostic, .defaultReparseOptions, .defaultSaveOptions,
      .reparseTranslationUnit, .saveTranslationUnit, .codeCompleteAt,
      .moduleGetNumTopLevelHeaders, .moduleGetTopLevelHeader]
  | .index => [
      .createIndex, .disposeIndex, .cxIndexGetGlobalOptions, .cxIndexSetGlobalOptions,
      .parseTranslationUnit, .createTranslationUnit, .createTranslationUnitFromSourceFile]
  | .compilationDatabases => [
      .compilationDatabaseFromDirectory, .compilationDatabaseDispose,
      .compilationDatabaseGetCompileCommands, .compilationDatabaseGetAllCompileCommands,
      .compileCommandsDispose, .compileCommandsGetSize, .compileCommandsGetCommand,
      .compileCommandGetDirectory, .compileCommandGetFilename, .compileCommandGetNumArgs,
      .compileCommandGetArg, .compileCommandGetNumMappedSources,
      .compileCommandGetMappedSourcePath, .compileCommandGetMappedSourceContent]

end Area

namespace Function

def all : List Function := Area.all.flatMap Area.functions

end Function

end ClangIndex.Native
