/-!
# Failures

A `Failure` is the cause for which reading, transforming or generating stops, and
`Failure.message?` its wording, for the causes that are reported in words.  A `Mismatch` is
a way in which a selection does not fit the schema it is read against.
-/

namespace GraphScribe

/-- A way in which a selection does not fit the schema. -/
inductive Mismatch where
  | undeclaredField (typeName fieldName : String)
  | selectionMissing (typeName fieldName base : String)
  | selectionOnLeaf (typeName fieldName base : String)
  | inlineFragmentOnLeaf (typeName : String)
  | fragmentOnLeaf (fragment typeName : String)
  | noRootType (operation : String)
  | unknownVariableType (variableName typeName : String)
deriving DecidableEq

namespace Mismatch

/-- The type at fault. -/
def typeName? : Mismatch → Option String
  | undeclaredField t _ => some t
  | selectionMissing t _ _ => some t
  | selectionOnLeaf t _ _ => some t
  | inlineFragmentOnLeaf t => some t
  | fragmentOnLeaf _ t => some t
  | noRootType _ => none
  | unknownVariableType _ t => some t

/-- The field at fault. -/
def fieldName? : Mismatch → Option String
  | undeclaredField _ f => some f
  | selectionMissing _ f _ => some f
  | selectionOnLeaf _ f _ => some f
  | _ => none

/-- What is wrong, in words. -/
def reason : Mismatch → String
  | undeclaredField t f => "type '" ++ t ++ "' has no field '" ++ f ++ "'"
  | selectionMissing _ _ base => "field of composite type '" ++ base ++ "' needs a selection set"
  | selectionOnLeaf _ _ base => "leaf type '" ++ base ++ "' cannot have a selection set"
  | inlineFragmentOnLeaf t => "inline fragment on non-composite type '" ++ t ++ "'"
  | fragmentOnLeaf f t => "fragment '" ++ f ++ "' is defined on non-composite type '" ++ t ++ "'"
  | noRootType op => "schema does not define a " ++ op ++ " root type"
  | unknownVariableType v t => "unknown type '" ++ t ++ "' for variable '$" ++ v ++ "'"

end Mismatch

/-- The cause for which an operation of the library stops. -/
inductive Failure where
  /-- A spread names a fragment that nobody defines. -/
  | missingFragment (fragment site : String)
  /-- A selection does not fit the schema. -/
  | mismatch (cause : Mismatch) (site : String)
  /-- Two things that are generated ask for one name. -/
  | nameTaken (name scope : String)
  /-- The configuration file holds something else than an object. -/
  | configNotObject (path : String)
  /-- There are no schema files at a path. -/
  | noSchemaFiles (path : String)
  /-- Something that is no type reference was given as one. -/
  | notATypeReference (sort : String)
  /-- A text that is not GraphQL. -/
  | notGraphQL
  /-- A text that is not JSON. -/
  | notJson
  /-- An integer with too many digits. -/
  | numeralTooLong
  /-- Lists and objects that are nested too deep. -/
  | nestedTooDeep
  /-- A schema whose definitions do not fit together, or that is incomplete. -/
  | invalidSchema
  /-- Such a schema, read from files. -/
  | rejectedSchema
  /-- A value or a name that the schema does not admit where it stands. -/
  | inadmissibleValue
  /-- A default value that has no literal. -/
  | unprintableDefault
  /-- A key that has to be present. -/
  | keyMissing (key : String)
  /-- A setting of the wrong form, or one that does not exist. -/
  | invalidSetting
  /-- Settings that do not come in pairs. -/
  | unpairedSettings
  /-- An attribute that a value does not have. -/
  | attributeMissing
  /-- An operand of a sort for which the operation is not defined. -/
  | wrongOperand
  /-- A template that is not well formed. -/
  | templateMalformed
  /-- A template that uses a filter that does not exist. -/
  | unknownFilter
  /-- A template that takes a variable with a meaning of its own. -/
  | variableTaken
  /-- A template whose pieces are nested too deep. -/
  | templateTooDeep
  /-- A template whose loops are nested too deep, or whose parameters look alike. -/
  | templateUnusable
  /-- A filter that does not exist, met while rendering. -/
  | unknownFilterUsed
  /-- A template that does not exist. -/
  | templateMissing
  /-- A choice of templates none of which exists. -/
  | noTemplateFound
  /-- The use of a template variable that does not exist. -/
  | undefinedUsed
  /-- A template that includes itself without end. -/
  | endlessTemplate
  /-- A directory where a file was wanted. -/
  | isADirectory
  /-- A file where a directory was wanted. -/
  | fileExists
  /-- A path that leads through a file. -/
  | notADirectory
  /-- A path that leads nowhere. -/
  | fileMissing
  /-- A path that no file can have. -/
  | malformedPath
  /-- A path with a name that no file system takes. -/
  | nameTooLong
  /-- A text that has no encoding. -/
  | unencodable
deriving DecidableEq

namespace Failure

/-- The wording of a failure. -/
def message? : Failure → Option String
  | missingFragment f site => some ("Unknown fragment '" ++ f ++ "' spread at " ++ site)
  | mismatch cause site => some ("Cannot transform selection at " ++ site ++ ": " ++ cause.reason)
  | nameTaken name scope => some ("Name '" ++ name ++ "' is already used in " ++ scope)
  | configNotObject path => some ("Config file " ++ path ++ " must contain a JSON object")
  | noSchemaFiles path => some ("No schema files found at " ++ path)
  | notATypeReference sort => some ("Expected a GraphQL type or type node, got " ++ sort)
  | _ => none

end Failure

end GraphScribe
