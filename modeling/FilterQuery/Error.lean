import FilterQuery.Scalar

set_option autoImplicit false
set_option relaxedAutoImplicit false

/-!
Everything that can go wrong, by its cause, and the message for each cause.
-/

namespace FilterQuery

open FilterQuery.Scalar (Kind)

/-- Why a query text is refused. -/
inductive SyntaxFault
  | emptyClause
  | emptyValue
  | missingEquals (clause : String)
  | unrecognizedClause (key : String)
  | invalidPath (path : String)
  | invalidOperator (token : String)
  | notInteger (raw : String)
  | integerTooLarge (raw : String)
  deriving DecidableEq

def SyntaxFault.message : SyntaxFault → String
  | .emptyClause => "empty clause"
  | .emptyValue => "empty value"
  | .missingEquals clause => s!"expected `=` in clause `{clause}`"
  | .unrecognizedClause key => s!"unrecognized clause `{key}`"
  | .invalidPath path => s!"invalid attribute path `{path}`"
  | .invalidOperator token => s!"invalid operator token `{token}`"
  | .notInteger raw => s!"expected an integer, got `{raw}`"
  | .integerTooLarge raw => s!"integer `{raw}` out of range: number too large to fit in target type"

/-- Why a filter document or the options beside it are refused. -/
inductive DocumentFault
  | notAnObject
  | groupNotAnArray (operator : String)
  | noOperators (path : String)
  | notAnArray (operator : String)
  | notABoolean
  | notAScalar (path : String)
  | sortNotAnObject
  | badDirection (field : String)
  | notAnInteger (option : String)
  deriving DecidableEq

def DocumentFault.message : DocumentFault → String
  | .notAnObject => "top-level filter must be an object"
  | .groupNotAnArray operator => s!"{operator} value must be an array"
  | .noOperators path => s!"empty operator object for field {path}"
  | .notAnArray operator => s!"{operator} expects an array"
  | .notABoolean => "$exists expects a boolean"
  | .notAScalar path => s!"value for {path} must be a scalar"
  | .sortNotAnObject => "sort must be an object"
  | .badDirection field => s!"sort direction for {field} must be 1 or -1"
  | .notAnInteger option => s!"{option} must be an integer"

/-- Why a list of entities is no schema. -/
inductive SchemaFault
  | duplicateEntity (name : String)
  | identifierMissing (identifier entity : String)
  | unknownTarget (entity relation target : String)
  | columnsMissing (entity relation : String)
  deriving DecidableEq

def SchemaFault.message : SchemaFault → String
  | .duplicateEntity name => s!"duplicate entity type `{name}`"
  | .identifierMissing identifier entity =>
    s!"identifier `{identifier}` of `{entity}` is not an attribute"
  | .unknownTarget entity relation target =>
    s!"relation `{entity}.{relation}` targets unknown type `{target}`"
  | .columnsMissing entity relation =>
    s!"relation `{entity}.{relation}` needs `local` and `foreign` join columns"

/-- Everything that can go wrong. -/
inductive Error
  | query (offset : Nat) (fault : SyntaxFault)
  | unknownAttribute (entity path : String)
  /-- A sort key with more than one value per record. -/
  | unsortable (entity path : String)
  | unsupportedOperator (token : String)
  /-- A path into a structured value with an empty key. -/
  | emptyKey (path : String)
  /-- A structured value held as text that is not a document. -/
  | undecodable (path : String)
  | unknownEntity (name : String)
  | invalidValue (kind : Kind) (raw : String)
  | document (fault : DocumentFault)
  /-- A pattern whose regular expression cannot be built. -/
  | pattern (raw reason : String)
  | schema (fault : SchemaFault)
  /-- Data of the wrong form. -/
  | malformedData
  /-- A configuration text of the wrong form. -/
  | malformedConfiguration
  | unreadableFile
  deriving DecidableEq

def Error.message : Error → String
  | .query offset fault => s!"syntax error at offset {offset}: " ++ fault.message
  | .unknownAttribute entity path => s!"unknown attribute `{path}` on `{entity}`"
  | .unsortable entity path => s!"sort key `{path}` on `{entity}` crosses a to-many relation"
  | .unsupportedOperator token => s!"unsupported operator: {token}"
  | .emptyKey path => s!"malformed structured value at `{path}`: empty key segment"
  | .undecodable path => s!"malformed structured value at `{path}`"
  | .unknownEntity name => s!"unknown resource type: {name}"
  | .invalidValue kind raw => "invalid " ++ kind.name ++ s!" value `{raw}`"
  | .document fault => "invalid filter: " ++ fault.message
  | .pattern raw reason => s!"invalid filter: pattern `{raw}`: {reason}"
  | .schema fault => "schema error: " ++ fault.message
  | .malformedData => "malformed data"
  | .malformedConfiguration => "malformed configuration"
  | .unreadableFile => "unreadable file"

end FilterQuery
