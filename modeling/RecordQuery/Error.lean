import RecordQuery.Decode
import RecordQuery.Json.Syntax
import RecordQuery.Path.Parser
import RecordQuery.Text.Pattern

/-!
# RecordQuery.Error — what can be wrong with a query

Records are never wrong: data of an unexpected shape fails to match.  Every error is a fault of the
query's description, given here by its cause; the wording is one function of the cause.
-/

namespace RecordQuery

/-- Why a literal is no filter or window. -/
inductive LiteralFault where
  /-- Its text is no JSON text. -/
  | text (fault : Json.SyntaxFault)
  /-- It has the wrong form. -/
  | form (fault : DecodeError)
deriving DecidableEq

/-- An error of a query's description. -/
inductive QueryError where
  | invalidPath (error : PathError)
  | patternTooLarge
  | unknownFilterType (tag : String)
  | unknownOperation (name : String)
  | invalidSortField (text : String)
  | invalidFilter (fault : LiteralFault)
deriving DecidableEq

/-- The wording of a literal's fault. -/
def LiteralFault.message : LiteralFault → String
  | text fault => fault.message
  | form fault => fault.message

/-- The wording of an error. -/
def QueryError.message : QueryError → String
  | invalidPath error => "invalid field path '" ++ error.text ++ "': " ++ error.fault.message
  | patternTooLarge =>
    "invalid pattern: Compiled regex exceeds size limit of "
      ++ Numeral.string Text.Pattern.sizeLimit ++ " bytes."
  | unknownFilterType tag => "unknown filter type '" ++ tag ++ "'"
  | unknownOperation name => "unknown logical operation '" ++ name ++ "'"
  | invalidSortField text => "invalid sort field '" ++ text ++ "'"
  | invalidFilter fault => "invalid filter literal: " ++ fault.message

end RecordQuery
