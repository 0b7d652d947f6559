import RecordQuery.Json.Printer
import RecordQuery.Text.Percent
import RecordQuery.Window.Literal

/-!
# RecordQuery.Window.Query — windows as query strings

The parameters of a window in a fixed order, each a name and a percent-encoded value.  What asks for
nothing has no parameter, and every selected field has one of its own.
-/

namespace RecordQuery.Window

/-- The names and values of a window's parameters. -/
def parameters (w : Window) : List (String × List Char) :=
  (match w.limit with
    | some limit => [("limit", Numeral.digits limit.toNat)]
    | none => [])
  ++ (if w.offset = 0 then [] else [("offset", Numeral.digits w.offset.toNat)])
  ++ (if w.sortOrder.isEmpty then [] else [("sortOrder", (SortOrder.text w.sortOrder).toList)])
  ++ (match w.filter with
    | some f => [("filter", f.toJson.text)]
    | none => [])
  ++ w.fields.map fun field => ("field", field.toList)

/-- A parameter as it stands in a query string. -/
def parameterText (parameter : String × List Char) : List Char :=
  parameter.1.toList ++ '=' :: Text.percentEncode parameter.2

/-- The query string of a window. -/
def toQuery (w : Window) : String :=
  String.ofList (['&'].intercalate (w.parameters.map parameterText))

end RecordQuery.Window
