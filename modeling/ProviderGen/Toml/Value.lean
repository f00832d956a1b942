import ProviderGen.Decimal.Shortest
import ProviderGen.Text.Quoted

/-!
The values of a TOML document. Tables list their entries in the order of the document; no key
occurs twice in a table that was read from a document.
-/

namespace ProviderGen.Toml

inductive Value where
  | text (content : String)
  | integer (number : Int)
  | float (number : Decimal.Double)
  | boolean (flag : Bool)
  | dateTime
  | array (items : List Value)
  | table (entries : List (String × Value))

def Value.description : Value → String
  | .text content => "string " ++ Text.quoted content
  | .integer number => "integer `" ++ toString number ++ "`"
  | .float number => "floating point `" ++ number.text ++ "`"
  | .boolean true => "boolean `true`"
  | .boolean false => "boolean `false`"
  | .dateTime => "map"
  | .array _ => "sequence"
  | .table _ => "map"

end ProviderGen.Toml
