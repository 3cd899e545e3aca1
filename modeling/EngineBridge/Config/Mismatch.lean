import EngineBridge.Decimal.Shortest
import EngineBridge.Text.Quoted

/-!
The ways in which a well-formed document is not a configuration, with their wording.
-/

namespace EngineBridge.Config

inductive Found
  | unit
  | bool (b : Bool)
  | integer (n : Int)
  | float (bits : UInt64)
  | text (s : String)
  | sequence
  | map
  deriving Repr, DecidableEq

def Found.message : Found → String
  | unit => "unit value"
  | bool b => "boolean `" ++ (if b then "true" else "false") ++ "`"
  | integer n => "integer `" ++ toString n ++ "`"
  | float bits => "floating point `" ++ Decimal.ofBits bits ++ "`"
  | text s => "string " ++ Text.quoted s
  | sequence => "sequence"
  | map => "map"

inductive Expected
  | settings
  | fieldName
  | path
  | text
  deriving Repr, DecidableEq

def Expected.message : Expected → String
  | settings => "struct BridgeConfig"
  | fieldName => "field identifier"
  | path => "path string"
  | text => "a string"

inductive Mismatch
  | unknownField (name : String)
  | duplicateField (name : String)
  | wrongType (found : Found) (expected : Expected)
  deriving Repr, DecidableEq

def Mismatch.message : Mismatch → String
  | unknownField name =>
    "unknown field `" ++ name ++ "`, expected `native_library` or `log_filter`"
  | duplicateField name => "duplicate field `" ++ name ++ "`"
  | wrongType found expected =>
    "invalid type: " ++ found.message ++ ", expected " ++ expected.message

end EngineBridge.Config
