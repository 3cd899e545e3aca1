/-!
The functions that an engine exports and the stable names under which it does so.
-/

namespace EngineBridge.Abi

inductive Side
  | variables
  | results
  deriving Repr, DecidableEq

inductive Export
  | layout
  | freeString
  | free
  | isLwt
  | count (side : Side)
  | fill (side : Side)
  | id
  deriving Repr, DecidableEq

namespace Export

/-- Every export, in the order in which a library is searched for them. -/
def required : List Export :=
  [layout, freeString, free, isLwt, count .variables, count .results, fill .variables,
    fill .results, id]

def symbol : Export → String
  | layout => "bridge_abi_layout"
  | freeString => "bridge_string_free"
  | free => "prepared_statement_free"
  | isLwt => "prepared_statement_is_lwt"
  | count .variables => "prepared_statement_get_variables_column_specs_count"
  | count .results => "prepared_statement_get_result_column_specs_count"
  | fill .variables => "prepared_statement_fill_variables_column_specs"
  | fill .results => "prepared_statement_fill_result_column_specs"
  | id => "prepared_statement_get_id"

def ofSymbol? (s : String) : Option Export := required.find? (·.symbol == s)

theorem mem_required (e : Export) : e ∈ required := by
  cases e with
  | count s => cases s <;> decide
  | fill s => cases s <;> decide
  | _ => decide

end Export

end EngineBridge.Abi
