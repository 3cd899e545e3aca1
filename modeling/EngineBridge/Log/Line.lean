import EngineBridge.Log.Filter
import EngineBridge.Text.Quoted

/-!
The lines that a subscriber prints, one for each event that its filter admits.
-/

namespace EngineBridge.Log

def FieldValue.print : FieldValue → String
  | .quoted s => Text.quoted s
  | .shown s => s
  | .number n => toString n
  | .flag b => toString b
  | .handle h => h.debug

/-- A field as it is printed; one called `message` is printed without its name. -/
def printField : String × FieldValue → String
  | ("message", .quoted s) => " " ++ s
  | (name, v) => " " ++ name ++ "=" ++ v.print

def Event.line (e : Event) : String :=
  e.level.name ++ " " ++ e.target ++ ": " ++ e.text ++ String.join (e.fields.map printField)

def Filter.lines (f : Filter) (events : List Event) : List String :=
  (events.filter f.admits).map Event.line

end EngineBridge.Log
