import EngineBridge.Abi.Handle

/-!
Log events: a level, the module path that emits the event, a text and named fields. A field
remembers how it is shown, because a printed line quotes some values and not others.
-/

namespace EngineBridge.Log

inductive Level
  | error
  | warn
  | info
  | debug
  | trace
  deriving Repr, DecidableEq

namespace Level

def rank : Level → Nat
  | error => 1
  | warn => 2
  | info => 3
  | debug => 4
  | trace => 5

def name : Level → String
  | error => "ERROR"
  | warn => "WARN"
  | info => "INFO"
  | debug => "DEBUG"
  | trace => "TRACE"

end Level

inductive FieldValue
  | quoted (text : String)
  | shown (text : String)
  | number (n : Int)
  | flag (b : Bool)
  | handle (h : Abi.Handle)
  deriving Repr, DecidableEq

structure Event where
  level : Level
  target : String
  text : String
  fields : List (String × FieldValue)
  deriving Repr, DecidableEq

end EngineBridge.Log
