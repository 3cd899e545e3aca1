import EngineBridge.Abi.Export
import EngineBridge.Engine.Column
import EngineBridge.Error

/-!
What a caller does with a prepared statement or with a bare guard, as a finite tree. An operation
that hands control back to the caller while it is open carries the steps run at that moment: a
column visitor has them for single columns, a guarded call for its body. Such a list of steps may
end in a panic.
-/

namespace EngineBridge.Facade

open Abi (Side)

inductive Query
  | isLwt
  | count (side : Side)
  | specs (side : Side)
  | id
  deriving Repr, DecidableEq

def Query.entry : Query → Abi.Export
  | isLwt => .isLwt
  | count side => .count side
  | specs side => .fill side
  | id => .id

mutual

inductive Step
  | query (q : Query)
  | fill (side : Side) (visits : List Visit)
  | race (q : Query) (threads calls : Nat) (disposing : Bool)
  | dispose
  | debug
  | call (body : List Step) (panic : Option Payload) (result : Except Error String)
  | disposeGuard
  | debugGuard
  | inFlight
  | isDisposed
  | origin
  | sinkPanics (p : Payload) (s : Step)

inductive Visit
  | mk (column : Nat) (body : List Step) (panic : Option Payload)

end

inductive Place
  | engine (e : Abi.Export)
  | column (index : Nat)
  | body
  deriving Repr, DecidableEq

inductive Reading
  | unit
  | flag (b : Bool)
  | count (n : Nat)
  | columns (cs : List Engine.Column)
  | bytes (bs : Text.Bytes)
  | text (s : String)
  deriving Repr, DecidableEq

inductive Result
  | plain (o : Outcome Reading)
  | filled (o : Outcome Reading) (seen : List Engine.Column)
  | raced (each : Outcome Reading) (unexpected : Nat)
  deriving Repr, DecidableEq

inductive Answer
  | mk (result : Result) (disposed : Bool) (inFlight releases : Nat)
      (nested : List (Place × List Answer))

namespace Answer

def disposed : Answer → Bool | mk _ b _ _ _ => b
def inFlight : Answer → Nat | mk _ _ n _ _ => n
def releases : Answer → Nat | mk _ _ _ n _ => n
def nested : Answer → List (Place × List Answer) | mk _ _ _ _ n => n

end Answer

end EngineBridge.Facade
