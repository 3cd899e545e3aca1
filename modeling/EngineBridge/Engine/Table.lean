import EngineBridge.Abi.Layout
import EngineBridge.Engine.Entry
import EngineBridge.Engine.Ledger
import EngineBridge.Facade.Step

/-!
The table of functions through which an engine is called. A function is given by its replies: the
`n`-th call of an entry point gets the `n`-th reply. A reply says which steps the engine makes the
caller run while the call is open, what is logged, what is written to the out-parameter and what
is returned.
-/

namespace EngineBridge.Engine

open Abi (Layout RawResult Side View)
open Facade (Step)

structure Reply (α : Type) where
  reenter : List Step
  events : List Log.Event
  written : Option α
  result : RawResult

structure Table where
  layout : Layout
  freeString : Ledger → Nat → Ledger
  free : Nat → Option Payload → Release
  isLwt : Nat → Reply UInt8
  variablesCount : Nat → Reply UInt64
  resultCount : Nat → Reply UInt64
  fillVariables : Nat → Reply (List Delivery)
  fillResult : Nat → Reply (List Delivery)
  id : Nat → Reply View

namespace Table

def count (t : Table) : Side → Nat → Reply UInt64
  | .variables => t.variablesCount
  | .results => t.resultCount

def fill (t : Table) : Side → Nat → Reply (List Delivery)
  | .variables => t.fillVariables
  | .results => t.fillResult

end Table

def Reply.of {α : Type} (c : Concluded) (written : Option α) : Reply α :=
  ⟨[], c.events, written, c.result⟩

/-- The in-tree engine seen through the live handle of a statement, with an out-parameter that
holds `before`. -/
def Reply.ofEntry {α : Type} (entry : Option Statement → Option α → Concluded × Option α)
    (st : Statement) (before : α) : Reply α :=
  let (c, out) := entry (some st) (some before)
  .of c out

def Reply.ofFill (side : Side) (st : Statement) : Reply (List Delivery) :=
  let (c, columns) := Engine.fill side (some st) true
  .of c (some columns)

def Table.ofStatement (st : Statement) : Table where
  layout := .current
  freeString := Ledger.giveBack
  free _ sink := Engine.free (some st) sink
  isLwt _ := .ofEntry Engine.isLwt st 0
  variablesCount _ := .ofEntry (Engine.count .variables) st 0
  resultCount _ := .ofEntry (Engine.count .results) st 0
  fillVariables _ := .ofFill .variables st
  fillResult _ := .ofFill .results st
  id _ := .ofEntry Engine.id st .empty

end EngineBridge.Engine
