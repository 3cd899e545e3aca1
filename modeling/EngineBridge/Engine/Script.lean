import EngineBridge.Engine.Table

/-!
Scripted engines. Each entry point has a list of replies; the last one repeats, and where there is
none the entry point succeeds and writes nothing.
-/

namespace EngineBridge.Engine

open Abi (Layout RawResult View)

def Reply.silent {α : Type} : Reply α := ⟨[], [], none, .success⟩

/-- The `n`-th element, the last one standing for all that follow. -/
def nth {α : Type} (default : α) (replies : List α) (n : Nat) : α :=
  replies[min n (replies.length - 1)]?.getD default

structure Script where
  layout : Layout
  isLwt : List (Reply UInt8)
  variablesCount : List (Reply UInt64)
  resultCount : List (Reply UInt64)
  fillVariables : List (Reply (List Delivery))
  fillResult : List (Reply (List Delivery))
  id : List (Reply View)
  free : List RawResult

namespace Script

def silent : Script := ⟨.current, [], [], [], [], [], [], []⟩

def table (s : Script) : Table where
  layout := s.layout
  freeString := Ledger.giveBack
  free n sink := ⟨nth .success s.free n, [], sink, 1⟩
  isLwt := nth .silent s.isLwt
  variablesCount := nth .silent s.variablesCount
  resultCount := nth .silent s.resultCount
  fillVariables := nth .silent s.fillVariables
  fillResult := nth .silent s.fillResult
  id := nth .silent s.id

/-- How deep re-entry can nest in a run that ends. Along a chain of open engine calls the position
in each list, the disposal and the two cached counts only ever advance, and between two advances
no entry point can recur. -/
def depth (s : Script) : Nat :=
  6 * (s.isLwt.length + s.variablesCount.length + s.resultCount.length + s.fillVariables.length +
    s.fillResult.length + s.id.length + 4)

end Script

end EngineBridge.Engine
