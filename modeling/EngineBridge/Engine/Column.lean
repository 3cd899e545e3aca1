import EngineBridge.Abi.View

/-!
Metadata of one bind variable or result column, and the form in which an engine hands it over:
three text views and a type number.
-/

namespace EngineBridge.Engine

open Abi (View)

structure Column where
  keyspace : String
  table : String
  name : String
  typeCode : UInt16
  deriving Repr, DecidableEq

structure RawColumn where
  keyspace : View
  table : View
  name : View
  typeCode : UInt16
  deriving Repr, DecidableEq

def View.ofText (s : String) : View := .bytes (Text.Utf8.encode s)

def Column.raw (c : Column) : RawColumn :=
  ⟨View.ofText c.keyspace, View.ofText c.table, View.ofText c.name, c.typeCode⟩

/-- One call of the setter: `lost` when the engine passes no target. -/
structure Delivery where
  index : UInt64
  column : RawColumn
  lost : Bool
  deriving Repr, DecidableEq

end EngineBridge.Engine
