import EngineBridge.Engine.Column
import EngineBridge.Abi.Export
import EngineBridge.Log.Event

/-!
A prepared statement as the engine holds it, and the builder that assembles one. The last
identifier and the last transaction flag win, columns stay in the order in which they are added.
-/

namespace EngineBridge.Engine

open Abi (Side)
open Text (Bytes)

structure Statement where
  id : Bytes
  query : String
  confirmedLwt : Bool
  variableColumns : List Column
  resultColumns : List Column
  deriving Repr, DecidableEq

namespace Statement

def columns (st : Statement) : Side → List Column
  | .variables => st.variableColumns
  | .results => st.resultColumns

def ofQuery (query : String) : Statement := ⟨[], query, false, [], []⟩

def allocated (st : Statement) : Log.Event where
  level := .debug
  target := "cqlbridge_native::statement"
  text := "prepared statement allocated"
  fields := [("query", .shown st.query), ("variables", .number st.variableColumns.length),
    ("lwt", .flag st.confirmedLwt)]

def releasing (st : Statement) : Log.Event where
  level := .debug
  target := "cqlbridge_native::statement"
  text := "releasing prepared statement"
  fields := [("query", .shown st.query)]

end Statement

inductive BuildStep
  | id (bytes : Bytes)
  | lwt (confirmed : Bool)
  | variable (c : Column)
  | result (c : Column)
  deriving Repr, DecidableEq

def BuildStep.apply (st : Statement) : BuildStep → Statement
  | .id bytes => { st with id := bytes }
  | .lwt confirmed => { st with confirmedLwt := confirmed }
  | .variable c => { st with variableColumns := st.variableColumns ++ [c] }
  | .result c => { st with resultColumns := st.resultColumns ++ [c] }

def Statement.build (st : Statement) (steps : List BuildStep) : Statement :=
  steps.foldl BuildStep.apply st

end EngineBridge.Engine
