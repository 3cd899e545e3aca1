import EngineBridge.Abi.RawResult
import EngineBridge.Engine.Statement
import EngineBridge.Error

/-!
The entry points of the in-tree engine. Every body ends in one of three ways and each of them is
turned into a raw result, so that no panic leaves an entry point. An out-parameter is written only
by a body that succeeds, and the handle is examined before the out-parameter.
-/

namespace EngineBridge.Engine

open Abi (ErrorCode Export RawResult Side View)

structure Refusal where
  code : ErrorCode
  message : String
  deriving Repr, DecidableEq

def Refusal.display (r : Refusal) : String := r.code.display ++ ": " ++ r.message

def Refusal.nullArgument (what : String) : Refusal := ⟨.invalidArgument, what ++ " is null"⟩

inductive Ending
  | done
  | refused (r : Refusal)
  | panicked (p : Payload)
  deriving Repr, DecidableEq

structure Concluded where
  result : RawResult
  events : List Log.Event
  deriving Repr, DecidableEq

def conclude (entryPoint : String) : Ending → Concluded
  | .done => ⟨.success, []⟩
  | .refused r =>
    ⟨.failure r.code r.message,
      [{ level := .debug
         target := "cqlbridge_native::boundary"
         text := "entry point rejected call: " ++ r.message
         fields := [("entry_point", .quoted entryPoint), ("code", .number r.code.raw.toInt)] }]⟩
  | .panicked p =>
    ⟨.failure .internal ("engine panicked in " ++ entryPoint ++ ": " ++ p.message),
      [{ level := .error
         target := "cqlbridge_native::boundary"
         text := "engine panicked: " ++ p.message
         fields := [("entry_point", .quoted entryPoint)] }]⟩

def noStatement : Refusal := .nullArgument "prepared statement handle"

def report {α : Type} (e : Export) (what : String) (value : Statement → α)
    (st : Option Statement) (out : Option α) : Concluded × Option α :=
  match st, out with
  | none, _ => (conclude e.symbol (.refused noStatement), out)
  | some _, none => (conclude e.symbol (.refused (.nullArgument what)), none)
  | some st, some _ => (conclude e.symbol .done, some (value st))

def isLwt : Option Statement → Option UInt8 → Concluded × Option UInt8 :=
  report .isLwt "is_lwt out-parameter" fun st => Abi.encodeBool st.confirmedLwt

def count (side : Side) : Option Statement → Option UInt64 → Concluded × Option UInt64 :=
  report (.count side) "count out-parameter" fun st => (st.columns side).length.toUInt64

def id : Option Statement → Option View → Concluded × Option View :=
  report .id "id out-parameter" fun st => .bytes st.id

def deliveries (columns : List Column) : List Delivery :=
  columns.mapIdx fun i c => ⟨i.toUInt64, c.raw, false⟩

def fill (side : Side) (st : Option Statement) (setter : Bool) : Concluded × List Delivery :=
  match st, setter with
  | none, _ => (conclude (Export.fill side).symbol (.refused noStatement), [])
  | some _, false =>
    (conclude (Export.fill side).symbol (.refused (.nullArgument "column spec setter")), [])
  | some st, true => (conclude (Export.fill side).symbol .done, deliveries (st.columns side))

/-- How a release ends. `sink` is the panic that is still in store for the next log event which
announces a release, and `drops` counts the statements given up. -/
structure Release where
  result : RawResult
  events : List Log.Event
  sink : Option Payload
  drops : Nat
  deriving Repr, DecidableEq

/-- Takes the statement over before anything is logged, so it is given up however the logging
ends. -/
def free (st : Option Statement) (sink : Option Payload) : Release :=
  match st, sink with
  | none, _ =>
    let c := conclude Export.free.symbol (.refused noStatement)
    ⟨c.result, c.events, sink, 0⟩
  | some st, none => ⟨(conclude Export.free.symbol .done).result, [st.releasing], none, 1⟩
  | some st, some p =>
    let c := conclude Export.free.symbol (.panicked p)
    ⟨c.result, st.releasing :: c.events, none, 1⟩

end EngineBridge.Engine
