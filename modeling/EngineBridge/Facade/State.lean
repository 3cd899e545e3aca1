import EngineBridge.Engine.Table
import EngineBridge.Guard.Word
import EngineBridge.Text.Quoted

/-!
The state of one guarded resource over one engine: the guard's word, the two cached counts, the
engine calls made so far, the messages on loan, the log and the trail of what went through the
guard. Beside it stands what does not change: the table of engine functions, the resource's names
and its handle.
-/

namespace EngineBridge.Facade

open Abi (Export Handle Side)
open Engine (Ledger Table)
open Guard (Word)

inductive Origin
  | linked
  | dynamic (path : String)
  | custom
  deriving Repr, DecidableEq

def Origin.debug : Origin → String
  | .linked => "Linked"
  | .dynamic path => "Dynamic(" ++ Text.quoted path ++ ")"
  | .custom => "Custom"

/-- The names of a guarded resource: its own and that of the entry point which releases it. -/
structure Resource where
  name : String
  release : String
  deriving Repr, DecidableEq

def Resource.preparedStatement : Resource :=
  ⟨"prepared statement", Export.free.symbol⟩

structure Context where
  table : Table
  origin : Origin
  resource : Resource
  handle : Handle

/-- The context of a statement that the in-tree engine holds. -/
def Context.ofStatement (st : Engine.Statement) (origin : Origin) (handle : Handle) : Context :=
  ⟨.ofStatement st, origin, .preparedStatement, handle⟩

/-- What leaves a mark in the order of its happening: an operation that the guard lets in or out, a
disposal, and the answer of a step. -/
inductive Mark
  | opened
  | closed
  | disposal
  | answered (a : Answer)

structure State where
  word : Word
  variableCount : Option UInt64
  resultCount : Option UInt64
  calls : List Export
  ledger : Ledger
  sink : Option Payload
  events : List Log.Event
  nested : List (Place × List Answer)
  trail : List Mark

namespace State

def fresh : State := ⟨.fresh, none, none, [], .empty, none, [], [], []⟩

def emit (s : State) (e : Log.Event) : State := { s with events := s.events ++ [e] }

def emitAll (s : State) (es : List Log.Event) : State := { s with events := s.events ++ es }

def mark (s : State) (m : Mark) : State := { s with trail := s.trail ++ [m] }

/-- An operation that went through the guard is over. -/
def finish (s : State) : State := { s with ledger := s.ledger.close }

def releases (s : State) : Nat := s.calls.count .free

/-- Engine calls that are no release, and those among them made after one. -/
def queries (s : State) : Nat := (s.calls.filter (· != .free)).length

def queriesAfterRelease (s : State) : Nat :=
  ((s.calls.dropWhile (· != .free)).filter (· != .free)).length

def cached (s : State) : Side → Option UInt64
  | .variables => s.variableCount
  | .results => s.resultCount

/-- Keeps the first count that is stored. -/
def store (s : State) (side : Side) (n : UInt64) : State :=
  match side with
  | .variables => { s with variableCount := s.variableCount.or (some n) }
  | .results => { s with resultCount := s.resultCount.or (some n) }

end State

end EngineBridge.Facade
