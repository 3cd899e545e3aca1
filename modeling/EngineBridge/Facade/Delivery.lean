import EngineBridge.Facade.Guarded

/-!
The delivery of columns to a visitor. The engine hands columns over one by one; they are accepted
as long as each carries the next index and well-formed texts and the visitor has not panicked. The
first problem ends the delivery for good.
-/

namespace EngineBridge.Facade

open Engine (Column Delivery RawColumn)

/-- What a caller does at a column. Its memory goes from one column to the next. -/
abbrev Visitor (μ : Type) := Nat → Column → μ → State → (Option Payload × μ) × State

inductive Problem
  | panic (p : Payload)
  | error (e : Error)
  deriving Repr, DecidableEq

/-- How far a delivery has come: the index that has to come next, what ended the delivery and the
visitor's memory. -/
structure Delivered (μ : Type) where
  next : Nat
  problem : Option Problem
  memory : μ

namespace Delivered

variable {μ : Type}

def start (memory : μ) : Delivered μ := ⟨0, none, memory⟩

/-- A panic outranks everything and a faulty column outranks the engine's own report. -/
def outcome (d : Delivered μ) (checked : Except Error Unit) : Outcome Nat :=
  match d.problem, checked with
  | some (.panic p), _ => .panic p
  | some (.error e), _ => .error e
  | none, .error e => .error e
  | none, .ok () => .value d.next

end Delivered

def textField (index : Nat) (what : String) (v : Abi.View) : Except String String :=
  match v.text with
  | .ok s => .ok s
  | .error fault =>
    .error ("column " ++ toString index ++ " " ++ what ++ " is not UTF-8: " ++ fault.message)

def readColumn (index : Nat) (c : RawColumn) : Except String Column := do
  let keyspace ← textField index "keyspace" c.keyspace
  let table ← textField index "table" c.table
  let name ← textField index "name" c.name
  return ⟨keyspace, table, name, c.typeCode⟩

/-- What is wrong with a delivery where `expected` is the next index, or its column. -/
def examine (expected : Nat) (d : Delivery) : Except String Column :=
  if d.index.toNat = expected then readColumn expected d.column
  else
    .error ("column index " ++ toString d.index.toNat ++ " delivered, expected " ++
      toString expected)

variable {μ : Type}

def accept (entryPoint : String) (visitor : Visitor μ) (d : Delivery) (got : Delivered μ)
    (s : State) : Delivered μ × State :=
  if d.lost || got.problem.isSome then (got, s)
  else
    match examine got.next d with
    | .error detail =>
      ({ got with problem := some (.error (.marshalingMismatch entryPoint detail)) }, s)
    | .ok column =>
      let ((panic, memory), s) := visitor got.next column got.memory s
      (⟨got.next + 1, panic.map .panic, memory⟩, s)

def deliver (entryPoint : String) (visitor : Visitor μ) :
    List Delivery → Delivered μ → State → Delivered μ × State
  | [], got, s => (got, s)
  | d :: rest, got, s =>
    let (got, s) := accept entryPoint visitor d got s
    deliver entryPoint visitor rest got s

end EngineBridge.Facade
