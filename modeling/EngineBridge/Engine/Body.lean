import EngineBridge.Abi.Handle
import EngineBridge.Engine.Entry

/-!
The entry points of the in-tree engine step by step, in the memory that holds the statement behind
a handle. A body looks up the statement, examines its out-parameter, writes and logs in this order,
and is stopped by a refusal, by a panic or by a fault: an access to a statement that was dropped or
through a null pointer. What the caller sees of it is put together when the body has ended.
-/

namespace EngineBridge

/-- A panic may be in store for an event of this kind. -/
def Log.Event.announcesRelease (e : Log.Event) : Bool := e.text == "releasing prepared statement"

namespace Engine

open Abi (Export Handle RawResult Side View)

/-- A statement in memory, with the number of references that keep it there. -/
structure Memory where
  statement : Statement
  references : Nat
  drops : Nat
  events : List Log.Event
  sink : Option Payload

namespace Memory

/-- A statement fresh from its builder, which keeps no reference but the handle. -/
def allocate (st : Statement) (sink : Option Payload) : Memory := ⟨st, 1, 0, [st.allocated], sink⟩

/-- Gives one reference up; the statement is dropped with the last one. -/
def giveUp (m : Memory) : Memory :=
  { m with
    references := m.references - 1
    drops := if m.references = 1 then m.drops + 1 else m.drops }

/-- What a handle leads to. -/
def behind (m : Memory) (h : Handle) : Option Statement :=
  if h.isNull then none else some m.statement

def logging (m : Memory) (events : List Log.Event) : Memory :=
  { m with events := m.events ++ events }

end Memory

inductive Stop
  | refused (r : Refusal)
  | panicked (p : Payload)
  | fault
  deriving Repr, DecidableEq

/-- What a body works on: the memory, and what its caller gave it to fill. -/
structure Frame (κ : Type) where
  memory : Memory
  cell : κ

abbrev Body (κ : Type) := ExceptT Stop (StateM (Frame κ))

namespace Body

variable {κ τ α : Type}

def onMemory (change : Memory → Memory) : Body κ Unit :=
  modify fun f => { f with memory := change f.memory }

/-- Records an event, and panics if that is in store for it. -/
def log (e : Log.Event) : Body κ Unit := do
  onMemory (·.logging [e])
  match (← get).memory.sink with
  | none => return
  | some p =>
    if e.announcesRelease then
      onMemory fun m => { m with sink := none }
      throw (.panicked p)
    else return

/-- The statement behind a live handle; to follow the handle of a dropped one is a fault. -/
def borrow (h : Handle) : Body κ Statement := do
  let f ← get
  if h.isNull then throw (.refused noStatement)
  else if f.memory.references = 0 then throw .fault
  else return f.memory.statement

def checkOut (what : String) : Body (Option α) Unit := do
  let f ← get
  if f.cell.isNone then throw (.refused (.nullArgument what)) else return

def write (a : α) : Body (Option α) Unit := do
  let f ← get
  if f.cell.isNone then throw .fault else set { f with cell := some a }

/-- Takes over the reference behind a handle while `use` runs, and gives it up whichever way that
ends. -/
def owning (use : Statement → Body κ Unit) : Body κ Unit := do
  let f ← get
  if f.memory.references = 0 then throw .fault
  else
    try use f.memory.statement
    finally onMemory Memory.giveUp

def report (what : String) (value : Statement → α) (h : Handle) : Body (Option α) Unit := do
  let st ← borrow h
  checkOut what
  write (value st)

def isLwt : Handle → Body (Option UInt8) Unit :=
  report "is_lwt out-parameter" fun st => Abi.encodeBool st.confirmedLwt

def count (side : Side) : Handle → Body (Option UInt64) Unit :=
  report "count out-parameter" fun st => (st.columns side).length.toUInt64

def id : Handle → Body (Option View) Unit :=
  report "id out-parameter" fun st => .bytes st.id

/-- Calls the setter with one column. The cell is the target, which nobody else changes. -/
def hand (setter : τ → Delivery → τ) (c : Column) (i : Nat) : Body τ Unit :=
  modify fun f => { f with cell := setter f.cell ⟨i.toUInt64, c.raw, false⟩ }

def fill (side : Side) (h : Handle) (setter : Option (τ → Delivery → τ)) : Body τ Unit := do
  let st ← borrow h
  match setter with
  | none => throw (.refused (.nullArgument "column spec setter"))
  | some setter => forM (st.columns side).zipIdx fun (c, i) => hand setter c i

def free (h : Handle) : Body κ Unit :=
  if h.isNull then throw (.refused noStatement) else owning fun st => log st.releasing

/-- A refusal is reported and a panic is caught; nothing is done about a fault. -/
def caught : Stop → Body κ Ending
  | .refused r => return .refused r
  | .panicked p => return .panicked p
  | .fault => throw .fault

/-- Runs a body to its end and turns that into a raw result. -/
def enter (e : Export) (body : Body κ Unit) : Body κ RawResult := do
  let ending ← tryCatch (do body; return Ending.done) caught
  let concluded := conclude e.symbol ending
  forM concluded.events log
  return concluded.result

end Body

/-- What a call passes beside the handle: the out-parameter with its contents, or a setter and its
target. A null pointer is `none`. -/
inductive Argument (τ : Type)
  | flag (out : Option UInt8)
  | count (side : Side) (out : Option UInt64)
  | id (out : Option View)
  | fill (side : Side) (setter : Option (τ → Delivery → τ)) (target : τ)
  | release

structure Call (τ : Type) where
  handle : Handle
  argument : Argument τ

abbrev Calling := ExceptT Stop (StateM Memory)

/-- Runs a body on a cell of its own and hands back what it left there. -/
def Body.on {κ α : Type} (body : Body κ RawResult) (cell : κ) (wrap : κ → α) :
    Calling (RawResult × α) := fun m =>
  let (result, f) := body.run ⟨m, cell⟩
  (result.map fun r => (r, wrap f.cell), f.memory)

/-- Makes a call; the argument comes back with what the call left in it. -/
def Call.run {τ : Type} (c : Call τ) : Calling (RawResult × Argument τ) :=
  match c.argument with
  | .flag out => (Body.enter .isLwt (Body.isLwt c.handle)).on out .flag
  | .count side out => (Body.enter (.count side) (Body.count side c.handle)).on out (.count side)
  | .id out => (Body.enter .id (Body.id c.handle)).on out .id
  | .fill side setter target =>
    (Body.enter (.fill side) (Body.fill side c.handle setter)).on target (.fill side setter)
  | .release => (Body.enter .free (Body.free c.handle)).on () fun _ => .release

end Engine

end EngineBridge
