import EngineBridge.Proofs.Facade.Delivery

/-!
Callers of a prepared statement and what they may count on. A caller is a program whose next
operation may depend on every answer so far and whose visitors are programs too. It runs over the
facade, and it runs over a plain record of what went into the statement.
-/

namespace EngineBridge.Facade

open Abi (Side)
open Engine (BuildStep Column)
open Text (Bytes)

inductive Client : Type → Type 1
  | done {α : Type} (a : α) : Client α
  | query {α : Type} (q : Query) (next : Outcome Reading → Client α) : Client α
  | fill {α μ : Type} (side : Side) (visitor : ℕ → Column → μ → Client (Option Payload × μ))
      (memory : μ) (next : Outcome ℕ × μ → Client α) : Client α
  | isDisposed {α : Type} (next : Bool → Client α) : Client α
  | dispose {α : Type} (next : Unit → Client α) : Client α

def andThen {α β σ : Type} (op : σ → α × σ) (next : α → σ → β × σ) (s : σ) : β × σ :=
  next (op s).1 (op s).2

theorem visitEach_cons {σ μ : Type} (visitor : ℕ → Column → μ → σ → (Option Payload × μ) × σ)
    (index : ℕ) (c : Column) (columns : List Column) (memory : μ) :
    visitEach visitor index (c :: columns) memory =
      andThen (visitor index c memory) fun a => match a with
        | (some p, memory) => fun s => ((some p, memory), s)
        | (none, memory) => visitEach visitor (index + 1) columns memory := by
  funext s
  rw [visitEach, andThen]
  generalize visitor index c memory s = visit
  obtain ⟨⟨_ | p, memory'⟩, s'⟩ := visit
  · rfl
  · rfl

def Client.run (ctx : Context) (inside : Reentry) {α : Type} : Client α → State → α × State
  | .done a => fun s => (a, s)
  | .query q next => andThen (runQuery ctx inside q) fun o => (next o).run ctx inside
  | .fill side visitor memory next =>
    andThen (Facade.fill ctx inside side (fun i c m => (visitor i c m).run ctx inside) memory)
      fun r => (next r).run ctx inside
  | .isDisposed next => andThen (fun s => (s.word.isDisposed, s)) fun b => (next b).run ctx inside
  | .dispose next =>
    andThen (fun s => ((), disposeStatement ctx s)) fun u => (next u).run ctx inside

def setId? : BuildStep → Option Bytes
  | .id bytes => some bytes
  | _ => none

def setLwt? : BuildStep → Option Bool
  | .lwt confirmed => some confirmed
  | _ => none

def addedColumn? : Side → BuildStep → Option Column
  | .variables, .variable c => some c
  | .results, .result c => some c
  | _, _ => none

structure Record where
  id : Bytes
  lwt : Bool
  variableColumns : List Column
  resultColumns : List Column
  disposed : Bool

namespace Record

/-- The last identifier and the last flag that are set, and all columns in the order in which they
are added. -/
def ofSteps (steps : List BuildStep) : Record where
  id := (steps.filterMap setId?).getLastD []
  lwt := (steps.filterMap setLwt?).getLastD false
  variableColumns := steps.filterMap (addedColumn? .variables)
  resultColumns := steps.filterMap (addedColumn? .results)
  disposed := false

def columns (r : Record) : Side → List Column
  | .variables => r.variableColumns
  | .results => r.resultColumns

def refusal : Error := .resourceDisposed Resource.preparedStatement.name

def reading (r : Record) : Query → Reading
  | .isLwt => .flag r.lwt
  | .count side => .count (r.columns side).length
  | .specs side => .columns (r.columns side)
  | .id => .bytes r.id

def query (q : Query) (r : Record) : Outcome Reading × Record :=
  (if r.disposed then .error refusal else .value (r.reading q), r)

def fill {μ : Type} (side : Side)
    (visitor : ℕ → Column → μ → Record → (Option Payload × μ) × Record) (memory : μ) (r : Record) :
    (Outcome ℕ × μ) × Record :=
  if r.disposed then ((.error refusal, memory), r)
  else
    let ((panic, memory), after) := visitEach visitor 0 (r.columns side) memory r
    ((panic.elim (.value (r.columns side).length) .panic, memory), after)

end Record

def Client.onRecord {α : Type} : Client α → Record → α × Record
  | .done a => fun r => (a, r)
  | .query q next => andThen (Record.query q) fun o => (next o).onRecord
  | .fill side visitor memory next =>
    andThen (Record.fill side (fun i c m => (visitor i c m).onRecord) memory)
      fun a => (next a).onRecord
  | .isDisposed next => andThen (fun r => (r.disposed, r)) fun b => (next b).onRecord
  | .dispose next => andThen (fun r => ((), { r with disposed := true })) fun u => (next u).onRecord

end EngineBridge.Facade
