import EngineBridge.Facade.Run
import EngineBridge.Library.Registry

/-!
Library handles and statements side by side. A handle sits in a numbered slot, a statement is
opened on the library of a slot and keeps that library alive by itself. Slots and statements are
numbered in the order of their successful creation.
-/

namespace EngineBridge.Library

open Abi (Handle)
open Config (Settings)
open Engine (Table)
open Facade (Context Origin Query Reading Session)

structure Adopted where
  context : Context
  session : Session

structure Workspace where
  registry : Registry
  slots : Nat
  statements : List Adopted
  events : List Log.Event

inductive Request
  | load (path : String)
  | settings (c : Settings)
  | linked
  | custom (table : Table)

structure Filled where
  slot : Nat
  origin : Origin
  sameSlots : List Nat
  sameStatements : List Nat
  deriving Repr, DecidableEq

def describe (origin : Origin) : String :=
  "NativeLibrary \x7b origin: " ++ origin.debug ++ ", .. \x7d"

namespace Workspace

def empty : Workspace := ⟨.empty, 0, [], []⟩

def holders (r : Registry) (id : InstanceId) (kind : Owner → Option Nat) : List Nat :=
  ((r.owners.filter (·.2 == id)).filterMap fun (o, _) => kind o).mergeSort

def slotNumber : Owner → Option Nat
  | .handle n => some n
  | .statement _ => none

def statementNumber : Owner → Option Nat
  | .handle _ => none
  | .statement n => some n

def ask (w : Workspace) (system : System) (linkedTable : Table) : Request → Asked
  | .load path => w.registry.load system path (.handle w.slots)
  | .settings c => w.registry.fromSettings system linkedTable c (.handle w.slots)
  | .linked => w.registry.link linkedTable (.handle w.slots)
  | .custom table => w.registry.custom table (.handle w.slots)

def obtain (w : Workspace) (system : System) (linkedTable : Table) (request : Request) :
    Except Error Filled × Workspace :=
  let asked := w.ask system linkedTable request
  let after := { w with registry := asked.registry, events := w.events ++ asked.events }
  match asked.result with
  | .error e => (.error e, after)
  | .ok id =>
    (.ok
      { slot := w.slots
        origin := ((asked.registry.instance? id).map (·.origin)).getD .custom
        sameSlots := holders w.registry id slotNumber
        sameStatements := holders w.registry id statementNumber },
      { after with slots := w.slots + 1 })

/-- A further handle on the library of a slot. -/
def clone (w : Workspace) (slot : Nat) : Option Workspace := do
  let id ← w.registry.heldBy? (.handle slot)
  return { w with registry := w.registry.hold (.handle w.slots) id, slots := w.slots + 1 }

def dropSlot (w : Workspace) (slot : Nat) : Workspace :=
  { w with registry := w.registry.letGo (.handle slot) }

def adopt (w : Workspace) (slot : Nat) (handle : Handle) :
    Option (Except Error Nat × Workspace) := do
  let id ← w.registry.heldBy? (.handle slot)
  let i ← w.registry.instance? id
  let ctx : Context := ⟨i.table, i.origin, .preparedStatement, handle⟩
  match Facade.adopt ctx .fresh with
  | (.error e, _) => return (.error e, w)
  | (.ok (), s) =>
    let n := w.statements.length
    return (.ok n,
      { w with
        registry := w.registry.hold (.statement n) id
        statements := w.statements ++ [⟨ctx, ⟨{ s with events := [] }, true⟩⟩]
        events := w.events ++ s.events })

/-- Works on one statement; what it logs joins the common log. -/
def onStatement {α : Type} (w : Workspace) (n : Nat) (op : Context → Session → α × Session) :
    Option (α × Workspace) := do
  let a ← w.statements[n]?
  let (result, session) := op a.context a.session
  let kept := { session with state := { session.state with events := [] } }
  return (result,
    { w with
      statements := w.statements.set n { a with session := kept }
      events := w.events ++ session.state.events })

def queryAll (ctx : Context) : List Query → Session → List (Outcome Reading) × Session
  | [], s => ([], s)
  | q :: rest, s =>
    let (o, state) := Facade.runQuery ctx (Facade.reentry ctx 0) q s.state
    let (os, s) := queryAll ctx rest { s with state := state }
    (o :: os, s)

def query (w : Workspace) (n : Nat) (qs : List Query) :
    Option (List (Outcome Reading) × Workspace) :=
  w.onStatement n fun ctx s => queryAll ctx qs s

def dispose (w : Workspace) (n : Nat) : Option Workspace :=
  (w.onStatement n fun ctx s =>
    ((), { s with state := Facade.disposeStatement ctx s.state })).map (·.2)

def dropStatement (w : Workspace) (n : Nat) : Option Workspace :=
  (w.onStatement n fun ctx s => ((), s.drop ctx none)).map fun (_, w) =>
    { w with registry := w.registry.letGo (.statement n) }

def close (w : Workspace) : Workspace :=
  let w := (List.range w.statements.length).foldl (fun w n => (w.dropStatement n).getD w) w
  (List.range w.slots).foldl dropSlot w

end Workspace

end EngineBridge.Library
