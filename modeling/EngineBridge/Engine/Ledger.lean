import EngineBridge.Abi.RawResult

/-!
The messages that an engine lends out. The journal tells in order what becomes of them: a message
is lent under a ticket of its own, its text is copied and it is given back. It also tells where an
operation of the caller ends, whether it returns or unwinds.
-/

namespace EngineBridge.Engine

open Abi (RawResult)
open Text (Bytes)

inductive Entry
  | lent (ticket : Nat)
  | copied (ticket : Nat)
  | returned (ticket : Nat)
  | ended
  deriving Repr, DecidableEq

def Entry.lent? : Entry → Option Nat
  | lent ticket => some ticket
  | _ => none

def Entry.returned? : Entry → Option Nat
  | returned ticket => some ticket
  | _ => none

structure Ledger where
  journal : List Entry
  deriving Repr, DecidableEq

structure Message where
  ticket : Nat
  content : Bytes
  deriving Repr, DecidableEq

/-- A raw result as the caller holds it: its message is a loan. -/
structure Returned where
  code : Int32
  message : Option Message
  deriving Repr, DecidableEq

namespace Ledger

def empty : Ledger := ⟨[]⟩

def lent (l : Ledger) : List Nat := l.journal.filterMap Entry.lent?

def returned (l : Ledger) : List Nat := l.journal.filterMap Entry.returned?

def issued (l : Ledger) : Nat := l.lent.length

def note (l : Ledger) (e : Entry) : Ledger := ⟨l.journal ++ [e]⟩

def lend (l : Ledger) (r : RawResult) : Returned × Ledger :=
  match r.message with
  | none => (⟨r.code, none⟩, l)
  | some content => (⟨r.code, some ⟨l.issued, content⟩⟩, l.note (.lent l.issued))

def copy (l : Ledger) (ticket : Nat) : Ledger := l.note (.copied ticket)

def giveBack (l : Ledger) (ticket : Nat) : Ledger := l.note (.returned ticket)

def close (l : Ledger) : Ledger := l.note .ended

end Ledger

end EngineBridge.Engine
