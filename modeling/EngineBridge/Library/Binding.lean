import EngineBridge.Facade.State

/-!
Binding a table of engine functions. The engine has to report the layout of this side, and the
first difference is named. A shared object gives its functions by symbol; it is bound only if it
has all of them.
-/

namespace EngineBridge.Library

open Abi (Export Layout View)
open Engine (Delivery Ledger Release Reply Table)
open Facade (Origin)

def boundEvent (origin : Origin) (layout : Layout) : Log.Event where
  level := .debug
  target := "cqlbridge::bridge::library"
  text := "bound native engine"
  fields := [("origin", .shown origin.debug), ("version", .number layout.version.toNat)]

def bind (table : Table) (origin : Origin) : Except Error Log.Event :=
  match table.layout.mismatch? .current with
  | some detail => .error (.marshalingMismatch Export.layout.symbol detail)
  | none => .ok (boundEvent origin table.layout)

/-- An exported function by its signature; both counts and both fills share one. -/
inductive Function
  | layout (report : Layout)
  | freeString (f : Ledger → Nat → Ledger)
  | release (f : Nat → Option Payload → Release)
  | bool (f : Nat → Reply UInt8)
  | count (f : Nat → Reply UInt64)
  | fill (f : Nat → Reply (List Delivery))
  | bytes (f : Nat → Reply View)

namespace Function

def layout? : Function → Option Layout
  | .layout f => some f
  | _ => none

def freeString? : Function → Option (Ledger → Nat → Ledger)
  | .freeString f => some f
  | _ => none

def release? : Function → Option (Nat → Option Payload → Release)
  | .release f => some f
  | _ => none

def bool? : Function → Option (Nat → Reply UInt8)
  | .bool f => some f
  | _ => none

def count? : Function → Option (Nat → Reply UInt64)
  | .count f => some f
  | _ => none

def fill? : Function → Option (Nat → Reply (List Delivery))
  | .fill f => some f
  | _ => none

def bytes? : Function → Option (Nat → Reply View)
  | .bytes f => some f
  | _ => none

end Function

/-- What a library exports, and how the loader reports a name that is not among it. -/
structure SharedObject where
  exports : List (String × Function)
  report : String → String

namespace SharedObject

def symbol? (o : SharedObject) (name : String) : Option Function :=
  (o.exports.find? (·.1 == name)).map (·.2)

def missing (o : SharedObject) (e : Export) : Error := .symbolNotFound e.symbol (o.report e.symbol)

def look {α : Type} (o : SharedObject) (e : Export) (as : Function → Option α) :
    Except Error α :=
  match (o.symbol? e.symbol).bind as with
  | some f => .ok f
  | none => .error (o.missing e)

/-- All symbols are looked for before any of them is used. -/
def resolve (o : SharedObject) : Except Error Table :=
  match Export.required.find? fun e => (o.symbol? e.symbol).isNone with
  | some e => .error (o.missing e)
  | none => do
    return {
      layout := ← o.look .layout Function.layout?
      freeString := ← o.look .freeString Function.freeString?
      free := ← o.look .free Function.release?
      isLwt := ← o.look .isLwt Function.bool?
      variablesCount := ← o.look (.count .variables) Function.count?
      resultCount := ← o.look (.count .results) Function.count?
      fillVariables := ← o.look (.fill .variables) Function.fill?
      fillResult := ← o.look (.fill .results) Function.fill?
      id := ← o.look .id Function.bytes? }

def ofTable (t : Table) (report : String → String) : SharedObject where
  exports :=
    [(Export.layout.symbol, .layout t.layout), (Export.freeString.symbol, .freeString t.freeString),
      (Export.free.symbol, .release t.free), (Export.isLwt.symbol, .bool t.isLwt),
      ((Export.count .variables).symbol, .count t.variablesCount),
      ((Export.count .results).symbol, .count t.resultCount),
      ((Export.fill .variables).symbol, .fill t.fillVariables),
      ((Export.fill .results).symbol, .fill t.fillResult),
      (Export.id.symbol, .bytes t.id)]
  report := report

def without (o : SharedObject) (symbols : List String) : SharedObject where
  exports := o.exports.filter fun (name, _) => !symbols.contains name
  report := o.report

end SharedObject

end EngineBridge.Library
