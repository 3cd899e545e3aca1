import EngineBridge.Config.Mismatch
import EngineBridge.Config.OfFile
import EngineBridge.Toml.Document
import EngineBridge.Toml.Excerpt

/-!
The entries of a TOML text are those of its root table, and both settings are texts in it. A
mismatch is reported with an excerpt of the text. How an ill-formed text is reported is left open.
-/

namespace EngineBridge.Config

open Toml (Item Key Span Table Value)

namespace OfToml

/-- What a value is found to be; a date is a collection of its parts. -/
def foundValue : Value → Found
  | .text s => .text s
  | .integer n => .integer n
  | .float bits => .float bits
  | .bool b => .bool b
  | .moment | .table => .map
  | .array => .sequence

def foundItem : Item → Found
  | .value v _ => foundValue v
  | .table _ => .map
  | .tables _ => .sequence

def itemText (expected : Expected) : Item → Except Mismatch String
  | .value (.text s) _ => .ok s
  | i => .error (.wrongType (foundItem i) expected)

/-- A mismatch in an item without a place is placed at its key. -/
def entry (text : String) (key : Key) (item : Item) : Entry String :=
  let report (span : Span) (m : Mismatch) : String := Toml.excerpt text span m.message
  let valued := report (item.span?.getD key.span)
  { name := .ok key.name
    path := ((itemText .path item).map some).mapError valued
    text := (itemText .text item).mapError valued
    unknown := report key.span (.unknownField key.name)
    repeated := report key.span (.duplicateField key.name) }

end OfToml

def ofToml (illFormed : String → String) : Parser := fun text =>
  match Table.ofText? text with
  | none => .error (illFormed text)
  | some t => .ok (t.entries.map fun (key, item) => OfToml.entry text key item)

end EngineBridge.Config
