import EngineBridge.Text.Utf8

/-!
Borrowed views and bytes that cross the boundary. A view is a pointer with a length; a null
pointer with a non-zero length denotes nothing.
-/

namespace EngineBridge.Abi

open EngineBridge.Text (Bytes Utf8.decode)

inductive View
  | null (length : UInt64)
  | bytes (content : Bytes)
  deriving Repr, DecidableEq

namespace View

def empty : View := .null 0

def length : View → UInt64
  | .null n => n
  | .bytes bs => bs.length.toUInt64

def isDangling : View → Bool
  | .null n => n != 0
  | .bytes _ => false

def content : View → Bytes
  | .null _ => []
  | .bytes bs => bs

/-- The text behind a view; a null view reads as the empty text. -/
def text (v : View) : Except Text.Utf8.Fault String := Utf8.decode v.content

end View

/-- A boolean travels as one byte; only 0 and 1 are booleans. -/
def decodeBool : UInt8 → Option Bool
  | 0 => some false
  | 1 => some true
  | _ => none

def encodeBool (b : Bool) : UInt8 := if b then 1 else 0

theorem decodeBool_encodeBool (b : Bool) : decodeBool (encodeBool b) = some b := by
  cases b <;> rfl

end EngineBridge.Abi
