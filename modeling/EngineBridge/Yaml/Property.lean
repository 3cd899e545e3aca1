import EngineBridge.Text.Utf8
import EngineBridge.Yaml.ScalarText
import EngineBridge.Yaml.Token

/-!
Anchors, tags and directives: the words that start with `&`, `*`, `!` and `%`. Each reader gives
nothing for an ill-formed word. A tag is a sequence of bytes, since what its escapes spell need
not be text, and a zero byte ends it.
-/

namespace EngineBridge.Yaml

open Text (Bytes hexDigit?)

def readName (c : Cursor) : Option (String × Cursor) :=
  let (name, c) := (c.skip 1).takeWhile isWordChar
  if name.isEmpty then none
  else if endsWord c.peek || c.peek.any ['?', ':', ',', ']', '\x7d', '%', '@', '`'].contains then
    some (String.ofList name, c)
  else none

/-! Tags. -/

def isUriChar (verbatim : Bool) (c : Char) : Bool :=
  isWordChar c ||
    [';', '/', '?', ':', '@', '&', '=', '+', '$', '.', '%', '!', '~', '*', '\'', '(', ')'].contains
      c ||
    (verbatim && [',', '[', ']'].contains c)

def encodedLength? (octet : Nat) : Option Nat :=
  if octet < 0x80 then some 1
  else if octet / 0x20 = 6 then some 2
  else if octet / 0x10 = 14 then some 3
  else if octet / 0x08 = 30 then some 4
  else none

def readOctet (c : Cursor) : Option (Nat × Cursor) :=
  match c.rest with
  | '%' :: a :: b :: _ => do
    let high ← hexDigit? a
    let low ← hexDigit? b
    return (high * 16 + low, c.skip 3)
  | _ => none

def readOctets : Nat → Cursor → Bytes → Option (Bytes × Cursor)
  | 0, c, bs => some (bs, c)
  | n + 1, c, bs => do
    let (octet, c) ← readOctet c
    if octet / 0x40 = 2 then readOctets n c (bs ++ [octet.toUInt8]) else none

def readEscapes (c : Cursor) : Option (Bytes × Cursor) := do
  let (octet, c) ← readOctet c
  let length ← encodedLength? octet
  readOctets (length - 1) c [octet.toUInt8]

def readUri (verbatim : Bool) : Nat → Cursor → Option (Bytes × Cursor)
  | 0, c => some ([], c)
  | fuel + 1, c =>
    match c.peek with
    | some '%' => do
      let (escaped, c) ← readEscapes c
      let (bs, c) ← readUri verbatim fuel c
      return (escaped ++ bs, c)
    | some ch =>
      if isUriChar verbatim ch then
        (readUri verbatim fuel (c.skip 1)).map fun (bs, c) =>
          (Text.Utf8.encode ch.toString ++ bs, c)
      else some ([], c)
    | none => some ([], c)

def untilZero (bs : Bytes) : Bytes := bs.takeWhile (· != 0)

def readUriBytes (fuel : Nat) (verbatim : Bool) (c : Cursor) : Option (Bytes × Cursor) :=
  (readUri verbatim (fuel + 1) c).map fun (bs, c) => (untilZero bs, c)

def readNonemptyUri (fuel : Nat) (verbatim : Bool) (c : Cursor) : Option (Bytes × Cursor) :=
  (readUriBytes fuel verbatim c).filter fun (_, after) => after.mark != c.mark

def readHandle (c : Cursor) : Option (String × Cursor) :=
  if c.looksAt '!' then
    let (word, c) := (c.skip 1).takeWhile isWordChar
    if c.looksAt '!' then some (String.ofList ('!' :: word ++ ['!']), c.skip 1)
    else some (String.ofList ('!' :: word), c)
  else none

def isNamedHandle (handle : String) : Bool :=
  1 < handle.length && handle.toList.getLast? == some '!'

structure TagText where
  handle : String
  suffix : Bytes

/-- A tag in one of its forms: in angle brackets, after a named handle, or after a single mark.
A mark that stands alone is a suffix without a handle. -/
def readTagText (fuel : Nat) (c : Cursor) : Option (TagText × Cursor) :=
  if c.peekAt 1 == some '<' then do
    let (suffix, c) ← readNonemptyUri fuel true (c.skip 2)
    if c.looksAt '>' then some (⟨"", suffix⟩, c.skip 1) else none
  else do
    let (handle, c) ← readHandle c
    if isNamedHandle handle then
      let (suffix, c) ← readNonemptyUri fuel false c
      return (⟨handle, suffix⟩, c)
    else
      let (rest, c) ← readUriBytes fuel false c
      let suffix := Text.Utf8.encode (String.ofList (handle.toList.drop 1)) ++ rest
      return (if suffix.isEmpty then ⟨"", Text.Utf8.encode "!"⟩ else ⟨"!", suffix⟩, c)

def readTag (fuel : Nat) (inFlow : Bool) (c : Cursor) : Option (TagText × Cursor) :=
  (readTagText fuel c).filter fun (_, c) => endsWord c.peek || (inFlow && c.looksAt ',')

/-! Directives. -/

def readVersionNumber (c : Cursor) : Option (Nat × Cursor) :=
  let (digits, c) := c.takeWhile Char.isDigit
  if digits.isEmpty || 9 < digits.length then none
  else some (digits.foldl (fun n d => n * 10 + (d.toNat - 48)) 0, c)

def readVersion (c : Cursor) : Option (Token.Kind × Cursor) := do
  let (major, c) ← readVersionNumber (c.skipWhile isBlank)
  if !c.looksAt '.' then none
  else
    let (minor, c) ← readVersionNumber (c.skip 1)
    return (.version major minor, c)

def readTagDirective (fuel : Nat) (c : Cursor) : Option (Token.Kind × Cursor) := do
  let (handle, c) ← readHandle (c.skipWhile isBlank)
  if (handle != "!" && !isNamedHandle handle) || !c.peek.any isBlank then none
  else
    let (lead, c) ← readNonemptyUri fuel true (c.skipWhile isBlank)
    if endsWord c.peek then return (.tagDirective handle lead, c) else none

def readDirective (fuel : Nat) (c : Cursor) : Option (Token.Kind × Cursor) := do
  let (name, c) := (c.skip 1).takeWhile isWordChar
  if !endsWord c.peek then none
  else
    let (kind, c) ←
      if name = "YAML".toList then readVersion c
      else if name = "TAG".toList then readTagDirective fuel c
      else none
    return (kind, ← c.finishLine?)

end EngineBridge.Yaml
