/-!
A place in a text, with the classes of characters that matter for markup. Lines end at CR, LF,
CR LF, NEL, LS and PS; columns count characters and indices count bytes.
-/

namespace EngineBridge.Yaml

structure Mark where
  index : Nat
  line : Nat
  column : Nat
  deriving Repr, DecidableEq

def Mark.origin : Mark := ⟨0, 0, 0⟩

def isBreak (c : Char) : Bool :=
  c = '\n' || c = '\r' || c = '\u0085' || c = '\u2028' || c = '\u2029'

def isBlank (c : Char) : Bool := c = ' ' || c = '\t'

def isBlankOrBreak (c : Char) : Bool := isBlank c || isBreak c

/-- The end of the text counts as a blank here. -/
def endsWord (c : Option Char) : Bool := c.all isBlankOrBreak

/-- The end of the text counts as a break here. -/
def endsLine (c : Option Char) : Bool := c.all isBreak

def isWordChar (c : Char) : Bool :=
  ('0' ≤ c && c ≤ '9') || ('a' ≤ c && c ≤ 'z') || ('A' ≤ c && c ≤ 'Z') || c = '_' || c = '-'

def isAllowed (c : Char) : Bool :=
  let n := c.toNat
  n == 0x9 || n == 0xA || n == 0xD || (0x20 ≤ n && n ≤ 0x7E) || n == 0x85 ||
    (0xA0 ≤ n && n ≤ 0xFFFD) || 0x10000 ≤ n

structure Cursor where
  rest : List Char
  mark : Mark
  deriving Repr

namespace Cursor

def peek (c : Cursor) : Option Char := c.rest.head?

def peekAt (c : Cursor) (n : Nat) : Option Char := c.rest[n]?

def column (c : Cursor) : Nat := c.mark.column

def atEnd (c : Cursor) : Bool := c.rest.isEmpty

def looksAt (c : Cursor) (ch : Char) : Bool := c.peek == some ch

def width (cs : List Char) : Nat := cs.foldl (fun n c => n + c.utf8Size) 0

/-- Passes `n` characters, none of them a break. -/
def skip (c : Cursor) (n : Nat) : Cursor :=
  ⟨c.rest.drop n, { c.mark with
    index := c.mark.index + width (c.rest.take n)
    column := c.mark.column + n }⟩

def takeWhile (c : Cursor) (p : Char → Bool) : List Char × Cursor :=
  let (front, _) := c.rest.span p
  (front, c.skip front.length)

def skipWhile (c : Cursor) (p : Char → Bool) : Cursor := (c.takeWhile p).2

def readBreak (c : Cursor) : List Char × Cursor :=
  let after (n : Nat) : Cursor :=
    ⟨c.rest.drop n, ⟨c.mark.index + width (c.rest.take n), c.mark.line + 1, 0⟩⟩
  match c.rest with
  | '\r' :: '\n' :: _ => (['\n'], after 2)
  | ch :: _ =>
    if ch = '\u2028' || ch = '\u2029' then ([ch], after 1)
    else if isBreak ch then (['\n'], after 1)
    else ([], c)
  | [] => ([], c)

def skipBreak (c : Cursor) : Cursor := c.readBreak.2

def finishLine? (c : Cursor) : Option Cursor :=
  let c := c.skipWhile isBlank
  let c := if c.looksAt '#' then c.skipWhile fun ch => !isBreak ch else c
  if endsLine c.peek then some c.skipBreak else none

/-- A line of three dashes or three dots, which ends whatever is open. -/
def atDocumentLine (c : Cursor) : Bool :=
  c.column == 0 &&
    (match c.rest with
      | '-' :: '-' :: '-' :: rest => endsWord rest.head?
      | '.' :: '.' :: '.' :: rest => endsWord rest.head?
      | _ => false)

end Cursor

end EngineBridge.Yaml
