/-!
Readers of a text that know their place in bytes. A reader gives nothing where it does not apply,
and then nothing is consumed.
-/

namespace EngineBridge.Toml

/-- What is left of a text, where that starts in bytes, and how many characters the whole text has;
nothing is repeated more often than that. -/
structure Cursor where
  rest : List Char
  offset : Nat
  size : Nat
  deriving Repr

def Cursor.ofText (cs : List Char) : Cursor := ⟨cs, 0, cs.length⟩

structure Span where
  start : Nat
  stop : Nat
  deriving Repr, DecidableEq

abbrev Read := StateT Cursor Option

namespace Read

variable {α : Type}

def peek : Read (Option Char) := return (← get).rest.head?

def nextIs (p : Char → Bool) : Read Bool := return (← peek).any p

def width (cs : List Char) : Nat := cs.foldl (fun n c => n + c.utf8Size) 0

def takeWhile (p : Char → Bool) : Read (List Char) := do
  let c ← get
  let (front, rest) := c.rest.span p
  set { c with rest, offset := c.offset + width front }
  return front

def takeSome (p : Char → Bool) : Read (List Char) := do
  let front ← takeWhile p
  if front.isEmpty then failure else return front

def char (p : Char → Bool) : Read Char := do
  let c ← get
  match c.rest with
  | ch :: rest =>
    if p ch then
      set { c with rest, offset := c.offset + ch.utf8Size }
      return ch
    else failure
  | [] => failure

def literal : List Char → Read Unit
  | [] => return
  | ch :: rest => do
    let _ ← char (· = ch)
    literal rest

def exactly (n : Nat) (p : Char → Bool) : Read (List Char) :=
  (List.range n).mapM fun _ => char p

/-- As many times as the reader applies and consumes something. -/
def manyFrom (r : Read α) : Nat → Cursor → List α × Cursor
  | 0, c => ([], c)
  | fuel + 1, c =>
    match r c with
    | none => ([], c)
    | some (a, after) =>
      if after.offset = c.offset then ([], c)
      else
        let (as, last) := manyFrom r fuel after
        (a :: as, last)

def many (r : Read α) : Read (List α) := fun c => some (manyFrom r c.size c)

def optional (r : Read α) : Read (Option α) := (some <$> r) <|> pure none

def separated (r : Read α) (between : Read Unit) : Read (List α) := do
  let first ← r
  return first :: (← many (between *> r))

def spanned (r : Read α) : Read (α × Span) := do
  let start := (← get).offset
  let a ← r
  return (a, ⟨start, (← get).offset⟩)

def atEnd : Read Bool := return (← get).rest.isEmpty

/-! White space and comments. -/

def isBlank (c : Char) : Bool := c = ' ' || c = '\t'

def blanks : Read Unit := do
  let _ ← takeWhile isBlank

def lineBreak : Read Unit := literal ['\n'] <|> literal ['\r', '\n']

def lineEnd : Read Unit := do
  if ← atEnd then return else lineBreak

/-- Characters of a comment: tabs and all that are no control characters. -/
def isPrinting (c : Char) : Bool :=
  c = '\t' || (0x20 ≤ c.toNat && c.toNat ≤ 0x7E) || 0x80 ≤ c.toNat

def comment : Read Unit := do
  literal ['#']
  let _ ← takeWhile isPrinting

def trailing : Read Unit := do
  blanks
  let _ ← optional comment
  lineEnd

/-- Blanks, line breaks and comments, each of which ends in a line break. -/
def gap : Read Unit := do
  blanks
  let _ ← many (do
    let _ ← optional comment
    lineBreak
    blanks)

end Read

end EngineBridge.Toml
