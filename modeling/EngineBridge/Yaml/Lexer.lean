import EngineBridge.Yaml.Property

/-!
From a text to its tokens. Indentation opens and closes block collections. A word may turn out to
be a key only when the colon after it is reached, so the place before each such word is kept as a
pending key: the tokens that mark a key are put in there. An ill-formed text has no tokens.
-/

namespace EngineBridge.Yaml

/-- A place where a key may have started: the number of tokens before it, whether nothing but a
key may stand there, and where it is. -/
structure PendingKey where
  position : Nat
  required : Bool
  mark : Mark

/-- A key without its own indicator ends on its line, within 1024 bytes. -/
def PendingKey.isStale (k : PendingKey) (m : Mark) : Bool :=
  k.mark.line < m.line || k.mark.index + 1024 < m.index

/-- `size` is the number of characters of the text. `levels` holds the columns of the open block
collections, `outer` the pending key before each open flow collection, both from the inside out. -/
structure Lexer where
  size : Nat
  cursor : Cursor
  tokens : Array Token
  levels : List Nat
  outer : List (Option PendingKey)
  pending : Option PendingKey
  keyAllowed : Bool

namespace Lexer

def inFlow (l : Lexer) : Bool := !l.outer.isEmpty

/-- The column of the innermost block collection; outside of all blocks it is -1. -/
def indent (l : Lexer) : Int :=
  match l.levels with
  | [] => -1
  | n :: _ => n

def mark (l : Lexer) : Mark := l.cursor.mark

def add (l : Lexer) (kind : Token.Kind) (start stop : Mark) : Lexer :=
  { l with tokens := l.tokens.push ⟨kind, start, stop⟩ }

def moveTo (l : Lexer) (c : Cursor) : Lexer := { l with cursor := c }

def allowKey (l : Lexer) (allowed : Bool) : Lexer := { l with keyAllowed := allowed }

def take (l : Lexer) (kind : Token.Kind) (width : Nat) : Lexer :=
  let c := l.cursor.skip width
  (l.add kind l.mark c.mark).moveTo c

def closeBlocks (l : Lexer) (column : Int) : Lexer :=
  if l.inFlow then l
  else
    let (closed, levels) := l.levels.span fun (n : Nat) => decide (column < n)
    { l with
      tokens := l.tokens ++ (closed.map fun _ => (⟨.blockEnd, l.mark, l.mark⟩ : Token)).toArray
      levels }

/-- Opens a block collection at `mark`, before the token number `position`, unless one of that
column is open. -/
def openBlock (l : Lexer) (kind : Token.Kind) (position : Nat) (mark : Mark) : Lexer :=
  if !l.inFlow && l.indent < mark.column then
    { l with
      tokens := l.tokens.insertIdxIfInBounds position ⟨kind, mark, mark⟩
      levels := mark.column :: l.levels }
  else l

/-! Pending keys. -/

def dropKey? (l : Lexer) : Option Lexer :=
  if l.pending.any (·.required) then none else some { l with pending := none }

def noteKey? (l : Lexer) : Option Lexer :=
  if l.keyAllowed then do
    let l ← l.dropKey?
    let required := !l.inFlow && l.indent = l.mark.column
    return { l with pending := some ⟨l.tokens.size, required, l.mark⟩ }
  else some l

def expireKeys? (l : Lexer) : Option Lexer :=
  let isStale (k : PendingKey) : Bool := k.isStale l.mark
  if (l.pending :: l.outer).any fun k => k.any fun k => k.required && isStale k then none
  else
    let fresh (k : Option PendingKey) : Option PendingKey := k.filter fun k => !isStale k
    some { l with pending := fresh l.pending, outer := l.outer.map fresh }

/-! White space between tokens. -/

/-- Passes blanks, comments and breaks, and a byte order mark at the start of each line. A tab may
not stand where a block collection may start. -/
def skipGap (l : Lexer) : Nat → Lexer
  | 0 => l
  | fuel + 1 =>
    let c := if l.mark.column = 0 && l.cursor.looksAt '\uFEFF' then l.cursor.skip 1 else l.cursor
    let c := c.skipWhile fun ch => ch = ' ' || ((l.inFlow || !l.keyAllowed) && ch = '\t')
    let c := if c.looksAt '#' then c.skipWhile fun ch => !isBreak ch else c
    if c.peek.any isBreak then
      skipGap { l with cursor := c.skipBreak, keyAllowed := l.keyAllowed || !l.inFlow } fuel
    else l.moveTo c

/-! One function for each kind of token. -/

def endText (l : Lexer) : Option Lexer :=
  let m := l.mark
  let m := if m.column = 0 then m else { m with line := m.line + 1, column := 0 }
  let l := (l.moveTo { l.cursor with mark := m }).closeBlocks (-1)
  l.dropKey?.map fun l => (l.allowKey false).add .streamEnd m m

def directive (l : Lexer) : Option Lexer := do
  let l ← (l.closeBlocks (-1)).dropKey?
  let (kind, c) ← readDirective l.size l.cursor
  return ((l.allowKey false).add kind l.mark c.mark).moveTo c

def documentLine (l : Lexer) (kind : Token.Kind) : Option Lexer :=
  (l.closeBlocks (-1)).dropKey?.map fun l => (l.allowKey false).take kind 3

def openFlow (l : Lexer) (kind : Token.Kind) : Option Lexer :=
  l.noteKey?.map fun l =>
    { (l.allowKey true).take kind 1 with outer := l.pending :: l.outer, pending := none }

def closeFlow (l : Lexer) (kind : Token.Kind) : Option Lexer :=
  l.dropKey?.map fun l =>
    let l := match l.outer with
      | [] => l
      | k :: outer => { l with pending := k, outer }
    (l.allowKey false).take kind 1

def flowEntry (l : Lexer) : Option Lexer :=
  l.dropKey?.map fun l => (l.allowKey true).take .flowEntry 1

def startBlock? (l : Lexer) (kind : Token.Kind) : Option Lexer :=
  if l.inFlow then some l
  else if l.keyAllowed then some (l.openBlock kind l.tokens.size l.mark)
  else none

def blockEntry (l : Lexer) : Option Lexer := do
  let l ← l.startBlock? .blockSequenceStart
  let l ← l.dropKey?
  return (l.allowKey true).take .blockEntry 1

def key (l : Lexer) : Option Lexer := do
  let l ← l.startBlock? .blockMappingStart
  let l ← l.dropKey?
  return (l.allowKey (!l.inFlow)).take .key 1

/-- A colon makes a key of what stands at the pending place, if there is one. -/
def value (l : Lexer) : Option Lexer :=
  match l.pending with
  | some k =>
    let keyToken : Token := ⟨.key, k.mark, k.mark⟩
    let l := { l with tokens := l.tokens.insertIdxIfInBounds k.position keyToken, pending := none }
    let l := l.openBlock .blockMappingStart k.position k.mark
    some ((l.allowKey false).take .value 1)
  | none =>
    (l.startBlock? .blockMappingStart).map fun l => (l.allowKey (!l.inFlow)).take .value 1

def word (l : Lexer) (read : Cursor → Option (Token.Kind × Cursor)) : Option Lexer := do
  let l ← l.noteKey?
  let (kind, c) ← read l.cursor
  return ((l.allowKey false).add kind l.mark c.mark).moveTo c

def quotedScalar (l : Lexer) (quote : Char) (style : Style) : Option Lexer :=
  l.word fun c =>
    (readQuoted l.size quote c).map fun (text, c) => (.scalar (String.ofList text) style, c)

def blockScalar (l : Lexer) (style : Style) : Option Lexer := do
  let l ← l.dropKey?
  let read ← readBlock l.size (style = .literal) l.indent l.cursor
  let kind : Token.Kind := .scalar (String.ofList read.text) style
  return ((l.allowKey true).add kind l.mark read.stop).moveTo read.cursor

def plainScalar (l : Lexer) : Option Lexer := do
  let l ← l.noteKey?
  let read ← readPlain l.size l.inFlow l.indent l.cursor
  let kind : Token.Kind := .scalar (String.ofList read.text) .plain
  return ((l.allowKey read.crossedLine).add kind l.mark read.stop).moveTo read.cursor

def isIndicator (c : Char) : Bool :=
  ['-', '?', ':', ',', '[', ']', '\x7b', '\x7d', '#', '&', '*', '!', '|', '>', '\'', '"', '%',
    '@', '`'].contains c

def startsPlain (l : Lexer) (ch : Char) : Bool :=
  let next := l.cursor.peekAt 1
  !(isBlankOrBreak ch || isIndicator ch) ||
    (ch = '-' && !next.any isBlank) ||
    (!l.inFlow && (ch = '?' || ch = ':') && !endsWord next)

def token (l : Lexer) (ch : Char) : Option Lexer :=
  let atWord := endsWord (l.cursor.peekAt 1)
  if l.mark.column = 0 && ch = '%' then l.directive
  else if l.cursor.atDocumentLine then
    l.documentLine (if ch = '-' then .documentStart else .documentEnd)
  else if ch = '[' then l.openFlow .flowSequenceStart
  else if ch = '\x7b' then l.openFlow .flowMappingStart
  else if ch = ']' then l.closeFlow .flowSequenceEnd
  else if ch = '\x7d' then l.closeFlow .flowMappingEnd
  else if ch = ',' then l.flowEntry
  else if ch = '-' && atWord then l.blockEntry
  else if ch = '?' && (l.inFlow || atWord) then l.key
  else if ch = ':' && (l.inFlow || atWord) then l.value
  else if ch = '*' then l.word fun c => (readName c).map fun (n, c) => (.alias n, c)
  else if ch = '&' then l.word fun c => (readName c).map fun (n, c) => (.anchor n, c)
  else if ch = '!' then
    l.word fun c => (readTag l.size l.inFlow c).map fun (t, c) => (.tag t.handle t.suffix, c)
  else if ch = '|' && !l.inFlow then l.blockScalar .literal
  else if ch = '>' && !l.inFlow then l.blockScalar .folded
  else if ch = '\'' then l.quotedScalar '\'' .singleQuoted
  else if ch = '"' then l.quotedScalar '"' .doubleQuoted
  else if l.startsPlain ch then l.plainScalar
  else none

def run (l : Lexer) : Nat → Option Lexer
  | 0 => none
  | fuel + 1 => do
    let l ← (l.skipGap (l.size + 1)).expireKeys?
    let l := l.closeBlocks l.mark.column
    match l.cursor.peek with
    | none => l.endText
    | some ch => (← l.token ch).run fuel

def ofText (text : List Char) : Lexer where
  size := text.length
  cursor := ⟨text, .origin⟩
  tokens := #[]
  levels := []
  outer := []
  pending := none
  keyAllowed := true

end Lexer

def tokens? (text : String) : Option (List Token) :=
  let cs := text.toList
  if cs.all isAllowed then
    ((Lexer.ofText cs).run (cs.length + 1)).map fun l => l.tokens.toList
  else none

end EngineBridge.Yaml
