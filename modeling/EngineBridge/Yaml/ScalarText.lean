import EngineBridge.Text.Digit
import EngineBridge.Yaml.Token

/-!
Reading the five styles of scalars. A single line break between two words is read as a space and
each further break as itself; quoted styles have escapes, block styles keep or fold their lines.
Each reader gives nothing for an ill-formed scalar. The fuel of a reader is at least the number of
characters before it.
-/

namespace EngineBridge.Yaml

open Text (hexDigit?)

/-- White space that has been passed and may still become part of a scalar: the blanks before the
first break, or else that break and the text of the further ones. The lists have what was passed
last in front. -/
structure Gap where
  blanks : List Char
  firstBreak : List Char
  moreBreaks : List Char
  broken : Bool

namespace Gap

def none : Gap := ⟨[], [], [], false⟩

def text (g : Gap) : List Char :=
  if g.broken then
    if g.firstBreak = ['\n'] then (if g.moreBreaks.isEmpty then [' '] else g.moreBreaks.reverse)
    else g.firstBreak ++ g.moreBreaks.reverse
  else g.blanks.reverse

end Gap

/-- Passes white space; before the column `margin` of a new line no tab may stand. -/
def readGap (margin : Option Int) : Nat → Cursor → Gap → Option (Gap × Cursor)
  | 0, c, g => some (g, c)
  | fuel + 1, c, g =>
    match c.peek with
    | none => some (g, c)
    | some ch =>
      if isBlank ch then
        if ch = '\t' && g.broken && margin.any fun m => decide ((c.column : Int) < m) then none
        else if g.broken then readGap margin fuel (c.skip 1) g
        else readGap margin fuel (c.skip 1) { g with blanks := ch :: g.blanks }
      else if isBreak ch then
        let (br, c) := c.readBreak
        if g.broken then readGap margin fuel c { g with moreBreaks := br ++ g.moreBreaks }
        else readGap margin fuel c ⟨[], br, [], true⟩
      else some (g, c)

/-! Plain scalars. -/

def plainRun (flow : Bool) : List Char → Option (List Char)
  | [] => some []
  | ch :: rest =>
    let next := rest.head?
    if isBlankOrBreak ch then some []
    else if flow && ch = ':' && next.any [',', '?', '[', ']', '\x7b', '\x7d'].contains then none
    else if (ch = ':' && endsWord next) ||
        (flow && [',', '[', ']', '\x7b', '\x7d'].contains ch) then some []
    else (plainRun flow rest).map (ch :: ·)

structure PlainRead where
  text : List Char
  stop : Mark
  crossedLine : Bool
  cursor : Cursor

/-- The words of a plain scalar from `c` on, which has the gap `g` before it and has been read up
to `stop`. -/
def readPlainFrom (flow : Bool) (margin : Int) : Nat → Cursor → Gap → Mark → Option PlainRead
  | 0, c, g, stop => some ⟨[], stop, g.broken, c⟩
  | fuel + 1, c, g, stop =>
    if c.atDocumentLine || c.looksAt '#' then some ⟨[], stop, g.broken, c⟩
    else do
      let run ← plainRun flow c.rest
      let (piece, g, c, stop) :=
        if run.isEmpty then ([], g, c, stop)
        else
          let c := c.skip run.length
          (g.text ++ run, Gap.none, c, c.mark)
      if c.peek.any isBlankOrBreak then
        let (g, c) ← readGap (some margin) fuel c g
        if !flow && (c.column : Int) < margin then some ⟨piece, stop, g.broken, c⟩
        else
          let r ← readPlainFrom flow margin fuel c g stop
          return { r with text := piece ++ r.text }
      else some ⟨piece, stop, g.broken, c⟩

def readPlain (fuel : Nat) (flow : Bool) (indent : Int) (c : Cursor) : Option PlainRead :=
  readPlainFrom flow (indent + 1) (fuel + 1) c .none c.mark

/-! Quoted scalars. -/

def hexNumber? (cs : List Char) : Option Nat :=
  cs.foldlM (fun n c => (hexDigit? c).map (n * 16 + ·)) 0

def scalarValue? (n : Nat) : Option Char :=
  if n.isValidChar then some (Char.ofNat n) else none

/-- What an escape stands for: a character, or the number of hexadecimal digits that follow. -/
def escape? : Char → Option (Char ⊕ Nat)
  | '0' => some (.inl '\x00')
  | 'a' => some (.inl '\x07')
  | 'b' => some (.inl '\x08')
  | 't' | '\t' => some (.inl '\t')
  | 'n' => some (.inl '\n')
  | 'v' => some (.inl '\x0b')
  | 'f' => some (.inl '\x0c')
  | 'r' => some (.inl '\r')
  | 'e' => some (.inl '\x1b')
  | ' ' => some (.inl ' ')
  | '"' => some (.inl '"')
  | '/' => some (.inl '/')
  | '\\' => some (.inl '\\')
  | 'N' => some (.inl '\u0085')
  | '_' => some (.inl '\u00a0')
  | 'L' => some (.inl '\u2028')
  | 'P' => some (.inl '\u2029')
  | 'x' => some (.inr 2)
  | 'u' => some (.inr 4)
  | 'U' => some (.inr 8)
  | _ => none

/-- The characters of a quoted scalar up to white space or the closing quote; the flag tells an
escaped line break, which is passed. -/
def quotedRun (quote : Char) : Nat → Cursor → Option (List Char × Bool × Cursor)
  | 0, _ => none
  | fuel + 1, c =>
    let on (e : Char) (n : Nat) : Option (List Char × Bool × Cursor) :=
      (quotedRun quote fuel (c.skip n)).map fun (text, crossed, c) => (e :: text, crossed, c)
    match c.rest with
    | [] => some ([], false, c)
    | ch :: rest =>
      if isBlankOrBreak ch then some ([], false, c)
      else if ch = quote then
        if quote = '\'' && rest.head? == some '\'' then on '\'' 2 else some ([], false, c)
      else if quote = '"' && ch = '\\' then
        if rest.head?.any isBreak then some ([], true, (c.skip 1).skipBreak)
        else do
          match ← rest.head?.bind escape? with
          | .inl e => on e 2
          | .inr n =>
            let digits := (rest.drop 1).take n
            if digits.length < n then none
            else on (← (hexNumber? digits).bind scalarValue?) (2 + n)
      else on ch 1

def readQuotedFrom (quote : Char) : Nat → Cursor → Option (List Char × Cursor)
  | 0, _ => none
  | fuel + 1, c =>
    if c.atDocumentLine || c.atEnd then none
    else do
      let (run, crossed, c) ← quotedRun quote (fuel + 1) c
      if c.looksAt quote then some (run, c.skip 1)
      else
        let (g, c) ← readGap none fuel c { Gap.none with broken := crossed }
        let (text, c) ← readQuotedFrom quote fuel c
        return (run ++ g.text ++ text, c)

def readQuoted (fuel : Nat) (quote : Char) (c : Cursor) : Option (List Char × Cursor) :=
  readQuotedFrom quote (fuel + 1) (c.skip 1)

/-! Block scalars. -/

inductive Chomping
  | strip
  | clip
  | keep
  deriving Repr, DecidableEq

structure BlockHeader where
  chomping : Chomping
  increment : Option Nat

def chomping? : Option Char → Option Chomping
  | some '+' => some .keep
  | some '-' => some .strip
  | _ => none

def digit? (c : Option Char) : Option Nat :=
  c.bind fun c => if c.isDigit then some (c.toNat - 48) else none

def readBlockHeader (c : Cursor) : Option (BlockHeader × Cursor) :=
  match chomping? c.peek, digit? c.peek with
  | some ch, _ =>
    let c := c.skip 1
    match digit? c.peek with
    | some 0 => none
    | some n => some (⟨ch, some n⟩, c.skip 1)
    | none => some (⟨ch, none⟩, c)
  | none, some 0 => none
  | none, some n =>
    let c := c.skip 1
    match chomping? c.peek with
    | some ch => some (⟨ch, some n⟩, c.skip 1)
    | none => some (⟨.clip, some n⟩, c)
  | none, none => some (⟨.clip, none⟩, c)

structure BreaksRead where
  breaks : List Char
  widest : Nat
  stop : Mark
  cursor : Cursor

def readBreaks (indent : Option Nat) : Nat → Cursor → Nat → Mark → Option BreaksRead
  | 0, c, widest, stop => some ⟨[], widest, stop, c⟩
  | fuel + 1, c, widest, stop =>
    let room := match indent with
      | some n => c.rest.take (n - c.column)
      | none => c.rest
    let c := c.skip (room.takeWhile (· = ' ')).length
    let widest := max widest c.column
    let inIndent := match indent with
      | some n => decide (c.column < n)
      | none => true
    if inIndent && c.looksAt '\t' then none
    else if c.peek.any isBreak then
      let (br, c) := c.readBreak
      (readBreaks indent fuel c widest c.mark).map fun r => { r with breaks := br ++ r.breaks }
    else some ⟨[], widest, stop, c⟩

structure BlockRead where
  text : List Char
  stop : Mark
  cursor : Cursor

/-- The lines of a block scalar from `c` on. `lineBreak` ended the line before, `breaks` are the
empty lines after it. -/
def readBlockLines (literal : Bool) (chomping : Chomping) (indent : Nat) :
    Nat → Cursor → List Char → List Char → Bool → Mark → Option BlockRead
  | 0, _, _, _, _, _ => none
  | fuel + 1, c, lineBreak, breaks, leadingBlank, stop =>
    if c.column = indent && !c.atEnd then do
      let blank := c.peek.any isBlank
      let joined :=
        if !literal && lineBreak = ['\n'] && !leadingBlank && !blank then
          (if breaks.isEmpty then [' '] else breaks)
        else lineBreak ++ breaks
      let (line, c) := c.takeWhile fun ch => !isBreak ch
      let (lineBreak, c) := c.readBreak
      let next ← readBreaks (some indent) (fuel + 1) c 0 c.mark
      let r ← readBlockLines literal chomping indent fuel next.cursor lineBreak next.breaks blank
        next.stop
      return { r with text := joined ++ line ++ r.text }
    else
      let tail :=
        match chomping with
        | .strip => []
        | .clip => lineBreak
        | .keep => lineBreak ++ breaks
      some ⟨tail, stop, c⟩

def readBlock (fuel : Nat) (literal : Bool) (parent : Int) (c : Cursor) : Option BlockRead := do
  let (header, c) ← readBlockHeader (c.skip 1)
  let c ← c.finishLine?
  let known := header.increment.map fun n => parent.toNat + n
  let first ← readBreaks known (fuel + 1) c 0 c.mark
  let indent := known.getD (max (max first.widest (parent + 1).toNat) 1)
  readBlockLines literal header.chomping indent (fuel + 2) first.cursor [] first.breaks false
    first.stop

end EngineBridge.Yaml
