import EngineBridge.Text.Blank

/-!
The modes in which a part of a pattern is read. Flags in a group turn them on or off. What a part
means depends on two of them: over Unicode only what needs no table of properties can be built, and
over bytes nothing that would match a piece of a character.
-/

namespace EngineBridge.Pattern

inductive Flag
  | caseless
  | multiLine
  | dotMatchesBreak
  | lazy
  | unicode
  | carriageReturn
  | verbose
  deriving Repr, DecidableEq

def Flag.ofChar? : Char → Option Flag
  | 'i' => some .caseless
  | 'm' => some .multiLine
  | 's' => some .dotMatchesBreak
  | 'U' => some .lazy
  | 'u' => some .unicode
  | 'R' => some .carriageReturn
  | 'x' => some .verbose
  | _ => none

structure Modes where
  caseless : Bool
  unicode : Bool
  verbose : Bool
  deriving Repr, DecidableEq

namespace Modes

def initial : Modes := ⟨false, true, false⟩

def set (m : Modes) (on : Bool) : Flag → Modes
  | .caseless => { m with caseless := on }
  | .unicode => { m with unicode := on }
  | .verbose => { m with verbose := on }
  | _ => m

def skipFiller : Bool → List Char → List Char
  | _, [] => []
  | true, c :: rest => skipFiller (c != '\n') rest
  | false, c :: rest =>
    if Text.isBlankChar c then skipFiller false rest
    else if c = '#' then skipFiller true rest
    else c :: rest

def skip (m : Modes) (cs : List Char) : List Char := if m.verbose then skipFiller false cs else cs

/-- The character that decides what a dash before `cs` means. In a verbose pattern white space and
one number sign are passed, unless nothing else is left. -/
def decisive (m : Modes) (cs : List Char) : Option Char :=
  let blank := Text.isBlankChar
  let passed := match cs.dropWhile blank with
    | '#' :: rest => rest.dropWhile blank
    | rest => rest
  if m.verbose then passed.head?.or cs.head? else cs.head?

/-! What can be built. -/

/-- A character on its own. An octet stands for itself as a byte. -/
def allowsLiteral (m : Modes) (c : Char) (octet : Bool) : Bool :=
  if m.unicode then !m.caseless else !octet || c.toNat < 0x80

def allowsMember (m : Modes) (c : Char) : Bool :=
  if m.unicode then !m.caseless else c.toNat < 0x80

def allowsShorthand (m : Modes) (negated : Bool) : Bool := !m.unicode && !negated

def allowsNamed (m : Modes) (negated : Bool) : Bool := if m.unicode then !m.caseless else !negated

def allowsComplement (m : Modes) : Bool := m.unicode

end Modes

/-! Flags. -/

/-- What has been read of a list of flags: those met, whether the sign that turns the rest off was
met, and whether it was the last. -/
structure FlagList where
  met : List Flag
  off : Bool
  signLast : Bool
  modes : Modes

def FlagList.start (m : Modes) : FlagList := ⟨[], false, false, m⟩

def FlagList.isEmpty (l : FlagList) : Bool := l.met.isEmpty && !l.off

/-- Reads flags up to the colon or the parenthesis after them. Each may stand once. -/
def FlagList.read (l : FlagList) : List Char → Option (FlagList × List Char)
  | [] => none
  | c :: rest =>
    if c = ':' || c = ')' then (if l.signLast then none else some (l, c :: rest))
    else if c = '-' then
      if l.off then none else read { l with off := true, signLast := true } rest
    else
      match Flag.ofChar? c with
      | none => none
      | some f =>
        if l.met.contains f then none
        else read ⟨f :: l.met, l.off, false, l.modes.set (!l.off) f⟩ rest

end EngineBridge.Pattern
