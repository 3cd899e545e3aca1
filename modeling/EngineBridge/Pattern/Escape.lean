import EngineBridge.Pattern.Modes
import EngineBridge.Text.Digit

/-!
Escapes: what a backslash and the characters after it stand for. Numerals in braces do not occur,
because a pattern holds no closing brace.
-/

namespace EngineBridge.Pattern

inductive Primitive
  | literal (c : Char) (octet : Bool)
  | shorthand (negated : Bool)
  | anchor
  | wordBoundary
  deriving Repr, DecidableEq

def readHexDigits (m : Modes) : Nat → Nat → List Char → Option (Nat × List Char)
  | 0, value, cs => some (value, cs)
  | _ + 1, _, [] => none
  | n + 1, value, c :: rest => do
    let d ← Text.hexDigit? c
    readHexDigits m n (value * 16 + d) (m.skip rest)

/-- A character given by its number in two, four or eight digits; two digits may give an octet. -/
def readNumbered (m : Modes) (digits : Nat) (cs : List Char) : Option (Primitive × List Char) := do
  let (value, rest) ← readHexDigits m digits 0 (m.skip cs)
  if value.isValidChar then return (.literal (Char.ofNat value) (digits = 2), rest) else none

/-- ASCII characters other than letters and digits stand for themselves, but for the angles. -/
def isEscapable (c : Char) : Bool := c.toNat < 0x80 && !c.isAlphanum && c != '<' && c != '>'

def escaped? (c : Char) : Option Primitive :=
  match c with
  | 'd' | 's' | 'w' => some (.shorthand false)
  | 'D' | 'S' | 'W' => some (.shorthand true)
  | 'A' | 'z' => some .anchor
  | 'b' | 'B' | '<' | '>' => some .wordBoundary
  | 'a' => some (.literal '\x07' false)
  | 't' => some (.literal '\t' false)
  | 'n' => some (.literal '\n' false)
  | 'v' => some (.literal '\x0b' false)
  | 'f' => some (.literal '\x0c' false)
  | 'r' => some (.literal '\r' false)
  | _ => if isEscapable c then some (.literal c false) else none

def readEscape (m : Modes) : List Char → Option (Primitive × List Char)
  | [] => none
  | 'x' :: rest => readNumbered m 2 rest
  | 'u' :: rest => readNumbered m 4 rest
  | 'U' :: rest => readNumbered m 8 rest
  | c :: rest => (escaped? c).map (·, rest)

end EngineBridge.Pattern
