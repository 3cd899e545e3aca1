import EngineBridge.Decimal.Shortest
import EngineBridge.Text.Digit
import EngineBridge.Toml.Cursor

/-!
The values that hold no others: texts in four forms of quotes, integers of 64 bits, floating
point numbers, booleans, and dates and times. The contents of dates, arrays and tables are checked
and not kept, as no setting is made of them.
-/

namespace EngineBridge.Toml

inductive Value
  | text (s : String)
  | integer (n : Int)
  | float (bits : UInt64)
  | bool (b : Bool)
  | moment
  | array
  | table
  deriving Repr, DecidableEq

namespace Read

open Text (hexDigit?)

/-! Texts. -/

def isHexDigit (c : Char) : Bool := (hexDigit? c).isSome

def number (base : Nat) (digits : List Char) : Nat :=
  digits.foldl (fun n c => n * base + (hexDigit? c).getD 0) 0

def scalarValue (digits : Nat) : Read Char := do
  let n := number 16 (← exactly digits isHexDigit)
  if n.isValidChar then return Char.ofNat n else failure

def escapeSequence : Read Char := do
  literal ['\\']
  match ← char fun _ => true with
  | 'b' => return '\x08'
  | 't' => return '\t'
  | 'n' => return '\n'
  | 'f' => return '\x0c'
  | 'r' => return '\r'
  | '"' => return '"'
  | '\\' => return '\\'
  | 'u' => scalarValue 4
  | 'U' => scalarValue 8
  | _ => failure

def isBasicChar (c : Char) : Bool := isPrinting c && c != '"' && c != '\\'

def isLiteralChar (c : Char) : Bool := isPrinting c && c != '\''

def basicText : Read (List Char) := do
  literal ['"']
  let parts ← many (takeSome isBasicChar <|> List.singleton <$> escapeSequence)
  literal ['"']
  return parts.flatten

def literalText : Read (List Char) := do
  literal ['\'']
  let text ← takeWhile isLiteralChar
  literal ['\'']
  return text

def newline : Read (List Char) := do
  lineBreak
  return ['\n']

/-- A backslash at the end of a line, with all white space up to the next word. -/
def continuation : Read (List Char) := do
  literal ['\\']
  blanks
  lineBreak
  let _ ← many ((do let _ ← takeSome isBlank) <|> lineBreak)
  return []

/-- The rest of a text between threefold quotes. One or two quotes may stand inside, also right
before the closing ones. -/
def multilineBody (quote : Char) (part : Read (List Char)) : Read (List Char) := do
  let quotes (n : Nat) : List Char := List.replicate n quote
  let inner (n : Nat) : Read (List Char) := do
    literal (quotes n)
    return quotes n ++ (← part)
  let _ ← optional lineBreak
  let parts ← many (part <|> inner 2 <|> inner 1)
  let closing (n : Nat) : Read (List Char) := do
    literal (quotes (n + 3))
    return quotes n
  let last ← closing 2 <|> closing 1 <|> closing 0
  return parts.flatten ++ last

def multilineBasicText : Read (List Char) := do
  literal ['"', '"', '"']
  multilineBody '"'
    (takeSome isBasicChar <|> continuation <|> List.singleton <$> escapeSequence <|> newline)

def multilineLiteralText : Read (List Char) := do
  literal ['\'', '\'', '\'']
  multilineBody '\'' (takeSome isLiteralChar <|> newline)

def text : Read Value :=
  (fun cs => .text (String.ofList cs)) <$>
    (multilineBasicText <|> basicText <|> multilineLiteralText <|> literalText)

/-! Numbers. -/

def digits (p : Char → Bool) : Read (List Char) := do
  let first ← char p
  let more ← many (do
    let _ ← optional (literal ['_'])
    char p)
  if ← nextIs (· = '_') then failure else return first :: more

def sign : Read Bool := do
  return (← optional (char fun c => c = '+' || c = '-')) == some '-'

def wholeDigits : Read (List Char) := do
  if ← nextIs (· = '0') then
    literal ['0']
    return ['0']
  else digits Char.isDigit

def fits64 (n : Int) : Bool := -0x8000000000000000 ≤ n && n < 0x8000000000000000

def integerOf (n : Int) : Read Value := if fits64 n then return .integer n else failure

def basedInteger (letter : Char) (base : Nat) : Read Value := do
  literal ['0', letter]
  integerOf (number base (← digits fun c => (hexDigit? c).any fun d => d < base))

def decimalInteger : Read Value := do
  let negative ← sign
  let n : Int := number 10 (← wholeDigits)
  integerOf (if negative then -n else n)

def integer : Read Value :=
  basedInteger 'x' 16 <|> basedInteger 'o' 8 <|> basedInteger 'b' 2 <|> decimalInteger

def fraction : Read (List Char) := do
  literal ['.']
  digits Char.isDigit

def exponent : Read Int := do
  let _ ← char fun c => c = 'e' || c = 'E'
  let negative ← sign
  let n : Int := number 10 (← digits Char.isDigit)
  return if negative then -n else n

def infinity : UInt64 := 0x7FF0000000000000

def notANumber : UInt64 := 0x7FF8000000000000

/-- A number with a fraction, an exponent or both. It may not be so large as to be infinite. -/
def decimalFloat : Read Value := do
  let negative ← sign
  let whole ← wholeDigits
  let fraction? ← optional fraction
  let exponent? ← optional exponent
  if fraction?.isNone && exponent?.isNone then failure
  else
    let behind := fraction?.getD []
    let bits := Decimal.toBits negative
      ⟨number 10 (whole ++ behind), exponent?.getD 0 - behind.length⟩
    if bits = infinity then failure else return .float bits

def specialFloat : Read Value := do
  let negative ← sign
  let bits ← (do literal "inf".toList; return infinity) <|>
    (do literal "nan".toList; return notANumber)
  return .float (bits ||| (if negative then 0x8000000000000000 else 0))

/-! Dates and times. -/

def padded (width low high : Nat) : Read Nat := do
  let n := number 10 (← exactly width Char.isDigit)
  if low ≤ n && n ≤ high then return n else failure

def isLeap (year : Nat) : Bool := year % 4 = 0 && (year % 100 != 0 || year % 400 = 0)

def daysIn (year month : Nat) : Nat :=
  if month = 2 then (if isLeap year then 29 else 28)
  else if [4, 6, 9, 11].contains month then 30
  else 31

def date : Read Unit := do
  let year ← padded 4 0 9999
  literal ['-']
  let month ← padded 2 1 12
  literal ['-']
  let _ ← padded 2 1 (daysIn year month)

def time : Read Unit := do
  let _ ← padded 2 0 23
  literal [':']
  let _ ← padded 2 0 59
  literal [':']
  let _ ← padded 2 0 60
  let _ ← optional (do
    literal ['.']
    takeSome Char.isDigit)

def zone : Read Unit :=
  (do let _ ← char fun c => c = 'Z' || c = 'z') <|> (do
    let _ ← char fun c => c = '+' || c = '-'
    let _ ← padded 2 0 23
    literal [':']
    let _ ← padded 2 0 59)

def moment : Read Value := do
  (do
    date
    let _ ← optional (do
      let _ ← char fun c => c = 'T' || c = 't' || c = ' '
      time
      optional zone)) <|> time
  return .moment

def boolean : Read Value :=
  (do literal "true".toList; return .bool true) <|>
    (do literal "false".toList; return .bool false)

def scalar : Read Value :=
  text <|> boolean <|> moment <|> decimalFloat <|> specialFloat <|> integer

end Read

end EngineBridge.Toml
