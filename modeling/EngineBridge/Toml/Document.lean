import EngineBridge.Toml.Table

/-!
From a text to its root table: keys, arrays and inline tables, and the lines of a document. An
ill-formed text has no table.
-/

namespace EngineBridge.Toml

/-- Collections nest, and dotted keys have parts, fewer than this many times. -/
def nestingLimit : Nat := 80

namespace Read

/-! Keys. -/

def isKeyChar (c : Char) : Bool := c.isAlphanum || c = '_' || c = '-'

def simpleKey : Read Key := do
  let (name, span) ← spanned (basicText <|> literalText <|> takeSome isKeyChar)
  return ⟨String.ofList name, span⟩

def dottedKey : Read (List Key × Key) := do
  let keys ← separated (do
    blanks
    let k ← simpleKey
    blanks
    return k) (literal ['.'])
  match keys.getLast? with
  | some last => if keys.length < nestingLimit then return (keys.dropLast, last) else failure
  | none => failure

/-! Collections. -/

structure Entry where
  path : List Key
  key : Key
  value : Value
  span : Span

def entry (value : Read Value) : Read Entry := do
  let (path, key) ← dottedKey
  literal ['=']
  blanks
  let (v, span) ← spanned value
  return ⟨path, key, v, span⟩

def array (value : Read Value) : Read Value := do
  literal ['[']
  let _ ← optional (do
    let _ ← separated (do
      gap
      let _ ← value
      gap) (literal [','])
    optional (literal [',']))
  gap
  literal [']']
  return .array

def inlineTable (value : Read Value) : Read Value := do
  literal ['\x7b']
  let entries ← optional (separated (do
    let e ← entry value
    blanks
    return e) (literal [',']))
  blanks
  literal ['\x7d']
  let built := (entries.getD []).foldlM
    (fun (t : Table) e => t.addDotted? e.path e.key (.value e.value e.span))
    (Table.empty .declared none)
  if built.isSome then return .table else failure

def valueWithin : Nat → Read Value
  | 0 => scalar
  | n + 1 => scalar <|> array (valueWithin n) <|> inlineTable (valueWithin n)

def value : Read Value := valueWithin (nestingLimit - 1)

/-! Lines. -/

def inBrackets (opening closing : List Char) : Read ((List Key × Key) × Span) :=
  spanned (do
    literal opening
    let keys ← dottedKey
    literal closing
    return keys)

def ofOption {α : Type} : Option α → Read α
  | some a => return a
  | none => failure

def headerLine (d : Draft) : Read Draft := do
  let d ← (do
      let ((path, key), span) ← inBrackets ['[', '['] [']', ']']
      ofOption (d.openElement? path key span)) <|> (do
      let ((path, key), span) ← inBrackets ['['] [']']
      ofOption (d.openTable? path key span))
  trailing
  return d

def entryLine (d : Draft) : Read Draft := do
  let e ← entry value
  trailing
  ofOption (d.addEntry? e.path e.key e.value e.span)

def commentLine (d : Draft) : Read Draft := do
  comment
  lineEnd
  return d

def emptyLine (d : Draft) : Read Draft := do
  lineBreak
  return d

def line (d : Draft) : Read Draft := do
  blanks
  commentLine d <|> emptyLine d <|> headerLine d <|> entryLine d

def lines : Nat → Draft → Read Draft
  | 0, _ => failure
  | fuel + 1, d => do
    blanks
    if ← atEnd then return d else lines fuel (← line d)

def byteOrderMark : Read Unit := literal ['\uFEFF']

end Read

def Table.ofText? (text : String) : Option Table := do
  let start := Cursor.ofText text.toList
  let ((), start) ← (do let _ ← Read.optional Read.byteOrderMark : Read Unit) start
  let (d, _) ← Read.lines (start.size + 1) .empty start
  d.finish?

end EngineBridge.Toml
