import EngineBridge.Decimal.Shortest
import EngineBridge.Yaml.Document

/-!
What a node means. A plain scalar without a tag may be a null, a boolean or a number; a core tag
asks for one of these in any style. A document is well-formed when each scalar fits its tag, each
integer fits 64 bits, the keys of each mapping differ, and following its aliases is affordable.
-/

namespace EngineBridge.Yaml

open Text (hexDigit?)

inductive Scalar
  | null
  | bool (b : Bool)
  | int (n : Int)
  | float (bits : UInt64)
  | text (s : String)
  deriving Repr, DecidableEq

namespace Scalar

def isNull (s : String) : Bool := ["null", "Null", "NULL", "~"].contains s

def bool? (s : String) : Option Bool :=
  if ["true", "True", "TRUE"].contains s then some true
  else if ["false", "False", "FALSE"].contains s then some false
  else none

/-! Integers. -/

/-- Digits with leading zeros are text. -/
def isZeroPadded (cs : List Char) : Bool :=
  let digits := match cs with
    | '-' :: ds | '+' :: ds => ds
    | ds => ds
  match digits with
  | '0' :: d :: ds => (d :: ds).all Char.isDigit
  | _ => false

def digitsIn? (base : Nat) (cs : List Char) : Option Nat :=
  if cs.isEmpty then none
  else cs.foldlM (fun n c => do
    let d ← hexDigit? c
    if d < base then some (n * base + d) else none) 0

def based? : List Char → Option Nat
  | '0' :: 'x' :: ds => digitsIn? 16 ds
  | '0' :: 'o' :: ds => digitsIn? 8 ds
  | '0' :: 'b' :: ds => digitsIn? 2 ds
  | _ => none

def magnitude? (padded : Bool) (cs : List Char) : Option Nat :=
  (based? cs).or (if padded then none else digitsIn? 10 cs)

def integer? (cs : List Char) : Option Int :=
  let padded := isZeroPadded cs
  match cs with
  | '-' :: ds => (magnitude? padded ds).map fun n => -(n : Int)
  | '+' :: ds => (magnitude? padded ds).map fun n => (n : Int)
  | ds => (magnitude? padded ds).map fun n => (n : Int)

def fits64 (n : Int) : Bool := -0x8000000000000000 ≤ n && n < 0x10000000000000000

/-- Beyond 128 bits nothing is read as an integer. -/
def fits128 (n : Int) : Bool := 
  -0x80000000000000000000000000000000 ≤ n && n < 0x100000000000000000000000000000000

/-! Floating point. -/

def infinity : UInt64 := 0x7FF0000000000000

def notANumber : UInt64 := 0x7FF8000000000000

def finite? (negative : Bool) (cs : List Char) : Option UInt64 :=
  (Decimal.readNumeral cs).map (Decimal.toBits negative) |>.filter Decimal.isFinite

def float? (s : String) : Option UInt64 :=
  if [".inf", ".Inf", ".INF", "+.inf", "+.Inf", "+.INF"].contains s then some infinity
  else if ["-.inf", "-.Inf", "-.INF"].contains s then some (infinity ||| 0x8000000000000000)
  else if [".nan", ".NaN", ".NAN"].contains s then some notANumber
  else match s.toList with
    | '-' :: cs => finite? true cs
    | '+' :: cs => finite? false cs
    | cs => finite? false cs

/-- The meaning of a plain scalar; an integer of more than 64 bits has none. -/
def ofPlain? (s : String) : Option Scalar :=
  let cs := s.toList
  if s = "" || isNull s then some .null
  else match bool? s with
    | some b => some (.bool b)
    | none =>
      match (integer? cs).filter fits128 with
      | some n => if fits64 n then some (.int n) else none
      | none =>
        match if isZeroPadded cs then none else float? s with
        | some bits => some (.float bits)
        | none => some (.text s)

def coreTag (name : String) : Option Tag := some (Text.Utf8.encode ("tag:yaml.org,2002:" ++ name))

def isLocalTag (tag : Option Tag) : Bool := tag.any fun t => t.head? == some 0x21

/-- The meaning of a scalar with its tag and style; one that does not fit its tag has none. -/
def resolve? (tag : Option Tag) (style : Style) (s : String) : Option Scalar :=
  if tag = coreTag "bool" then (bool? s).map .bool
  else if tag = coreTag "int" then
    ((integer? s.toList).filter fits64).map .int
  else if tag = coreTag "float" then (float? s).map .float
  else if tag = coreTag "null" then (if isNull s then some .null else none)
  else if (tag.isNone || isLocalTag tag) && style = .plain then ofPlain? s
  else some (.text s)

end Scalar

/-! Values. -/

inductive Value
  | scalar (s : Scalar)
  | sequence (items : List Value)
  | mapping (entries : List (Value × Value))
  | tagged (tag : String) (v : Value)

/-- Numbers are the same when they compare equal, or when neither is a number. -/
def Scalar.same : Scalar → Scalar → Bool
  | .float a, .float b => a == b || ((a ||| b) <<< 1 == 0)
  | a, b => a = b

namespace Value

mutual

/-- Equality; the order of the entries of a mapping does not count. -/
def same : Value → Value → Bool
  | .scalar a, .scalar b => a.same b
  | .sequence xs, .sequence ys => sameItems xs ys
  | .mapping xs, .mapping ys => xs.length == ys.length && sameEntries xs ys
  | .tagged s v, .tagged t w => s == t && same v w
  | _, _ => false

def sameItems : List Value → List Value → Bool
  | [], [] => true
  | x :: xs, y :: ys => same x y && sameItems xs ys
  | _, _ => false

def sameEntries : List (Value × Value) → List (Value × Value) → Bool
  | [], _ => true
  | (k, v) :: rest, ys =>
    (ys.any fun y => same k y.1 && same v y.2) && sameEntries rest ys

end

def distinct : List Value → Bool
  | [] => true
  | v :: rest => !rest.any (same v) && distinct rest

def ofEntries? (entries : List (Value × Value)) : Option Value :=
  if distinct (entries.map Prod.fst) then some (.mapping entries) else none

/-- The name without the exclamation mark before it; a mark that stands alone is a name. -/
def unmarked (name : String) : String :=
  match name.toList with
  | '!' :: c :: rest => String.ofList (c :: rest)
  | _ => name

/-- The value under a local tag. Up to two marks before its name do not count, and bytes that spell
no text name nothing. -/
def tag (t : Option Tag) (v : Value) : Value :=
  match (t.filter fun bs => Scalar.isLocalTag (some bs)).map Text.Utf8.decode with
  | some (.ok name) => .tagged (unmarked (unmarked name)) v
  | _ => v

mutual

def ofNode? : Node → Option Value
  | .scalar _ t style s => (Scalar.resolve? t style s).map fun v => tag t (.scalar v)
  | .sequence _ t items => (ofItems? items).map fun vs => tag t (.sequence vs)
  | .mapping _ t entries => do return tag t (← ofEntries? (← ofPairs? entries))
  | .alias _ target => ofNode? target

def ofItems? : List Node → Option (List Value)
  | [] => some []
  | n :: rest => do return (← ofNode? n) :: (← ofItems? rest)

def ofPairs? : List (Node × Node) → Option (List (Value × Value))
  | [] => some []
  | (k, v) :: rest => do return (← ofNode? k, ← ofNode? v) :: (← ofPairs? rest)

end

end Value

def Node.isWellFormed (n : Node) : Bool := n.isModest && (Value.ofNode? n).isSome

end EngineBridge.Yaml
