import EngineBridge.Pattern.Escape

/-!
Sets of characters in brackets: characters, ranges, named classes and sets within sets, joined or
combined by the operators `&&`, `--` and `~~`. Of a set only its nesting is kept, as a pattern may
not nest too deep.
-/

namespace EngineBridge.Pattern

/-- The nesting of parts that stand side by side; a part that stands alone adds no level. -/
def nestingBeside : List Nat → Nat
  | [] => 0
  | [n] => n
  | ns => 1 + ns.foldl max 0

/-- A set that is being read: the nesting of what stands before the last operator, and of each
member after it. -/
structure OpenSet where
  left : Option Nat
  members : List Nat

namespace OpenSet

def empty : OpenSet := ⟨none, []⟩

def add (s : OpenSet) (nesting : Nat) : OpenSet := { s with members := nesting :: s.members }

def nesting (s : OpenSet) : Nat :=
  let right := nestingBeside s.members
  match s.left with
  | none => right
  | some left => 1 + max left right

def operate (s : OpenSet) : OpenSet := ⟨some s.nesting, []⟩

end OpenSet

def classNames : List String :=
  ["alnum", "alpha", "ascii", "blank", "cntrl", "digit", "graph", "lower", "print", "punct",
    "space", "upper", "word", "xdigit"]

def namedClass? : List Char → Option (Bool × List Char)
  | '[' :: ':' :: rest =>
    let (negated, rest) := match rest with
      | '^' :: rest => (true, rest)
      | rest => (false, rest)
    match rest.span (· != ':') with
    | (name, ':' :: ']' :: rest) =>
      if classNames.contains (String.ofList name) then some (negated, rest) else none
    | _ => none
  | _ => none

def readMember (m : Modes) : List Char → Option (Primitive × List Char)
  | [] => none
  | '\\' :: rest => readEscape m rest
  | c :: rest => some (.literal c false, rest)

/-- Passes a member or a range. A dash before the closing bracket or before another dash makes no
range. -/
def passRange (m : Modes) (cs : List Char) : Option (List Char) := do
  let (first, rest) ← readMember m cs
  let alone (rest : List Char) : Option (List Char) :=
    match first with
    | .literal c _ => if m.allowsMember c then some rest else none
    | .shorthand negated => if m.allowsShorthand negated then some rest else none
    | .anchor | .wordBoundary => none
  match m.skip rest with
  | [] => none
  | '-' :: rest =>
    let next := m.decisive rest
    if next = some ']' || next = some '-' then alone ('-' :: rest)
    else
      match first, ← readMember m (m.skip rest) with
      | .literal a _, (.literal b _, rest) =>
        if m.allowsMember a && m.allowsMember b && a ≤ b then some rest else none
      | _, _ => none
  | rest => alone rest

def readDashes (m : Modes) : Nat → OpenSet → List Char → OpenSet × List Char
  | fuel + 1, s, '-' :: rest => readDashes m fuel (s.add 0) (m.skip rest)
  | _, s, cs => (s, cs)

/-- Opens a set, of which the first bracket is passed. A closing bracket is a member where a set
would else be without one. -/
def openSet (m : Modes) (cs : List Char) : Option (OpenSet × List Char) := do
  let cs := m.skip cs
  let (negated, cs) := match cs with
    | '^' :: rest => (true, m.skip rest)
    | cs => (false, cs)
  if negated && !m.allowsComplement then none
  else
    let (s, cs) := readDashes m cs.length .empty cs
    let (s, cs) := match s.members, cs with
      | [], ']' :: rest => (s.add 0, m.skip rest)
      | _, cs => (s, cs)
    if s.members.isEmpty || m.allowsMember '-' then return (s, cs) else none

def readSet (m : Modes) : Nat → OpenSet → List Char → Option (Nat × List Char)
  | 0, _, _ => none
  | fuel + 1, s, cs =>
    match m.skip cs with
    | [] => none
    | ']' :: rest => some (1 + s.nesting, rest)
    | '[' :: rest =>
      match namedClass? ('[' :: rest) with
      | some (negated, rest) =>
        if m.allowsNamed negated then readSet m fuel (s.add 0) rest else none
      | none => do
        let (inner, rest) ← openSet m rest
        let (nesting, rest) ← readSet m fuel inner rest
        readSet m fuel (s.add nesting) rest
    | '&' :: '&' :: rest | '-' :: '-' :: rest | '~' :: '~' :: rest =>
      readSet m fuel s.operate rest
    | cs => do readSet m fuel (s.add 0) (← passRange m cs)

end EngineBridge.Pattern
