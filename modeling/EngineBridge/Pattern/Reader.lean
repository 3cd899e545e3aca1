import EngineBridge.Pattern.Set
import EngineBridge.Text.Alphabetic

/-!
Reading a pattern, to tell whether an automaton can be built that matches it. A pattern is made of
branches, a branch of parts, and a part may be repeated. Patterns hold no closing brace, so there
are no counted repetitions. An automaton has no way to tell where words end in Unicode text.
-/

namespace EngineBridge.Pattern

inductive Defect
  | malformed
  | unsupported
  deriving Repr, DecidableEq

def Defect.message : Defect → String
  | .malformed => "error building NFA"
  | .unsupported => "unsupported regex feature for DFAs"

/-- A part of a branch: flags that hold from there on, or something of a given nesting. -/
inductive Part
  | flags
  | item (nesting : Nat)
  deriving Repr, DecidableEq

def Part.nesting : Part → Nat
  | .flags => 0
  | .item n => n

/-- What has been read of a group or of the whole pattern. The current branch has its last part in
front. Names and word boundaries are those of the whole pattern so far. -/
structure Scope where
  modes : Modes
  closed : List Nat
  branch : List Part
  names : List String
  boundary : Bool

namespace Scope

def start : Scope := ⟨.initial, [], [], [], false⟩

def add (s : Scope) (p : Part) : Scope := { s with branch := p :: s.branch }

def branchNesting (s : Scope) : Nat := nestingBeside (s.branch.map Part.nesting)

def closeBranch (s : Scope) : Scope :=
  { s with closed := s.branchNesting :: s.closed, branch := [] }

def nesting (s : Scope) : Nat := nestingBeside s.closeBranch.closed

def inner (s : Scope) (modes : Modes) : Scope := { s with modes, closed := [], branch := [] }

def leave (s g : Scope) : Scope :=
  { s with
    branch := .item (1 + g.nesting) :: s.branch
    names := g.names
    boundary := g.boundary }

def repeated (s : Scope) : Option Scope :=
  match s.branch with
  | .item n :: earlier => some { s with branch := .item (1 + n) :: earlier }
  | _ => none

end Scope

/-! Groups. -/

def isNameChar (first : Bool) (c : Char) : Bool :=
  c = '_' ||
    if first then Text.isAlphabetic c
    else c = '.' || c = '[' || c = ']' || Text.isAlphanumeric c

def readName (names : List String) (cs : List Char) : Option (String × List Char) :=
  match cs.span (· != '>') with
  | (c :: name, '>' :: rest) =>
    let text := String.ofList (c :: name)
    if isNameChar true c && name.all (isNameChar false) && !names.contains text then
      some (text, rest)
    else none
  | _ => none

inductive Opening
  | group (inner : Scope)
  | flags (modes : Modes)

def readFlagOpening (s : Scope) (cs : List Char) : Option (Opening × List Char) := do
  let (l, rest) ← (FlagList.start s.modes).read cs
  match rest with
  | ':' :: rest => return (.group (s.inner l.modes), rest)
  | _ :: rest => if l.isEmpty then none else return (.flags l.modes, rest)
  | [] => none

/-- Reads what follows an opening parenthesis. A pattern cannot look around. -/
def readOpening (s : Scope) (cs : List Char) : Option (Opening × List Char) :=
  let named (rest : List Char) : Option (Opening × List Char) :=
    (readName s.names rest).map fun (name, rest) =>
      (.group { s.inner s.modes with names := name :: s.names }, rest)
  match s.modes.skip cs with
  | '?' :: '<' :: '=' :: _ | '?' :: '<' :: '!' :: _ => none
  | '?' :: 'P' :: '<' :: rest => named rest
  | '?' :: '<' :: rest => named rest
  | '?' :: rest => readFlagOpening s rest
  | rest => some (.group (s.inner s.modes), rest)

/-! Parts. -/

def Scope.addPrimitive (s : Scope) : Primitive → Option Scope
  | .literal c octet => if s.modes.allowsLiteral c octet then some (s.add (.item 0)) else none
  | .shorthand negated => if s.modes.allowsShorthand negated then some (s.add (.item 0)) else none
  | .anchor => some (s.add (.item 0))
  | .wordBoundary => some { s.add (.item 0) with boundary := s.boundary || s.modes.unicode }

def Scope.read : Nat → Scope → List Char → Option (Scope × List Char)
  | 0, _, _ => none
  | fuel + 1, s, cs =>
    match s.modes.skip cs with
    | [] => some (s, [])
    | ')' :: rest => some (s, ')' :: rest)
    | '|' :: rest => read fuel s.closeBranch rest
    | '(' :: rest => do
      match ← readOpening s rest with
      | (.flags modes, rest) => read fuel { s.add .flags with modes } rest
      | (.group g, rest) =>
        match ← read fuel g rest with
        | (g, ')' :: rest) => read fuel (s.leave g) rest
        | _ => none
    | '[' :: rest => do
      let (set, rest) ← openSet s.modes rest
      let (nesting, rest) ← readSet s.modes (rest.length + 1) set rest
      read fuel (s.add (.item nesting)) rest
    | '*' :: '?' :: rest | '+' :: '?' :: rest | '?' :: '?' :: rest => do
      read fuel (← s.repeated) rest
    | '*' :: rest | '+' :: rest | '?' :: rest => do read fuel (← s.repeated) rest
    | '\x7b' :: _ => none
    | '.' :: rest => if s.modes.allowsComplement then read fuel (s.add (.item 0)) rest else none
    | '^' :: rest | '$' :: rest => read fuel (s.add (.item 0)) rest
    | '\\' :: rest => do
      let (p, rest) ← readEscape s.modes rest
      read fuel (← s.addPrimitive p) rest
    | c :: rest => do read fuel (← s.addPrimitive (.literal c false)) rest

def nestingLimit : Nat := 250

def defect? (cs : List Char) : Option Defect :=
  match Scope.start.read (cs.length + 1) cs with
  | some (s, []) =>
    if nestingLimit < s.nesting then some .malformed
    else if s.boundary then some .unsupported
    else none
  | _ => some .malformed

end EngineBridge.Pattern
