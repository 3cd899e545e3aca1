import EngineBridge.Yaml.Token

/-!
The tree that a document describes. An alias holds the node for which it stands, so a tree can be
far larger when its aliases are followed than as it is written; the size of what following would
cost is found without doing it.
-/

namespace EngineBridge.Yaml

/-- What following the aliases of a node meets: the number of aliases and the nesting. -/
structure Expansion where
  jumps : Nat
  depth : Nat
  deriving Repr, DecidableEq

abbrev Tag := Text.Bytes

inductive Node
  | scalar (mark : Mark) (tag : Option Tag) (style : Style) (text : String)
  | sequence (mark : Mark) (tag : Option Tag) (items : List Node)
  | mapping (mark : Mark) (tag : Option Tag) (entries : List (Node × Node))
  | alias (expansion : Expansion) (target : Node)

namespace Node

def target : Node → Node
  | .alias _ n => n.target
  | n => n

def isAlias : Node → Bool
  | .alias .. => true
  | _ => false

/-- Where a node starts; an alias starts where its target does. -/
def mark : Node → Mark
  | .scalar m .. | .sequence m .. | .mapping m .. => m
  | .alias _ n => n.mark

end Node

def Expansion.beside (a b : Expansion) : Expansion := ⟨a.jumps + b.jumps, max a.depth b.depth⟩

def Expansion.nested (a : Expansion) : Expansion := { a with depth := a.depth + 1 }

def Expansion.jumped (a : Expansion) : Expansion := { a with jumps := a.jumps + 1 }

namespace Node

mutual

def expansion : Node → Expansion
  | .scalar .. => ⟨0, 0⟩
  | .sequence _ _ items => (itemsExpansion items).nested
  | .mapping _ _ entries => (entriesExpansion entries).nested
  | .alias e _ => e.jumped

def itemsExpansion : List Node → Expansion
  | [] => ⟨0, 0⟩
  | n :: rest => n.expansion.beside (itemsExpansion rest)

def entriesExpansion : List (Node × Node) → Expansion
  | [] => ⟨0, 0⟩
  | (k, v) :: rest => (k.expansion.beside v.expansion).beside (entriesExpansion rest)

end

mutual

/-- The number of parts of a node as it is written: scalars, aliases, and the two ends of each
collection. -/
def written : Node → Nat
  | .scalar .. | .alias .. => 1
  | .sequence _ _ items => 2 + itemsWritten items
  | .mapping _ _ entries => 2 + entriesWritten entries

def itemsWritten : List Node → Nat
  | [] => 0
  | n :: rest => n.written + itemsWritten rest

def entriesWritten : List (Node × Node) → Nat
  | [] => 0
  | (k, v) :: rest => k.written + v.written + entriesWritten rest

end

def depthLimit : Nat := 128

/-- Following aliases may cost a hundred jumps for each written part. -/
def isModest (n : Node) : Bool :=
  n.expansion.depth ≤ depthLimit && n.expansion.jumps ≤ 100 * n.written

end Node

end EngineBridge.Yaml
