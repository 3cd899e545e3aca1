/-!
Sets of characters given by ranges of their numbers, both ends included.
-/

namespace EngineBridge.Text

def inRanges (c : Char) (tables : List (List (Nat × Nat))) : Bool :=
  tables.any fun t => t.any fun r => r.1 ≤ c.toNat && c.toNat ≤ r.2

end EngineBridge.Text
