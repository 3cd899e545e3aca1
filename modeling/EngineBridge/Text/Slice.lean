/-!
Parts of a text between two byte positions. A position inside a character cuts it, and such a part
does not exist.
-/

namespace EngineBridge.Text

def takeBytes? : Nat → List Char → Option (List Char)
  | 0, _ => some []
  | _ + 1, [] => none
  | n + 1, c :: rest =>
    if c.utf8Size ≤ n + 1 then (takeBytes? (n + 1 - c.utf8Size) rest).map (c :: ·) else none

def dropBytes? : Nat → List Char → Option (List Char)
  | 0, cs => some cs
  | _ + 1, [] => none
  | n + 1, c :: rest => if c.utf8Size ≤ n + 1 then dropBytes? (n + 1 - c.utf8Size) rest else none

def slice? (cs : List Char) (first last : Nat) : Option (List Char) :=
  (takeBytes? last cs).bind (dropBytes? first)

end EngineBridge.Text
