import EngineBridge.Toml.Cursor

/-!
A message about a stretch of a text, with the line where the stretch starts and carets under it.
Lines and columns are counted from one, columns in characters.
-/

namespace EngineBridge.Toml

structure Place where
  line : Nat
  column : Nat
  deriving Repr, DecidableEq

def before : Nat → List Char → List Char
  | _, [] => []
  | offset, c :: rest =>
    if offset < c.utf8Size then [] else c :: before (offset - c.utf8Size) rest

def placeOf (text : String) (offset : Nat) : Place :=
  let front := before offset text.toList
  ⟨front.count '\n', (front.reverse.takeWhile (· != '\n')).length⟩

def spaces (n : Nat) : String := String.ofList (List.replicate n ' ')

/-- At least one caret, and none behind the end of the line. -/
def carets (width room : Nat) : String :=
  String.ofList (List.replicate (max 1 (min width room)) '^')

def excerpt (text : String) (span : Span) (message : String) : String :=
  let place := placeOf text span.start
  let content := (text.splitOn "\n").getD place.line ""
  let number := toString (place.line + 1)
  let gutter := spaces (number.length + 1) ++ "|"
  let marked := carets (span.stop - span.start) (content.utf8ByteSize - place.column)
  "TOML parse error at line " ++ number ++ ", column " ++ toString (place.column + 1) ++ "\n" ++
    gutter ++ "\n" ++
    number ++ " | " ++ content ++ "\n" ++
    gutter ++ spaces (place.column + 1) ++ marked ++ "\n" ++
    message ++ "\n"

end EngineBridge.Toml
