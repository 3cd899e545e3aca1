import EngineBridge.Config.OfToml
import EngineBridge.Yaml.Value

/-!
The entries of a YAML text. The document is empty or a mapping; keys and values are read as they are
written, whatever they would mean. A mismatch is reported with its place, provided that the text is
well-formed. How an ill-formed text is reported is left open.
-/

namespace EngineBridge.Config

open Yaml (Node Mark)

namespace OfYaml

structure Fault where
  mismatch : Mismatch
  path : Option String
  mark : Mark
  deriving Repr, DecidableEq

/-- The place is counted from one and left out at the very start of a text. -/
def Fault.message (f : Fault) : String :=
  let lead := match f.path with
    | some p => p ++ ": "
    | none => ""
  let place :=
    if f.mark.line = 0 && f.mark.column = 0 then ""
    else " at line " ++ toString (f.mark.line + 1) ++ " column " ++ toString (f.mark.column + 1)
  lead ++ f.mismatch.message ++ place

def scalarText (expected : Expected) (n : Node) : Except Mismatch String :=
  match n.target with
  | .scalar _ _ _ text => .ok text
  | .sequence .. => .error (.wrongType .sequence expected)
  | .mapping .. | .alias .. => .error (.wrongType .map expected)

/-- A plain scalar that is empty or null stands for no library. Under the core tag for nulls it
has to be null; nothing is reported otherwise, as the document is ill-formed. -/
def libraryPath (n : Node) : Except (Option Mismatch) (Option String) :=
  let text := (scalarText .path n).mapError some |>.map some
  match n.target with
  | .scalar _ none .plain s => if s = "" || Yaml.Scalar.isNull s then .ok none else text
  | .scalar _ tag .plain s =>
    if tag = Yaml.Scalar.coreTag "null" then
      (if Yaml.Scalar.isNull s then .ok none else .error none)
    else text
  | _ => text

def foundScalar : Yaml.Scalar → Found
  | .null => .unit
  | .bool b => .bool b
  | .int n => .integer n
  | .float bits => .float bits
  | .text s => .text s

/-- One entry of the mapping that starts at `start`. A value under an aliased key has no name to
report. -/
def entry (tell : Option Fault → String) (start : Mark) (key value : Node) : Entry String :=
  let read := scalarText .fieldName key
  let name := read.toOption.getD ""
  let path := if key.isAlias then "?" else name
  let valued (m : Option Mismatch) : String := tell (m.map fun m => ⟨m, some path, value.mark⟩)
  { name := read.mapError fun m => tell (some ⟨m, none, key.mark⟩)
    path := (libraryPath value).mapError valued
    text := (scalarText .text value).mapError fun m => valued (some m)
    unknown := tell (some ⟨.unknownField name, none, key.mark⟩)
    repeated := tell (some ⟨.duplicateField name, none, start⟩) }

/-- The entries of a node. A scalar without meaning is not reported, as its document is
ill-formed. -/
def entries (tell : Option Fault → String) (n : Node) : Except String (List (Entry String)) :=
  match n.target with
  | .mapping start _ pairs => .ok (pairs.map fun (key, value) => entry tell start key value)
  | .sequence mark .. => .error (tell (some ⟨.wrongType .sequence .settings, none, mark⟩))
  | .scalar mark tag style text =>
    if style = .plain && text = "" then .ok []
    else
      .error (tell ((Yaml.Scalar.resolve? tag style text).map fun s =>
        ⟨.wrongType (foundScalar s) .settings, none, mark⟩))
  | .alias .. => .error (tell none)

end OfYaml

def ofYaml (illFormed : String → String) : Parser := fun text =>
  match Node.ofText? text with
  | none => .error (illFormed text)
  | some n =>
    OfYaml.entries (fun f => (f.filter fun _ => n.isWellFormed).elim (illFormed text)
      OfYaml.Fault.message) n

/-- The parsers of both formats. -/
def parser (illFormed : String → String) : Format → Parser
  | .yaml => ofYaml illFormed
  | .toml => ofToml illFormed

end EngineBridge.Config
