import EngineBridge.Config.Document
import EngineBridge.Error

/-!
A configuration from a file. The extension of the file's name decides on the format. What stands in
the file is up to the system, and what it says is up to the parser of the format.
-/

namespace EngineBridge.Config

open Text (Bytes)

inductive Format
  | yaml
  | toml
  deriving Repr, DecidableEq

def components (path : String) : List String := (path.toList.splitOn '/').map String.ofList

/-- The part of the last name after its last dot; a name that only starts with a dot has none. -/
def extension? (path : String) : Option String :=
  let names := (components path).filter fun c => c != "" && c != "."
  match names.getLast? with
  | none | some ".." => none
  | some name =>
    match (name.toList.reverse.span (· != '.')) with
    | (after, '.' :: before) =>
      if before.isEmpty then none else some (String.ofList after.reverse)
    | _ => none

def Format.ofPath (path : String) : Format :=
  if extension? path = some "toml" then .toml else .yaml

/-- The entries of a text, or why there are none. -/
abbrev Parser := String → Except String (List (Entry String))

namespace Settings

def ofText (parser : Parser) (text : String) : Except Error Settings :=
  ((parser text).bind ofEntries).mapError .config

def notText : String := "stream did not contain valid UTF-8"

def readText (read : String → Except String Bytes) (path : String) : Except String String := do
  (Text.Utf8.decode (← read path)).mapError fun _ => notText

def ofFile (read : String → Except String Bytes) (parser : Format → Parser) (path : String) :
    Except Error Settings :=
  match readText read path with
  | .error reason => .error (.config ("failed to read " ++ path ++ ": " ++ reason))
  | .ok text => ofText (parser (.ofPath path)) text

end Settings

end EngineBridge.Config
