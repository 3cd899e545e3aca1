import EngineBridge.Text.Blank
import EngineBridge.Text.Utf8

/-!
The bridge's settings and the layers that override them. A layer is a lookup of variables; a
variable counts only if it is set to something that is not blank, and then it is taken verbatim.
-/

namespace EngineBridge.Config

structure Settings where
  nativeLibrary : Option String
  logFilter : String
  deriving Repr, DecidableEq

def libraryVariable : String := "CQLBRIDGE_NATIVE_LIB"

def filterVariable : String := "CQLBRIDGE_LOG"

abbrev Lookup := String → Option String

namespace Settings

def default : Settings := ⟨none, "warn"⟩

end Settings

def Lookup.value? (l : Lookup) (name : String) : Option String :=
  (l name).filter fun v => !Text.isBlank v

namespace Settings

def overriddenBy (c : Settings) (l : Lookup) : Settings where
  nativeLibrary := (l.value? libraryVariable).or c.nativeLibrary
  logFilter := (l.value? filterVariable).getD c.logFilter

def ofLookup (l : Lookup) : Settings := default.overriddenBy l

end Settings

/-- Environment variables hold bytes; one that is not text counts as unset. -/
def Lookup.ofEnvironment (env : String → Option Text.Bytes) : Lookup := fun name =>
  (env name).bind fun bs => (Text.Utf8.decode bs).toOption

end EngineBridge.Config
