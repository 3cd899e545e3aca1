import EngineBridge.Config.Settings

/-!
A configuration from the entries of a document. The parser of the format hands the entries on one
by one. Each of them names a setting, no setting comes twice, and one that does not come keeps its
default.
-/

namespace EngineBridge.Config

inductive Field
  | nativeLibrary
  | logFilter
  deriving Repr, DecidableEq

def Field.name : Field → String
  | nativeLibrary => "native_library"
  | logFilter => "log_filter"

def Field.ofName? (name : String) : Option Field :=
  if name = Field.nativeLibrary.name then some .nativeLibrary
  else if name = Field.logFilter.name then some .logFilter
  else none

/-- An entry as its parser hands it on: the name, the value as a path or as a text, and how the
parser reports a name that is unknown or that came before. -/
structure Entry (ε : Type) where
  name : Except ε String
  path : Except ε (Option String)
  text : Except ε String
  unknown : ε
  repeated : ε

/-- The settings that have come so far. -/
structure Draft where
  nativeLibrary : Option (Option String)
  logFilter : Option String

namespace Draft

variable {ε : Type}

def empty : Draft := ⟨none, none⟩

def has (d : Draft) : Field → Bool
  | .nativeLibrary => d.nativeLibrary.isSome
  | .logFilter => d.logFilter.isSome

def read (d : Draft) (entry : Entry ε) : Field → Except ε Draft
  | .nativeLibrary => entry.path.map fun path => { d with nativeLibrary := some path }
  | .logFilter => entry.text.map fun text => { d with logFilter := some text }

def take (d : Draft) (entry : Entry ε) : Except ε Draft := do
  match Field.ofName? (← entry.name) with
  | none => throw entry.unknown
  | some field => if d.has field then throw entry.repeated else d.read entry field

def settings (d : Draft) : Settings where
  nativeLibrary := d.nativeLibrary.getD Settings.default.nativeLibrary
  logFilter := d.logFilter.getD Settings.default.logFilter

end Draft

def Settings.ofEntries {ε : Type} (entries : List (Entry ε)) : Except ε Settings :=
  (entries.foldlM Draft.take .empty).map Draft.settings

end EngineBridge.Config
