import EngineBridge.Config.Settings
import EngineBridge.Library.Binding

/-!
Loaded libraries and who holds them. An instance is alive as long as a handle or a statement holds
it. The registry remembers the loaded instances by key and the one linked instance without
holding them, so that asking again for a live one gives that very instance. Where a path leads and
what the loader makes of it is up to the system.
-/

namespace EngineBridge.Library

open Config (Settings)
open Engine (Table)
open Facade (Origin)

abbrev InstanceId := Nat

inductive Owner
  | handle (n : Nat)
  | statement (n : Nat)
  deriving Repr, DecidableEq

structure Instance where
  origin : Origin
  table : Table

/-- What the operating system answers: the canonical form of a path, if the path leads anywhere,
and what its loader opens under a name, or why it does not. The loader has a search path of its own,
so a name without a canonical form may be opened all the same. -/
structure System where
  canonicalize : String → Option String
  openLibrary : String → Except String SharedObject

/-- The name under which an instance is known and for which the loader is asked. -/
def System.key (system : System) (path : String) : String :=
  (system.canonicalize path).getD path

structure Registry where
  instances : List Instance
  owners : List (Owner × InstanceId)
  loaded : List (String × InstanceId)
  linked : Option InstanceId

structure Asked where
  result : Except Error InstanceId
  registry : Registry
  events : List Log.Event

namespace Registry

def empty : Registry := ⟨[], [], [], none⟩

def isAlive (r : Registry) (id : InstanceId) : Bool := r.owners.any (·.2 == id)

def hold (r : Registry) (owner : Owner) (id : InstanceId) : Registry :=
  { r with owners := r.owners ++ [(owner, id)] }

def letGo (r : Registry) (owner : Owner) : Registry :=
  { r with owners := r.owners.filter (·.1 != owner) }

def heldBy? (r : Registry) (owner : Owner) : Option InstanceId :=
  (r.owners.find? (·.1 == owner)).map (·.2)

def instance? (r : Registry) (id : InstanceId) : Option Instance := r.instances[id]?

def create (r : Registry) (i : Instance) (owner : Owner) : InstanceId × Registry :=
  let id := r.instances.length
  (id, { r with instances := r.instances ++ [i] }.hold owner id)

def refuse (r : Registry) (e : Error) : Asked := ⟨.error e, r, []⟩

/-- Binds a table that the caller supplies; each binding is an instance of its own. -/
def custom (r : Registry) (table : Table) (owner : Owner) : Asked :=
  match bind table .custom with
  | .error e => r.refuse e
  | .ok event =>
    let (id, r) := r.create ⟨.custom, table⟩ owner
    ⟨.ok id, r, [event]⟩

def link (r : Registry) (table : Table) (owner : Owner) : Asked :=
  match r.linked.filter r.isAlive with
  | some id => ⟨.ok id, r.hold owner id, []⟩
  | none =>
    match bind table .linked with
    | .error e => r.refuse e
    | .ok event =>
      let (id, r) := r.create ⟨.linked, table⟩ owner
      ⟨.ok id, { r with linked := some id }, [event]⟩

def libraryEvent (level : Log.Level) (text key : String) : Log.Event where
  level := level
  target := "cqlbridge::bridge::library"
  text := text
  fields := [("path", .shown key)]

def openObject (system : System) (key : String) : Except Error SharedObject :=
  (system.openLibrary key).mapError (.libraryLoad (Text.Utf8.encode key))

/-- Opens, resolves and binds; nothing is remembered of an attempt that fails. -/
def loadFresh (r : Registry) (system : System) (key : String) (owner : Owner) : Asked :=
  let attempt : Except Error (Table × Log.Event) := do
    let object ← openObject system key
    let table ← object.resolve
    let event ← bind table (.dynamic key)
    return (table, event)
  match attempt with
  | .error e => r.refuse e
  | .ok (table, event) =>
    let live := r.loaded.filter fun (_, id) => r.isAlive id
    let (id, r) := r.create ⟨.dynamic key, table⟩ owner
    ⟨.ok id, { r with loaded := live ++ [(key, id)] },
      [event, libraryEvent .info "loaded native engine" key]⟩

def load (r : Registry) (system : System) (path : String) (owner : Owner) : Asked :=
  let key := system.key path
  match r.loaded.find? fun (k, id) => k == key && r.isAlive id with
  | some (_, id) =>
    ⟨.ok id, r.hold owner id, [libraryEvent .trace "reusing loaded native library" key]⟩
  | none => r.loadFresh system key owner

def fromSettings (r : Registry) (system : System) (linkedTable : Table) (c : Settings)
    (owner : Owner) : Asked :=
  match c.nativeLibrary with
  | some path => r.load system path owner
  | none => r.link linkedTable owner

end Registry

end EngineBridge.Library
