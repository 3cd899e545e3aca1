import EngineBridge.Toml.Scalar

/-!
Tables as a document builds them. A table comes about by its header, by the dotted keys inside it,
or by the header of a table further in; which of these it was decides what may still be added.
-/

namespace EngineBridge.Toml

structure Key where
  name : String
  span : Span
  deriving Repr, DecidableEq

inductive Standing
  | declared
  | dotted
  | implied
  deriving Repr, DecidableEq

/-- Entries are in the order of their insertion. Only a declared table has a span. -/
structure TableOf (α : Type) where
  standing : Standing
  span : Option Span
  entries : List (Key × α)

inductive Item
  | value (v : Value) (span : Span)
  | table (t : TableOf Item)
  | tables (elements : List (TableOf Item))

abbrev Table := TableOf Item

namespace Table

def empty (standing : Standing) (span : Option Span) : Table := ⟨standing, span, []⟩

def get? (t : Table) (name : String) : Option Item :=
  (t.entries.find? fun e => e.1.name = name).map Prod.snd

def append (t : Table) (k : Key) (i : Item) : Table := { t with entries := t.entries ++ [(k, i)] }

def erase (t : Table) (name : String) : Table :=
  { t with entries := t.entries.filter fun e => e.1.name != name }

def put (t : Table) (k : Key) (i : Item) : Table :=
  if (t.get? k.name).isSome then
    { t with entries := t.entries.map fun e => if e.1.name = k.name then (e.1, i) else e }
  else t.append k i

def add? (t : Table) (k : Key) (i : Item) : Option Table :=
  if (t.get? k.name).isSome then none else some (t.append k i)

/-- Changes the table at the end of a path. Missing tables on the way come about as `standing`
says; of an array of tables the last is meant. A dotted path does not enter a declared table. -/
def change (standing : Standing) (f : Table → Option Table) : List Key → Table → Option Table
  | [], t => f t
  | k :: path, t => do
    match t.get? k.name with
    | none => return t.append k (.table (← change standing f path (empty standing none)))
    | some (.value ..) => none
    | some (.table inner) =>
      if standing = .dotted && inner.standing = .declared then none
      else return t.put k (.table (← change standing f path inner))
    | some (.tables elements) =>
      let last ← elements.getLast?
      return t.put k (.tables (elements.dropLast ++ [← change standing f path last]))

/-- Adds an entry under a dotted key. The table to which it is added has to be one of dotted keys
itself, if the key has a path. -/
def addDotted? (t : Table) (path : List Key) (k : Key) (i : Item) : Option Table :=
  change .dotted (fun inner =>
    if path.isEmpty || inner.standing = .dotted then inner.add? k i else none) path t

end Table

def elementsSpan? (elements : List Table) : Option Span := do
  let first ← (← elements.head?).span
  let last ← (← elements.getLast?).span
  return ⟨first.start, last.stop⟩

def Item.span? : Item → Option Span
  | .value _ s => some s
  | .table t => t.span
  | .tables elements => elementsSpan? elements

/-! A document as it is read. -/

/-- The header under which entries are being read: the tables on its path, its last key, and
whether it adds to an array of tables. -/
structure Header where
  path : List Key
  key : Key
  repeated : Bool

/-- What is complete, and the table to which entries are being added. Before the first header
that is the root itself. -/
structure Draft where
  root : Table
  header : Option Header
  current : Table

namespace Draft

def empty : Draft := ⟨.empty .declared none, none, .empty .declared none⟩

def addEntry? (d : Draft) (path : List Key) (k : Key) (v : Value) (span : Span) : Option Draft := do
  let t ← d.current.addDotted? path k (.value v span)
  return { d with current := { t with span := t.span.map fun s => ⟨s.start, span.stop⟩ } }

def finish? (d : Draft) : Option Table :=
  match d.header with
  | none => some d.current
  | some h =>
    d.root.change .implied (fun parent =>
      match parent.get? h.key.name with
      | some (.tables elements) =>
        if h.repeated then some (parent.put h.key (.tables (elements ++ [d.current]))) else none
      | some _ => none
      | none => some (parent.append h.key (.table d.current))) h.path

/-- The table with which a header starts: a table that has only been implied is taken up again. -/
def reopened? (parent : Table) (k : Key) (span : Span) : Option Table :=
  match parent.get? k.name with
  | none => some (.empty .declared (some span))
  | some (.table t) =>
    if t.standing = .implied then some { t with standing := .declared, span := some span }
    else none
  | some _ => none

def found? : List Key → Table → Option Table
  | [], t => some t
  | k :: path, t =>
    match t.get? k.name with
    | none => some (.empty .implied none)
    | some (.value ..) => none
    | some (.table inner) => found? path inner
    | some (.tables elements) => elements.getLast?.bind (found? path)

def openTable? (d : Draft) (path : List Key) (k : Key) (span : Span) : Option Draft := do
  let root ← d.finish?
  let current ← reopened? (← found? path root) k span
  let root ← root.change .implied (fun parent => some (parent.erase k.name)) path
  return ⟨root, some ⟨path, k, false⟩, current⟩

def openElement? (d : Draft) (path : List Key) (k : Key) (span : Span) : Option Draft := do
  let root ← d.finish?
  let root ← root.change .implied (fun parent =>
    match parent.get? k.name with
    | none => some (parent.append k (.tables []))
    | some (.tables _) => some parent
    | some _ => none) path
  return ⟨root, some ⟨path, k, true⟩, .empty .declared (some span)⟩

end Draft

end EngineBridge.Toml
