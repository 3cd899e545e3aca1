import EngineBridge.Decimal.Shortest
import EngineBridge.Log.Event
import EngineBridge.Log.Subscriber
import EngineBridge.Pattern.Reader
import EngineBridge.Text.Slice

/-!
Filters over log events. A filter is a comma-separated list of directives, each a target with a
level, a bare target or a bare level; a span and names of fields may stand in brackets after the
target, and a field may be given a value, which is a number or a pattern. The most specific
directive that fits an event decides on it, and a directive replaces an equally specific one for
the same target and fields.
-/

namespace EngineBridge.Log

/-- The most verbose level let through; `none` lets nothing through. -/
abbrev Threshold := Option Level

namespace Threshold

def rank (t : Threshold) : Nat := (t.map Level.rank).getD 0

def ofName (s : String) : Option Threshold :=
  match s.toLower with
  | "" | "error" => some (some .error)
  | "warn" => some (some .warn)
  | "info" => some (some .info)
  | "debug" => some (some .debug)
  | "trace" => some (some .trace)
  | "off" => some none
  | _ => none

def ofNumber : Nat → Option Threshold
  | 0 => some none
  | 1 => some (some .error)
  | 2 => some (some .warn)
  | 3 => some (some .info)
  | 4 => some (some .debug)
  | 5 => some (some .trace)
  | _ => none

def numeral? (s : String) : Option Nat :=
  let digits := match s.toList with
    | '+' :: rest => rest
    | cs => cs
  if !digits.isEmpty && digits.all Char.isDigit then
    some (digits.foldl (fun n c => n * 10 + (c.toNat - 48)) 0)
  else none

def parse (s : String) : Option Threshold :=
  ((numeral? s).bind ofNumber).or (ofName s)

end Threshold

/-- Why a filter cannot be read. Reading breaks down altogether where a part of a directive would
begin or end inside a character. -/
inductive FilterError
  | directive
  | level
  | field (defect : Pattern.Defect)
  | brokenCharacter
  deriving Repr, DecidableEq

def FilterError.message : FilterError → String
  | .directive => "invalid filter directive"
  | .level => "error parsing level filter: expected one of \"off\", \"error\", \"warn\", " ++
      "\"info\", \"debug\", \"trace\", or a number 0-5"
  | .field d => "invalid field filter: " ++ d.message
  | .brokenCharacter => "byte position inside a character"

/-- A field in brackets; one with a value can only be met by a span. -/
structure FieldMatch where
  name : String
  valued : Bool
  deriving Repr, DecidableEq

structure Directive where
  threshold : Threshold
  target : Option String
  span : Option String
  fields : List FieldMatch
  deriving Repr, DecidableEq

namespace Directive

/-- Where the reader of a directive stands, with the position at which the current part began. -/
inductive Mode
  | start
  | levelOrTarget (since : Nat)
  | span (since : Nat)
  | field (since : Nat)
  | fields
  | afterSpan
  | level (since : Nat)
  deriving Repr, DecidableEq

def startsTarget (c : Char) : Bool :=
  c = '-' || c = ':' || c = '_' || Text.isAlphanumeric c

def readThreshold (s : String) : Except FilterError Threshold :=
  if s = "" then .ok (some .trace)
  else match Threshold.parse s with
    | some t => .ok t
    | none => .error .level

/-- A sign may stand before digits with a point and an exponent, or before a name. -/
def isNumber (cs : List Char) : Bool :=
  let unsigned := match cs with
    | '+' :: rest | '-' :: rest => rest
    | rest => rest
  (Decimal.readNumeral unsigned).isSome ||
    ["inf", "infinity", "nan"].contains (String.ofList unsigned).toLower

/-- A value is what stands between the first two equals signs. -/
def readField (s : String) : Except FilterError FieldMatch :=
  let (name, rest) := s.toList.span (· != '=')
  if s = "" then .error .directive
  else match rest with
    | [] => .ok ⟨String.ofList name, false⟩
    | _ :: rest =>
      let value := rest.takeWhile (· != '=')
      match if isNumber value then none else Pattern.defect? value with
      | none => .ok ⟨String.ofList name, true⟩
      | some defect => .error (.field defect)

def slice (cs : List Char) (first last : Nat) : Except FilterError String :=
  match Text.slice? cs first last with
  | some part => .ok (String.ofList part)
  | none => .error .brokenCharacter

def step (cs : List Char) (i : Nat) (c : Char) (mode : Mode) (d : Directive) :
    Except FilterError (Mode × Directive) :=
  match mode, c with
  | .start, '[' => .ok (.span (i + 1), d)
  | .start, c => if startsTarget c then .ok (.levelOrTarget i, d) else .error .directive
  | .levelOrTarget since, '=' => do
    .ok (.level (i + 1), { d with target := some (← slice cs since i) })
  | .levelOrTarget since, '[' => do
    .ok (.span (i + 1), { d with target := some (← slice cs since i) })
  | .levelOrTarget since, _ => .ok (.levelOrTarget since, d)
  | .span since, ']' => do .ok (.afterSpan, { d with span := some (← slice cs since i) })
  | .span since, '\x7b' => do
    let name ← slice cs since i
    .ok (.field (i + 1), { d with span := if name = "" then none else some name })
  | .span since, _ => .ok (.span since, d)
  | .field since, '\x7d' => do
    let field ← readField (← slice cs since i)
    .ok (.fields, { d with fields := d.fields ++ [field] })
  | .field since, _ => .ok (.field since, d)
  | .fields, ']' => .ok (.afterSpan, d)
  | .afterSpan, '=' => .ok (.level (i + 1), d)
  | .level since, _ => .ok (.level since, d)
  | _, _ => .error .directive

def finish (cs : List Char) (mode : Mode) (d : Directive) : Except FilterError Directive := do
  let tail (since : Nat) : Except FilterError String :=
    slice cs since (String.ofList cs).utf8ByteSize
  match mode with
  | .levelOrTarget since =>
    let s ← tail since
    match Threshold.parse s with
    | some t => .ok { d with threshold := t, target := none }
    | none => .ok { d with threshold := some .trace, target := some s }
  | .level since => do .ok { d with threshold := ← readThreshold (← tail since) }
  | .afterSpan => .ok d
  | _ => .error .directive

def scan (cs : List Char) :
    Nat → List Char → Mode → Directive → Except FilterError (Mode × Directive)
  | _, [], mode, d => .ok (mode, d)
  | i, c :: rest, mode, d => do
    let (mode, d) ← step cs i c mode d
    scan cs (i + c.utf8Size) rest mode d

/-- Reads one directive. White space around it is passed over, yet the parts are cut out at
positions of the text with that white space. -/
def parse (cs : List Char) : Except FilterError Directive := do
  let (mode, d) ← scan cs 0 (Text.trim cs) .start ⟨some .trace, none, none, []⟩
  finish cs mode d

/-- Only a span can meet a directive that names one or that asks for the value of a field. -/
def needsSpan (d : Directive) : Bool := d.span.isSome || d.fields.any (·.valued)

def isDynamic (d : Directive) : Bool := d.span.isSome || !d.fields.isEmpty

end Directive

structure Rule where
  target : Option String
  fields : List String
  threshold : Threshold
  deriving Repr, DecidableEq

namespace Rule

def ofDirective? (d : Directive) : Option Rule :=
  if d.needsSpan then none else some ⟨d.target, d.fields.map (·.name), d.threshold⟩

def fits (r : Rule) (e : Event) : Bool :=
  (match r.target with
    | some t => e.target.startsWith t
    | none => true) &&
  r.fields.all fun name => name == "message" || e.fields.any (·.1 == name)

/-- Length of the target, none being shortest, and then the number of fields. -/
def specificity (r : Rule) : Nat × Nat :=
  ((r.target.map fun t => t.utf8ByteSize + 1).getD 0, r.fields.length)

def sameScope (a b : Rule) : Bool := a.target == b.target && a.fields == b.fields

def scopeText (r : Rule) : List String := r.target.getD "" :: r.fields

def precedes (a b : Rule) : Bool :=
  if a.specificity != b.specificity then
    decide (b.specificity.1 < a.specificity.1) ||
      (a.specificity.1 == b.specificity.1 && decide (b.specificity.2 < a.specificity.2))
  else decide (b.scopeText < a.scopeText)

def insert (r : Rule) : List Rule → List Rule
  | [] => [r]
  | x :: rest =>
    if r.sameScope x then r :: rest
    else if r.precedes x then r :: x :: rest
    else x :: insert r rest

def insertAll (rs : List Rule) : List Rule := rs.foldl (fun rules r => r.insert rules) []

end Rule

structure Filter where
  rules : List Rule
  deriving Repr, DecidableEq

namespace Filter

def ofDirectives (ds : List Directive) : Filter :=
  let dynamic := ds.filter Directive.isDynamic
  let static := ds.filter fun d => !d.isDynamic
  let rules := Rule.insertAll ((static ++ dynamic).filterMap Rule.ofDirective?)
  if rules.isEmpty && dynamic.isEmpty then ⟨[⟨none, [], some .error⟩]⟩ else ⟨rules⟩

def splitComma (cs : List Char) : List (List Char) := cs.splitOn ','

def parts (s : String) : List (List Char) := (splitComma s.toList).filter (!·.isEmpty)

def parse (s : String) : Except FilterError Filter := do
  return ofDirectives (← (parts s).mapM Directive.parse)

/-- Leaves out the directives that cannot be read. -/
def parseLossy (s : String) : Filter :=
  ofDirectives ((parts s).filterMap fun part => (Directive.parse part).toOption)

def admits (f : Filter) (e : Event) : Bool :=
  match f.rules.find? (·.fits e) with
  | some r => e.level.rank ≤ Threshold.rank r.threshold
  | none => false

end Filter

def filters : Filters Filter where
  strict text := (Filter.parse text).mapError FilterError.message
  lenient := Filter.parseLossy

end EngineBridge.Log
