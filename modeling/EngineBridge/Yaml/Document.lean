import EngineBridge.Yaml.Lexer
import EngineBridge.Yaml.Node

/-!
From tokens to the node of the only document of a text. A text without tokens, and a place where
a node is left out, stand for an empty plain scalar. A text with two documents, or with tokens out
of order, has no node.
-/

namespace EngineBridge.Yaml

structure Anchor where
  name : String
  mark : Mark
  node : Option Node

structure Reader where
  tokens : List Token
  handles : List (String × Tag)
  anchors : List Anchor

abbrev Read := StateT Reader Option

namespace Read

def peek : Read Token := do
  match (← get).tokens with
  | t :: _ => return t
  | [] => failure

def skip : Read Unit := modify fun r => { r with tokens := r.tokens.drop 1 }

def accept (kind : Token.Kind) : Read Bool := do
  if (← peek).kind = kind then
    skip
    return true
  else return false

/-- Takes the comma between two parts, which none stands before the first. -/
def acceptComma (first : Bool) : Read Bool := if first then return true else accept .flowEntry

def nextIs (kinds : List Token.Kind) : Read Bool := return kinds.contains (← peek).kind

end Read

open Read

def standardHandles : List (String × Tag) :=
  [("!", Text.Utf8.encode "!"), ("!!", Text.Utf8.encode "tag:yaml.org,2002:")]

def fullTag (handle : String) (suffix : Text.Bytes) : Read Tag := do
  if handle = "" then return suffix
  else match ((← get).handles ++ standardHandles).lookup handle with
    | some lead => return lead ++ suffix
    | none => failure

/-! The words before a node. -/

structure Properties where
  mark : Mark
  anchor : Option Anchor
  tag : Option Tag

def readAnchor : Read (Option Anchor) := do
  let t ← peek
  match t.kind with
  | .anchor name =>
    skip
    return some ⟨name, t.start, none⟩
  | _ => return none

def readNodeTag : Read (Option Tag) := do
  match (← peek).kind with
  | .tag handle suffix =>
    skip
    return some (← fullTag handle suffix)
  | _ => return none

def readProperties : Read Properties := do
  let start := (← peek).start
  match ← readAnchor with
  | some a => return ⟨start, some a, ← readNodeTag⟩
  | none =>
    match ← readNodeTag with
    | some tag => return ⟨start, ← readAnchor, some tag⟩
    | none => return ⟨start, none, none⟩

def openAnchor (a : Option Anchor) : Read Unit :=
  modify fun r => { r with anchors := a.toList ++ r.anchors }

def closeAnchor (a : Option Anchor) (n : Node) : Read Unit :=
  match a with
  | none => return
  | some a => modify fun r => { r with
      anchors := r.anchors.map fun b => if b.mark = a.mark then { b with node := some n } else b }

/-- The latest complete node of that name; a node that is still open has no alias yet. -/
def readAlias (name : String) : Read Node := do
  skip
  match (← get).anchors.find? fun a => a.name = name with
  | some ⟨_, _, some n⟩ => return .alias n.expansion n
  | _ => failure

def emptyAt (m : Mark) : Node := .scalar m none .plain ""

def readMissing (p : Properties) : Read Node :=
  if p.anchor.isSome || p.tag.isSome then return .scalar p.mark p.tag .plain "" else failure

/-! Nodes. Each function takes fuel, which every token read pays for. -/

mutual

def readNode : Nat → Bool → Bool → Read Node
  | 0, _, _ => failure
  | fuel + 1, inBlock, indentless => do
    match (← peek).kind with
    | .alias name => readAlias name
    | _ =>
      let p ← readProperties
      openAnchor p.anchor
      let n ← readContent fuel inBlock indentless p
      closeAnchor p.anchor n
      return n

def readContent : Nat → Bool → Bool → Properties → Read Node
  | 0, _, _, _ => failure
  | fuel + 1, inBlock, indentless, p => do
    match (← peek).kind, inBlock with
    | .blockEntry, _ =>
      if indentless then return .sequence p.mark p.tag (← readIndentless fuel)
      else readMissing p
    | .scalar text style, _ =>
      skip
      return .scalar p.mark p.tag style text
    | .flowSequenceStart, _ =>
      skip
      return .sequence p.mark p.tag (← readFlowItems fuel true)
    | .flowMappingStart, _ =>
      skip
      return .mapping p.mark p.tag (← readFlowEntries fuel true)
    | .blockSequenceStart, true =>
      skip
      return .sequence p.mark p.tag (← readBlockItems fuel)
    | .blockMappingStart, true =>
      skip
      return .mapping p.mark p.tag (← readBlockEntries fuel)
    | _, _ => readMissing p

def readBlockItems : Nat → Read (List Node)
  | 0 => failure
  | fuel + 1 => do
    let t ← peek
    if ← accept .blockEntry then
      let n ←
        if ← nextIs [.blockEntry, .blockEnd] then pure (emptyAt t.stop)
        else readNode fuel true false
      return n :: (← readBlockItems fuel)
    else if ← accept .blockEnd then return []
    else failure

/-- The items of a sequence as deep as the key before it; nothing closes it. -/
def readIndentless : Nat → Read (List Node)
  | 0 => failure
  | fuel + 1 => do
    let t ← peek
    if ← accept .blockEntry then
      let n ←
        if ← nextIs [.blockEntry, .key, .value, .blockEnd] then pure (emptyAt t.stop)
        else readNode fuel true false
      return n :: (← readIndentless fuel)
    else return []

def readBlockEntries : Nat → Read (List (Node × Node))
  | 0 => failure
  | fuel + 1 => do
    let t ← peek
    if ← accept .key then
      let key ← readBlockPart fuel t.stop
      let t ← peek
      let value ←
        if ← accept .value then readBlockPart fuel t.stop else pure (emptyAt t.start)
      return (key, value) :: (← readBlockEntries fuel)
    else if ← accept .blockEnd then return []
    else failure

/-- A key or a value of a block mapping, whose indicator stops at `m`. -/
def readBlockPart : Nat → Mark → Read Node
  | 0, _ => failure
  | fuel + 1, m => do
    if ← nextIs [.key, .value, .blockEnd] then return emptyAt m
    else readNode fuel true true

def readFlowItems : Nat → Bool → Read (List Node)
  | 0, _ => failure
  | fuel + 1, first => do
    if ← accept .flowSequenceEnd then return []
    else if ← acceptComma first then
      let t ← peek
      if ← accept .key then
        let key ← readPairKey fuel
        let value ← readFlowValue fuel .flowSequenceEnd
        let pair : Node := .mapping t.start none [(key, value)]
        return pair :: (← readFlowItems fuel false)
      else if ← accept .flowSequenceEnd then return []
      else
        let n ← readNode fuel false false
        return n :: (← readFlowItems fuel false)
    else failure

/-- The key of a pair that stands in a sequence; where it is left out, the token that follows is
passed with it. -/
def readPairKey : Nat → Read Node
  | 0 => failure
  | fuel + 1 => do
    if ← nextIs [.value, .flowEntry, .flowSequenceEnd] then
      let t ← peek
      skip
      return emptyAt t.stop
    else readNode fuel false false

def readFlowValue : Nat → Token.Kind → Read Node
  | 0, _ => failure
  | fuel + 1, closing => do
    if ← accept .value then
      if ← nextIs [.flowEntry, closing] then return emptyAt (← peek).start
      else readNode fuel false false
    else return emptyAt (← peek).start

def readFlowEntries : Nat → Bool → Read (List (Node × Node))
  | 0, _ => failure
  | fuel + 1, first => do
    if ← accept .flowMappingEnd then return []
    else if ← acceptComma first then
      if ← accept .key then
        let key ←
          if ← nextIs [.value, .flowEntry, .flowMappingEnd] then pure (emptyAt (← peek).start)
          else readNode fuel false false
        let value ← readFlowValue fuel .flowMappingEnd
        return (key, value) :: (← readFlowEntries fuel false)
      else if ← accept .flowMappingEnd then return []
      else
        let key ← readNode fuel false false
        let value := emptyAt (← peek).start
        return (key, value) :: (← readFlowEntries fuel false)
    else failure

end

/-! Documents. -/

/-- The directives before a document: at most one version, which has to be 1.1 or 1.2, and at most
one lead for each handle. -/
def readDirectives : Nat → Bool → Read Unit
  | 0, _ => failure
  | fuel + 1, versioned => do
    match (← peek).kind with
    | .version major minor =>
      if versioned || major != 1 || (minor != 1 && minor != 2) then failure
      else
        skip
        readDirectives fuel true
    | .tagDirective handle lead =>
      if ((← get).handles.lookup handle).isSome then failure
      else
        modify fun r => { r with handles := r.handles ++ [(handle, lead)] }
        skip
        readDirectives fuel versioned
    | _ => return

def Token.Kind.isDirective : Token.Kind → Bool
  | .version .. | .tagDirective .. => true
  | _ => false

def Token.Kind.endsDocument (k : Token.Kind) : Bool :=
  k.isDirective || [.documentStart, .documentEnd, .streamEnd].contains k

def readDocument (fuel : Nat) : Read Node := do
  let t ← peek
  if t.kind = .streamEnd then return emptyAt t.start
  else if t.kind.isDirective || t.kind = .documentStart then
    readDirectives fuel false
    if ← accept .documentStart then
      let t ← peek
      if t.kind.endsDocument then return emptyAt t.start else readNode fuel true false
    else failure
  else readNode fuel true false

def Node.ofText? (text : String) : Option Node := do
  let tokens ← tokens? text
  let (n, r) ← readDocument (4 * tokens.length + 4) ⟨tokens, [], []⟩
  match r.tokens.dropWhile fun t => t.kind = .documentEnd with
  | ⟨.streamEnd, _, _⟩ :: _ => some n
  | _ => none

end EngineBridge.Yaml
