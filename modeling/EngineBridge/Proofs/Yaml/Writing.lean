import EngineBridge.Proofs.Yaml.Lexing
import EngineBridge.Yaml.Document
import Mathlib.Data.List.Forall2

/-!
A mapping of quoted texts that stands between braces is read as the entries that it spells.
-/

namespace EngineBridge.Yaml

open Read

variable {α β : Type} {r : Read α} {k : α → Read β} {P : α → Prop} {Q : β → Prop}
  {kinds kinds' rest : List Token.Kind} {kind kind' : Token.Kind}

/-- The reader takes tokens of these kinds and gives something with the property. -/
def Parses (r : Read α) (kinds rest : List Token.Kind) (P : α → Prop) : Prop :=
  ∀ reader : Reader, reader.tokens.map Token.kind = kinds ++ rest →
    ∃ a reader', r reader = some (a, reader') ∧ reader'.tokens.map Token.kind = rest ∧ P a

theorem parses_pure {a : α} (h : P a) : Parses (pure a) [] rest P :=
  fun reader hreader => ⟨a, reader, rfl, hreader, h⟩

theorem Parses.bind (h : Parses r kinds (kinds' ++ rest) P)
    (hk : ∀ a, P a → Parses (k a) kinds' rest Q) : Parses (r >>= k) (kinds ++ kinds') rest Q := by
  intro reader hreader
  rw [List.append_assoc] at hreader
  obtain ⟨a, reader₁, hrun, hreader₁, ha⟩ := h reader hreader
  obtain ⟨b, reader₂, hrun', hreader₂, hb⟩ := hk a ha reader₁ hreader₁
  refine ⟨b, reader₂, ?_, hreader₂, hb⟩
  change (r reader).bind _ = _
  rw [hrun]
  exact hrun'

/-- A step that looks at the tokens and takes none. -/
theorem Parses.first (h : Parses r [] (kinds ++ rest) P)
    (hk : ∀ a, P a → Parses (k a) kinds rest Q) : Parses (r >>= k) kinds rest Q := h.bind hk

/-- A last step that takes no token. -/
theorem Parses.finish (h : Parses r kinds rest P) (hk : ∀ a, P a → Parses (k a) [] rest Q) :
    Parses (r >>= k) kinds rest Q := by
  have hbind := @Parses.bind _ _ _ _ _ _ kinds [] rest h hk
  rwa [List.append_nil] at hbind

theorem Parses.bind_eq {a : α} (h : Parses r kinds (kinds' ++ rest) (· = a))
    (hk : Parses (k a) kinds' rest Q) : Parses (r >>= k) (kinds ++ kinds') rest Q :=
  h.bind fun _ ha => ha ▸ hk

theorem Parses.first_eq {a : α} (h : Parses r [] (kinds ++ rest) (· = a))
    (hk : Parses (k a) kinds rest Q) : Parses (r >>= k) kinds rest Q :=
  h.first fun _ ha => ha ▸ hk

theorem Parses.finish_eq {a : α} (h : Parses r kinds rest (· = a))
    (hk : Parses (k a) [] rest Q) : Parses (r >>= k) kinds rest Q :=
  h.finish fun _ ha => ha ▸ hk

theorem exists_token {reader : Reader} (h : reader.tokens.map Token.kind = kind :: rest) :
    ∃ m m' tokens handles anchors, reader = ⟨⟨kind, m, m'⟩ :: tokens, handles, anchors⟩ ∧
      tokens.map Token.kind = rest := by
  obtain ⟨tokens, handles, anchors⟩ := reader
  obtain ⟨⟨kind, m, m'⟩, tokens, rfl, rfl, hrest⟩ := List.map_eq_cons_iff.mp h
  exact ⟨m, m', tokens, handles, anchors, rfl, hrest⟩

theorem parses_peek : Parses peek [] (kind :: rest) fun t => t.kind = kind := by
  intro reader hreader
  obtain ⟨m, m', tokens, handles, anchors, rfl, -⟩ := exists_token hreader
  exact ⟨⟨kind, m, m'⟩, _, rfl, hreader, rfl⟩

theorem parses_skip : Parses skip [kind] rest fun _ => True := by
  intro reader hreader
  obtain ⟨m, m', tokens, handles, anchors, rfl, hrest⟩ := exists_token hreader
  exact ⟨(), ⟨tokens, handles, anchors⟩, rfl, hrest, trivial⟩

theorem parses_accept : Parses (accept kind) [kind] rest (· = true) := by
  apply parses_peek.first
  intro t ht
  rw [if_pos ht]
  exact parses_skip.bind fun _ _ => parses_pure rfl

theorem parses_accept_of_ne (h : kind' ≠ kind) :
    Parses (accept kind) [] (kind' :: rest) (· = false) := by
  apply parses_peek.first
  intro t ht
  rw [if_neg (ht ▸ h)]
  exact parses_pure rfl

theorem parses_nextIs (kinds : List Token.Kind) :
    Parses (nextIs kinds) [] (kind :: rest) (· = kinds.contains kind) := by
  apply parses_peek.first
  intro t ht
  rw [ht]
  exact parses_pure rfl

theorem parses_scalar {fuel : ℕ} {inBlock indentless : Bool} {s : String} {style : Style} :
    Parses (readNode (fuel + 2) inBlock indentless) [.scalar s style] rest
      fun n => ∃ m, n = .scalar m none style s := by
  intro reader hreader
  obtain ⟨m, m', tokens, handles, anchors, rfl, hrest⟩ := exists_token hreader
  exact ⟨.scalar m none style s, ⟨tokens, handles, anchors⟩, rfl, hrest, m, rfl⟩

/-- The pair is a name with a text, both between quotes. -/
def Spells (pair : Node × Node) (e : String × String) : Prop :=
  (∃ m, pair.1 = .scalar m none .doubleQuoted e.1) ∧ ∃ m, pair.2 = .scalar m none .doubleQuoted e.2

variable {fuel : ℕ} {s : String}

theorem parses_flowValue :
    Parses (readFlowValue (fuel + 3) .flowMappingEnd) ([.value] ++ [.scalar s .doubleQuoted])
      rest fun n => ∃ m, n = .scalar m none .doubleQuoted s := by
  rw [readFlowValue]
  apply parses_accept.bind_eq
  apply (parses_nextIs _).first_eq
  exact parses_scalar

def lead (first : Bool) : List Token.Kind := if first then [] else [.flowEntry]

theorem parses_lead (first : Bool) : Parses (acceptComma first) (lead first) rest (· = true) := by
  cases first
  · exact parses_accept
  · exact parses_pure rfl

theorem parses_lead_of_ne (first : Bool) (h : kind ≠ .flowMappingEnd) :
    Parses (accept .flowMappingEnd) [] (lead first ++ kind :: rest) (· = false) := by
  cases first
  · exact parses_accept_of_ne (by decide)
  · exact parses_accept_of_ne h

/-- Induction on the entries that are still to come. -/
theorem parses_entries {es : List (String × String)} {first : Bool} (hfuel : es.length + 4 ≤ fuel) :
    Parses (readFlowEntries fuel first)
      (lead first ++ (es.flatMap Lexer.entryKinds ++ [.flowMappingEnd])) rest
      (List.Forall₂ Spells · es) := by
  induction es generalizing fuel first with
  | nil =>
    obtain ⟨fuel, rfl⟩ : ∃ n, fuel = n + 4 := ⟨fuel - 4, by simp at hfuel; omega⟩
    rw [readFlowEntries]
    cases first with
    | true => exact parses_accept.finish_eq (parses_pure .nil)
    | false =>
      apply (parses_accept_of_ne (by decide)).first_eq
      apply (parses_lead false).bind_eq
      apply (parses_accept_of_ne (by decide)).first_eq
      exact parses_accept.finish_eq (parses_pure .nil)
  | cons e es ih =>
    obtain ⟨fuel, rfl⟩ : ∃ n, fuel = n + 5 := ⟨fuel - 5, by simp at hfuel; omega⟩
    have hkinds : (e :: es).flatMap Lexer.entryKinds ++ [.flowMappingEnd] =
        [.key] ++ ([.scalar e.1 .doubleQuoted] ++ ([.value] ++ [.scalar e.2 .doubleQuoted] ++
          (lead false ++ (es.flatMap Lexer.entryKinds ++ [.flowMappingEnd])))) := by
      simp [lead, Lexer.entryKinds]
    rw [hkinds, readFlowEntries]
    apply Parses.first_eq
    · rw [List.append_assoc]
      exact parses_lead_of_ne first (by decide)
    apply (parses_lead first).bind_eq
    apply parses_accept.bind_eq
    apply (parses_nextIs _).first_eq
    apply parses_scalar.bind
    intro name hname
    apply parses_flowValue.bind
    intro text htext
    apply (ih (by simpa using hfuel)).finish
    intro pairs hpairs
    exact parses_pure (.cons ⟨hname, htext⟩ hpairs)

theorem parses_properties : Parses readProperties [] (.flowMappingStart :: rest)
    fun p => p.anchor = none ∧ p.tag = none := by
  intro reader hreader
  obtain ⟨m, m', tokens, handles, anchors, rfl, -⟩ := exists_token hreader
  exact ⟨⟨m, none, none⟩, _, rfl, hreader, rfl, rfl⟩

theorem parses_mapping {es : List (String × String)} (hfuel : es.length + 6 ≤ fuel) :
    Parses (readNode fuel true false)
      ([.flowMappingStart] ++ (es.flatMap Lexer.entryKinds ++ [.flowMappingEnd])) rest
      fun n => ∃ m pairs, n = .mapping m none pairs ∧ List.Forall₂ Spells pairs es := by
  obtain ⟨fuel, rfl⟩ : ∃ n, fuel = n + 2 := ⟨fuel - 2, by omega⟩
  rw [readNode]
  apply parses_peek.first
  intro t ht
  rw [ht]
  apply parses_properties.first
  intro p hp
  rw [hp.1]
  have hopen : Parses (openAnchor none) []
      ([.flowMappingStart] ++ (es.flatMap Lexer.entryKinds ++ [.flowMappingEnd]) ++ rest)
      fun _ => True := fun reader hreader => ⟨(), reader, rfl, hreader, trivial⟩
  have hcontent : Parses (readContent (fuel + 1) true false p)
      ([.flowMappingStart] ++ (es.flatMap Lexer.entryKinds ++ [.flowMappingEnd])) rest
      fun n => ∃ m pairs, n = .mapping m none pairs ∧ List.Forall₂ Spells pairs es := by
    rw [readContent]
    apply parses_peek.first
    intro t ht
    rw [ht]
    apply parses_skip.bind
    intro _ _
    have hentries : Parses (readFlowEntries fuel true)
        (lead true ++ (es.flatMap Lexer.entryKinds ++ [.flowMappingEnd])) rest
        (List.Forall₂ Spells · es) := parses_entries (by omega)
    apply hentries.finish
    intro pairs hpairs
    rw [hp.2]
    exact parses_pure ⟨p.mark, pairs, rfl, hpairs⟩
  apply hopen.first
  intro _ _
  apply hcontent.finish
  intro n hn
  exact parses_pure hn

theorem parses_document {es : List (String × String)} (hfuel : es.length + 6 ≤ fuel) :
    Parses (readDocument fuel)
      ([.flowMappingStart] ++ (es.flatMap Lexer.entryKinds ++ [.flowMappingEnd])) rest
      fun n => ∃ m pairs, n = .mapping m none pairs ∧ List.Forall₂ Spells pairs es := by
  apply parses_peek.first
  intro t ht
  rw [if_neg (by simp [ht]), if_neg (by simp [ht, Token.Kind.isDirective])]
  exact parses_mapping hfuel

/-- Entries between braces spell the mapping of these entries. -/
theorem ofText?_written (es : List (String × String)) :
    ∃ m pairs, Node.ofText? (String.ofList (writtenMapping es)) = some (.mapping m none pairs) ∧
      List.Forall₂ Spells pairs es := by
  obtain ⟨tokens, htokens, hkinds⟩ := tokens?_written es
  have hlength : tokens.length = 5 * es.length + 3 := by
    have hcount := congrArg List.length hkinds
    simp [Lexer.entryKinds, List.length_flatMap] at hcount
    omega
  have hfuel : es.length + 6 ≤ 4 * tokens.length + 4 := by omega
  have hparses : Parses (readDocument (4 * tokens.length + 4)) _ [.streamEnd] _ :=
    parses_document hfuel
  obtain ⟨n, ⟨last, handles, anchors⟩, hrun, hlast, m, pairs, rfl, hpairs⟩ :=
    hparses ⟨tokens, [], []⟩ (by simpa using hkinds)
  obtain ⟨⟨kind, start, stop⟩, _, rfl, rfl, hnil⟩ := List.map_eq_cons_iff.mp hlast
  obtain rfl := List.map_eq_nil_iff.mp hnil
  refine ⟨m, pairs, ?_, hpairs⟩
  simp [Node.ofText?, htokens, hrun]

end EngineBridge.Yaml
