import EngineBridge.Proofs.Text.Quoting
import EngineBridge.Yaml.Lexer

/-!
The lexer on a mapping between braces that stands on one line, with a mark before each key and a
comma behind each entry, whatever the quoted texts in it are.
-/

namespace EngineBridge.Yaml

open Text (Stops escaped escapedText eightDigits isPlain quotedText span_append stops_cons)

variable {front rest cs : List Char} {ch : Char} {p : Char → Bool}

namespace Cursor

variable {c : Cursor}

theorem rest_skip (h : c.rest = front ++ rest) : (c.skip front.length).rest = rest := by
  simp [skip, h]

theorem column_skip (n : ℕ) : (c.skip n).column = c.column + n := rfl

theorem rest_skipWhile (h : c.rest = front ++ rest) (hfront : ∀ ch ∈ front, p ch)
    (stops : Stops p rest) : (c.skipWhile p).rest = rest := by
  have hspan : c.rest.span p = (front, rest) := by rw [h, span_append hfront stops]
  simp only [skipWhile, takeWhile, hspan]
  exact rest_skip h

theorem column_skipWhile : c.column ≤ (c.skipWhile p).column := Nat.le_add_right _ _

theorem atDocumentLine_eq_false (h : 0 < c.column) : c.atDocumentLine = false := by
  have hcolumn : (c.column == 0) = false := by simpa using h.ne'
  rw [atDocumentLine, hcolumn, Bool.false_and]

end Cursor

theorem hexNumber?_eightDigits {n : ℕ} (h : n < 2 ^ 32) : hexNumber? (eightDigits n) = some n := by
  have hfold (places : List ℕ) (v : ℕ) :
      (places.map fun i => Nat.digitChar (n / 16 ^ i % 16)).foldlM
        (fun n c => (Text.hexDigit? c).map (n * 16 + ·)) v =
      some (places.foldl (fun v i => v * 16 + n / 16 ^ i % 16) v) := by
    induction places generalizing v with
    | nil => rfl
    | cons i places ih =>
      rw [List.map_cons, List.foldlM_cons, Text.hexDigit?_digit]
      exact ih _
  rw [hexNumber?, eightDigits, hfold, Text.eightDigits_value h]

theorem scalarValue?_toNat (c : Char) : scalarValue? c.toNat = some c := by
  rw [scalarValue?, if_pos (by exact c.valid), Char.ofNat_toNat]

theorem not_isBlankOrBreak_of_isPlain (h : isPlain ch) : isBlankOrBreak ch = false := by
  by_contra hblank
  simp only [isBlankOrBreak, isBlank, isBreak, Bool.not_eq_false, Bool.or_eq_true,
    decide_eq_true_eq, or_assoc] at hblank
  rcases hblank with rfl | rfl | rfl | rfl | rfl | rfl | rfl
  all_goals
    revert h
    decide

section

variable {c : Cursor} {fuel : ℕ}

theorem quotedRun_quote (h : c.rest = '"' :: rest) :
    quotedRun '"' (fuel + 1) c = some ([], false, c) := by
  rw [quotedRun]
  simp [h, isBlankOrBreak, isBlank, isBreak]

theorem quotedRun_plain (h : c.rest = ch :: rest) (hplain : isPlain ch) :
    quotedRun '"' (fuel + 1) c = (quotedRun '"' fuel (c.skip 1)).map
      fun (text, crossed, c) => (ch :: text, crossed, c) := by
  have hchar : ch ≠ '"' ∧ ch ≠ '\\' := by
    simp only [isPlain, Bool.and_eq_true, bne_iff_ne] at hplain
    exact ⟨hplain.1.2, hplain.2⟩
  rw [quotedRun]
  simp [h, not_isBlankOrBreak_of_isPlain hplain, hchar]

theorem quotedRun_escape (h : c.rest = '\\' :: 'U' :: (eightDigits ch.toNat ++ rest)) :
    quotedRun '"' (fuel + 1) c = (quotedRun '"' fuel (c.skip 10)).map
      fun (text, crossed, c) => (ch :: text, crossed, c) := by
  have hlength : (eightDigits ch.toNat).length = 8 := rfl
  have htake : (eightDigits ch.toNat ++ rest).take 8 = eightDigits ch.toNat :=
    List.take_left' hlength
  rw [quotedRun]
  simp [h, isBlankOrBreak, isBlank, isBreak, escape?, htake, hlength,
    hexNumber?_eightDigits (Text.toNat_lt ch), scalarValue?_toNat]

end

theorem quotedRun_escapedText (cs : List Char) {fuel : ℕ} {c : Cursor}
    (h : c.rest = escapedText cs ++ '"' :: rest) (hfuel : cs.length < fuel) :
    ∃ c', quotedRun '"' fuel c = some (cs, false, c') ∧ c'.rest = '"' :: rest ∧
      c.column ≤ c'.column := by
  obtain ⟨fuel, rfl⟩ := Nat.exists_eq_add_one_of_ne_zero (Nat.ne_zero_of_lt hfuel)
  induction cs generalizing fuel c with
  | nil => exact ⟨c, quotedRun_quote h, h, le_rfl⟩
  | cons d cs ih =>
    have hmore : cs.length < fuel := Nat.lt_of_succ_lt_succ hfuel
    obtain ⟨fuel, rfl⟩ := Nat.exists_eq_add_one_of_ne_zero (Nat.ne_zero_of_lt hmore)
    rw [Text.escapedText_cons, escaped] at h
    cases hd : isPlain d with
    | true =>
      have hrest : c.rest = [d] ++ (escapedText cs ++ '"' :: rest) := by simpa [hd] using h
      obtain ⟨c', hrun, hc', hcolumn⟩ := ih (Cursor.rest_skip hrest) fuel hmore
      refine ⟨c', ?_, hc', (Nat.le_add_right _ _).trans hcolumn⟩
      rw [quotedRun_plain hrest hd]
      exact congrArg _ hrun
    | false =>
      have hrest : c.rest = '\\' :: 'U' :: eightDigits d.toNat ++
          (escapedText cs ++ '"' :: rest) := by simpa [hd] using h
      obtain ⟨c', hrun, hc', hcolumn⟩ := ih (Cursor.rest_skip hrest) fuel hmore
      refine ⟨c', ?_, hc', (Nat.le_add_right _ _).trans hcolumn⟩
      rw [quotedRun_escape hrest]
      exact congrArg (Option.map _) hrun

theorem readQuoted_quotedText {s : String} {size : ℕ} {c : Cursor}
    (h : c.rest = quotedText s ++ rest) (hsize : s.toList.length ≤ size) :
    ∃ c', readQuoted size '"' c = some (s.toList, c') ∧ c'.rest = rest ∧
      c.column < c'.column := by
  have hrest : c.rest = ['"'] ++ (escapedText s.toList ++ '"' :: rest) := by
    simpa [quotedText] using h
  obtain ⟨c', hrun, hc', hcolumn⟩ := quotedRun_escapedText s.toList (Cursor.rest_skip hrest)
    (Nat.lt_succ_of_le hsize)
  have hquote : c'.rest = ['"'] ++ rest := hc'
  refine ⟨c'.skip 1, ?_, Cursor.rest_skip hquote, ?_⟩
  · have hline : (c.skip 1).atDocumentLine = false :=
      Cursor.atDocumentLine_eq_false (Nat.succ_pos _)
    have hend : (c.skip 1).atEnd = false := by
      rw [Cursor.atEnd, show (c.skip 1).rest = _ from Cursor.rest_skip hrest]
      simp
    have hlooks : c'.looksAt '"' = true := by simp [Cursor.looksAt, Cursor.peek, hc']
    change quotedRun '"' (size + 1) (c.skip 1) = _ at hrun
    simp [readQuoted, readQuotedFrom, hline, hend, hrun, hlooks]
  · rw [Cursor.column_skip]
    exact Nat.lt_succ_of_le ((Nat.le_add_right _ _).trans hcolumn)

/-- The lexer is inside the braces. -/
structure Lexer.Inside (l : Lexer) (allowed : Bool) (kinds : List Token.Kind) (cs : List Char) :
    Prop where
  rest : l.cursor.rest = cs
  size : cs.length ≤ l.size
  column : 0 < l.cursor.column
  kinds : l.tokens.toList.map Token.kind = kinds
  levels : l.levels = []
  outer : ∃ key : Option PendingKey, l.outer = [key] ∧ key.any (·.required) = false
  pending : l.pending = none
  keyAllowed : l.keyAllowed = allowed

namespace Lexer

variable {l : Lexer} {allowed : Bool} {kinds : List Token.Kind}

theorem Inside.inFlow (h : l.Inside allowed kinds cs) : l.inFlow = true := by
  obtain ⟨key, houter, -⟩ := h.outer
  simp [Lexer.inFlow, houter]

theorem Inside.take (h : l.Inside allowed kinds (ch :: cs)) (a : Bool) (kind : Token.Kind) :
    ((l.allowKey a).take kind 1).Inside a (kinds ++ [kind]) cs where
  rest := by
    have hrest : l.cursor.rest = [ch] ++ cs := h.rest
    exact Cursor.rest_skip hrest
  size := Nat.le_of_succ_le h.size
  column := Nat.add_pos_left h.column _
  kinds := by simp [Lexer.take, add, moveTo, allowKey, ← h.kinds]
  levels := h.levels
  outer := h.outer
  pending := h.pending
  keyAllowed := rfl

theorem Inside.dropKey? (h : l.Inside allowed kinds cs) : l.dropKey? = some l := by
  obtain ⟨size, cursor, tokens, levels, outer, pending, keyAllowed⟩ := l
  obtain rfl : pending = none := h.pending
  rfl

theorem Inside.key (h : l.Inside allowed kinds ('?' :: cs)) :
    ∃ l', l.token '?' = some l' ∧ l'.Inside false (kinds ++ [.key]) cs := by
  refine ⟨_, ?_, h.take false .key⟩
  have hline := Cursor.atDocumentLine_eq_false h.column
  simp [token, Lexer.key, startBlock?, h.inFlow, h.dropKey?, hline]

theorem Inside.value (h : l.Inside allowed kinds (':' :: cs)) :
    ∃ l', l.token ':' = some l' ∧ l'.Inside false (kinds ++ [.value]) cs := by
  refine ⟨_, ?_, h.take false .value⟩
  have hline := Cursor.atDocumentLine_eq_false h.column
  simp [token, Lexer.value, startBlock?, h.inFlow, h.pending, hline]

theorem Inside.flowEntry (h : l.Inside allowed kinds (',' :: cs)) :
    ∃ l', l.token ',' = some l' ∧ l'.Inside true (kinds ++ [.flowEntry]) cs := by
  refine ⟨_, ?_, h.take true .flowEntry⟩
  have hline := Cursor.atDocumentLine_eq_false h.column
  simp [token, Lexer.flowEntry, h.dropKey?, hline]

theorem Inside.scalar {s : String} (h : l.Inside false kinds (quotedText s ++ cs)) :
    ∃ l', l.token '"' = some l' ∧ l'.Inside false (kinds ++ [.scalar s .doubleQuoted]) cs := by
  have hlength : (quotedText s ++ cs).length = (escapedText s.toList).length + cs.length + 2 := by
    simp [quotedText]
    omega
  have hsize := h.size
  have hfits : s.toList.length ≤ l.size := by
    have hescaped := Text.length_le_escapedText s.toList
    omega
  obtain ⟨c, hread, hc, hcolumn⟩ := readQuoted_quotedText h.rest hfits
  have hline := Cursor.atDocumentLine_eq_false h.column
  refine ⟨((l.allowKey false).add (.scalar s .doubleQuoted) l.mark c.mark).moveTo c, ?_, ?_⟩
  · simp [token, quotedScalar, word, noteKey?, h.keyAllowed, hread, hline]
  · constructor
    · exact hc
    · change cs.length ≤ l.size
      omega
    · exact Nat.zero_lt_of_lt hcolumn
    · simp [add, moveTo, allowKey, ← h.kinds]
    · exact h.levels
    · exact h.outer
    · exact h.pending
    · rfl

/-- A text at the start of a token. -/
def StartsToken (cs : List Char) : Prop := Stops (fun c => isBlankOrBreak c || c = '#') cs

/-- Blanks before a token are passed. -/
theorem Inside.skipGap (h : l.Inside allowed kinds (front ++ cs)) (hfront : ∀ c ∈ front, c = ' ')
    (hcs : StartsToken cs) : (l.skipGap (l.size + 1)).Inside allowed kinds cs := by
  have hmark : (l.mark.column = 0) = False := eq_false h.column.ne'
  have hstops (q : Char → Bool) (hq : ∀ c, q c → isBlankOrBreak c || c = '#') : Stops q cs := by
    intro c hc
    have hhead := hcs c hc
    have himp := hq c
    grind
  have hrest : (l.cursor.skipWhile fun ch =>
      ch = ' ' || ((l.inFlow || !l.keyAllowed) && ch = '\t')).rest = cs := by
    apply Cursor.rest_skipWhile h.rest
    · intro c hc
      simp [hfront c hc]
    · exact hstops _ fun c => by simp [isBlankOrBreak, isBlank]; grind
  have hlooks : ¬cs.head? = some '#' := by
    intro hhash
    simpa using hcs _ hhash
  have hbreak : cs.head?.any isBreak = false := by
    have hbreaks := hstops isBreak fun c => by simp [isBlankOrBreak]; grind
    cases cs with
    | nil => rfl
    | cons c cs => exact stops_cons.mp hbreaks
  have hgap : l.skipGap (l.size + 1) = l.moveTo (l.cursor.skipWhile fun ch =>
      ch = ' ' || ((l.inFlow || !l.keyAllowed) && ch = '\t')) := by
    simp only [Lexer.skipGap, hmark, decide_false, Bool.false_and, Bool.false_eq_true, if_false]
    simp [Cursor.looksAt, Cursor.peek, hrest, hlooks, hbreak]
  rw [hgap]
  have hsize := h.size
  rw [List.length_append] at hsize
  exact ⟨hrest, (Nat.le_add_left _ _).trans hsize, h.column.trans_le Cursor.column_skipWhile,
    h.kinds, h.levels, h.outer, h.pending, h.keyAllowed⟩

theorem any_required_filter {key : Option PendingKey} (h : key.any (·.required) = false)
    (q : PendingKey → Bool) : (key.filter q).any (·.required) = false := by
  cases key with
  | none => rfl
  | some k =>
    rw [Option.filter_some]
    split
    · exact h
    · rfl

theorem any_required_and {key : Option PendingKey} (h : key.any (·.required) = false)
    (q : PendingKey → Bool) : key.any (fun k => k.required && q k) = false := by
  cases key with
  | none => rfl
  | some k =>
    rw [Option.any_some] at h ⊢
    rw [h, Bool.false_and]

theorem Inside.expireKeys? (h : l.Inside allowed kinds cs) :
    ∃ l', l.expireKeys? = some l' ∧ l'.Inside allowed kinds cs := by
  obtain ⟨key, houter, hkey⟩ := h.outer
  refine ⟨{ l with pending := none, outer := [key.filter fun k => !k.isStale l.mark] }, ?_, ?_⟩
  · simp [Lexer.expireKeys?, h.pending, houter, any_required_and hkey]
  · exact ⟨h.rest, h.size, h.column, h.kinds, h.levels, ⟨_, rfl, any_required_filter hkey _⟩, rfl,
      h.keyAllowed⟩

theorem Inside.closeBlocks (h : l.Inside allowed kinds cs) (column : ℤ) :
    l.closeBlocks column = l := by rw [Lexer.closeBlocks, h.inFlow, if_pos rfl]

/-- From such a place on the lexer comes to its end with tokens of these kinds. -/
def Lexes (allowed : Bool) (kinds : List Token.Kind) (cs : List Char) (all : List Token.Kind) :
    Prop :=
  ∀ (l : Lexer) (fuel : ℕ), l.Inside allowed kinds cs → cs.length < fuel →
    ∃ l', l.run fuel = some l' ∧ l'.tokens.toList.map Token.kind = all

variable {allowed' : Bool} {kinds' all : List Token.Kind} {cs' : List Char}

theorem Lexes.before (front : List Char) (next : Lexes allowed' kinds' cs' all)
    (hcs : StartsToken (ch :: cs)) (hlength : cs'.length ≤ cs.length)
    (hfront : ∀ c ∈ front, c = ' ')
    (htoken : ∀ l : Lexer, l.Inside allowed kinds (ch :: cs) →
      ∃ l', l.token ch = some l' ∧ l'.Inside allowed' kinds' cs') :
    Lexes allowed kinds (front ++ ch :: cs) all := by
  intro l fuel h hfuel
  rw [List.length_append, List.length_cons] at hfuel
  cases fuel with
  | zero => cases hfuel
  | succ fuel =>
    obtain ⟨l₁, hready, h₁⟩ := (h.skipGap hfront hcs).expireKeys?
    obtain ⟨l₂, htake, h₂⟩ := htoken l₁ h₁
    obtain ⟨l', hrun, hkinds⟩ := next l₂ fuel h₂ (by omega)
    refine ⟨l', ?_, hkinds⟩
    have hpeek : l₁.cursor.peek = some ch := by simp [Cursor.peek, h₁.rest]
    simp [run, hready, h₁.closeBlocks, hpeek, htake, hrun]

theorem lexes_key (next : Lexes false (kinds ++ [.key]) cs all) :
    Lexes allowed kinds ('?' :: cs) all :=
  next.before [] (stops_cons.mpr (by decide)) le_rfl (by simp) fun _ => Inside.key

theorem lexes_value (next : Lexes false (kinds ++ [.value]) cs all) :
    Lexes allowed kinds (' ' :: ':' :: cs) all :=
  next.before [' '] (stops_cons.mpr (by decide)) le_rfl (by simp) fun _ => Inside.value

theorem lexes_comma (next : Lexes true (kinds ++ [.flowEntry]) cs all) :
    Lexes allowed kinds (',' :: cs) all :=
  next.before [] (stops_cons.mpr (by decide)) le_rfl (by simp) fun _ => Inside.flowEntry

theorem lexes_scalar (s : String)
    (next : Lexes false (kinds ++ [.scalar s .doubleQuoted]) cs all) :
    Lexes false kinds (' ' :: (quotedText s ++ cs)) all :=
  next.before [' '] (stops_cons.mpr (by decide)) (by simp; omega) (by simp) fun _ => Inside.scalar

theorem run_end {fuel : ℕ} (hrest : l.cursor.rest = []) (hcolumn : 0 < l.cursor.column)
    (hlevels : l.levels = []) (houter : l.outer = [])
    (hpending : l.pending.any (·.required) = false) :
    ∃ l', l.run (fuel + 1) = some l' ∧
      l'.tokens.toList.map Token.kind = l.tokens.toList.map Token.kind ++ [.streamEnd] := by
  obtain ⟨size, ⟨rest, mark⟩, tokens, levels, outer, pending, keyAllowed⟩ := l
  subst hrest hlevels houter
  have hmark : ¬mark.column = 0 := hcolumn.ne'
  simp [run, Lexer.skipGap, Lexer.mark, Cursor.looksAt, Cursor.peek, Cursor.skipWhile,
    Cursor.takeWhile, Cursor.skip, Lexer.expireKeys?, Lexer.closeBlocks, Lexer.inFlow, endText,
    Lexer.dropKey?, moveTo, add, allowKey, hmark, List.span, List.span.loop, Cursor.width,
    any_required_and hpending, any_required_filter hpending]

/-- What was pending before the braces is pending again behind them. -/
theorem lexes_close : Lexes allowed kinds ['\x7d'] (kinds ++ [.flowMappingEnd, .streamEnd]) := by
  intro l fuel h hfuel
  obtain ⟨fuel, rfl⟩ : ∃ n, fuel = n + 2 := ⟨fuel - 2, by simp at hfuel; omega⟩
  have hinside : l.Inside allowed kinds ([] ++ ['\x7d']) := h
  obtain ⟨l₁, hready, h₁⟩ :=
    (hinside.skipGap (by simp) (stops_cons.mpr (by decide))).expireKeys?
  obtain ⟨key, houter, hkey⟩ := h₁.outer
  let closed : Lexer := { l₁ with pending := key, outer := [] }
  let l₂ := (closed.allowKey false).take .flowMappingEnd 1
  have hline := Cursor.atDocumentLine_eq_false h₁.column
  have htoken : l₁.token '\x7d' = some l₂ := by
    simp [token, closeFlow, h₁.dropKey?, houter, hline, l₂, closed]
  have hrest : l₁.cursor.rest = ['\x7d'] ++ [] := h₁.rest
  obtain ⟨l', hrun, hkinds⟩ := @run_end l₂ fuel (Cursor.rest_skip hrest)
    (Nat.add_pos_left h₁.column 1) h₁.levels rfl hkey
  have hpeek : l₁.cursor.peek = some '\x7d' := by simp [Cursor.peek, h₁.rest]
  refine ⟨l', ?_, ?_⟩
  · rw [run, hready]
    simp [h₁.closeBlocks, hpeek, htoken, hrun]
  · rw [hkinds]
    simp [l₂, closed, Lexer.take, add, moveTo, allowKey, h₁.kinds]

def entryText (e : String × String) : List Char :=
  ['?', ' '] ++ quotedText e.1 ++ [' ', ':', ' '] ++ quotedText e.2 ++ [',']

def entryKinds (e : String × String) : List Token.Kind :=
  [.key, .scalar e.1 .doubleQuoted, .value, .scalar e.2 .doubleQuoted, .flowEntry]

theorem lexes_entries (es : List (String × String)) :
    Lexes true kinds (es.flatMap entryText ++ ['\x7d'])
      (kinds ++ es.flatMap entryKinds ++ [.flowMappingEnd, .streamEnd]) := by
  induction es generalizing kinds with
  | nil =>
    rw [List.flatMap_nil, List.flatMap_nil, List.append_nil]
    exact lexes_close
  | cons e es ih =>
    have htext : (e :: es).flatMap entryText ++ ['\x7d'] = '?' :: ' ' :: (quotedText e.1 ++
        ' ' :: ':' :: ' ' :: (quotedText e.2 ++ ',' :: (es.flatMap entryText ++ ['\x7d']))) := by
      simp [entryText]
    rw [htext]
    apply lexes_key
    apply lexes_scalar
    apply lexes_value
    apply lexes_scalar
    apply lexes_comma
    rw [List.flatMap_cons, ← List.append_assoc kinds]
    have hnext := @ih (kinds ++ entryKinds e)
    simpa [entryKinds] using hnext

/-- The opening brace, at the very start of a text. -/
theorem run_start {fuel : ℕ} :
    ∃ l : Lexer, (ofText ('\x7b' :: cs)).run (fuel + 1) = l.run fuel ∧
      l.Inside true [.flowMappingStart] cs := by
  let key : PendingKey := ⟨0, false, .origin⟩
  let l : Lexer :=
    { ((ofText ('\x7b' :: cs)).allowKey true).take .flowMappingStart 1 with
      outer := [some key] }
  refine ⟨l, ?_, ?_⟩
  · rfl
  · constructor
    · rfl
    · exact Nat.le_succ _
    · exact Nat.one_pos
    · rfl
    · rfl
    · exact ⟨some key, rfl, rfl⟩
    · rfl
    · rfl

end Lexer

theorem isAllowed_of_isPlain (h : isPlain ch) : isAllowed ch := by
  simp only [isPlain, Bool.and_eq_true, decide_eq_true_eq] at h
  simp only [isAllowed, Bool.or_eq_true, Bool.and_eq_true, decide_eq_true_eq]
  omega

def writtenMapping (es : List (String × String)) : List Char :=
  '\x7b' :: (es.flatMap Lexer.entryText ++ ['\x7d'])

theorem isAllowed_of_mem_quotedText {s : String} (h : ch ∈ quotedText s) : isAllowed ch := by
  simp only [quotedText, List.mem_cons, List.mem_append, List.not_mem_nil, or_false] at h
  rcases h with rfl | h | rfl
  · decide
  · rcases Text.mem_escapedText h with hplain | rfl
    · exact isAllowed_of_isPlain hplain
    · decide
  · decide

theorem isAllowed_of_mem_entryText {e : String × String} (h : ch ∈ Lexer.entryText e) :
    isAllowed ch := by
  have hmarks : ∀ c ∈ ['?', ' ', ':', ','], isAllowed c := List.all_eq_true.mp (by decide)
  simp only [Lexer.entryText, List.mem_append] at h
  rcases h with (((h | h) | h) | h) | h
  · exact hmarks ch (by simp at h ⊢; grind)
  · exact isAllowed_of_mem_quotedText h
  · exact hmarks ch (by simp at h ⊢; grind)
  · exact isAllowed_of_mem_quotedText h
  · exact hmarks ch (by simp at h ⊢; grind)

theorem isAllowed_of_mem {es : List (String × String)} (h : ch ∈ writtenMapping es) :
    isAllowed ch := by
  simp only [writtenMapping, List.mem_cons, List.mem_append, List.mem_flatMap, List.not_mem_nil,
    or_false] at h
  rcases h with rfl | ⟨e, -, h⟩ | rfl
  · decide
  · exact isAllowed_of_mem_entryText h
  · decide

theorem tokens?_written (es : List (String × String)) :
    ∃ tokens, tokens? (String.ofList (writtenMapping es)) = some tokens ∧
      tokens.map Token.kind =
        .flowMappingStart :: (es.flatMap Lexer.entryKinds ++ [.flowMappingEnd, .streamEnd]) := by
  have hallowed : (writtenMapping es).all isAllowed = true :=
    List.all_eq_true.mpr fun _ => isAllowed_of_mem
  obtain ⟨l, hstart, hl⟩ := @Lexer.run_start (es.flatMap Lexer.entryText ++ ['\x7d'])
    (writtenMapping es).length
  obtain ⟨l', hrun, hkinds⟩ := Lexer.lexes_entries es l (writtenMapping es).length hl
    (by simp [writtenMapping])
  refine ⟨l'.tokens.toList, ?_, hkinds⟩
  rw [tokens?, String.toList_ofList, hallowed, if_pos rfl]
  exact congrArg (Option.map _) (hstart.trans hrun)

end EngineBridge.Yaml
