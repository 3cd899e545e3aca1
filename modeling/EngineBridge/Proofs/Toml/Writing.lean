import EngineBridge.Proofs.Toml.Reading
import EngineBridge.Toml.Document
import Mathlib.Data.List.Forall2

/-!
Lines of bare keys with texts between double quotes are read as the table that they spell, whatever
the texts are.
-/

namespace EngineBridge.Toml

open Text (Stops eightDigits escaped escapedText exists_plain_front isPlain quotedText stops_cons)

/-- The entry has this name and this text for a value. -/
def Spells (entry : Key × Item) (e : String × String) : Prop :=
  entry.1.name = e.1 ∧ ∃ span, entry.2 = .value (.text e.2) span

namespace Read

variable {cs rest : List Char} {c : Char}

/-! Texts between quotes. -/

theorem isBasicChar_of_isPlain (h : isPlain c) : isBasicChar c := by
  simp only [isPlain, Bool.and_eq_true, decide_eq_true_eq] at h
  simp only [isBasicChar, isPrinting, Bool.and_eq_true, Bool.or_eq_true, decide_eq_true_eq]
  refine ⟨⟨.inl (.inr ⟨?_, ?_⟩), h.1.2⟩, h.2⟩ <;> omega

theorem number_eightDigits {n : ℕ} (h : n < 2 ^ 32) : number 16 (eightDigits n) = n := by
  simp only [number, eightDigits, List.foldl_map, Text.hexDigit?_digit, Option.getD_some]
  exact Text.eightDigits_value h

theorem isHexDigit_of_mem {n : ℕ} (h : c ∈ eightDigits n) : isHexDigit c := by
  obtain ⟨i, -, rfl⟩ := List.mem_map.mp h
  rw [isHexDigit, Text.hexDigit?_digit]
  rfl

theorem takes_scalarValue (c : Char) :
    Takes (scalarValue 8) (eightDigits c.toNat) rest (· = c) := by
  have hdigits : Takes (exactly 8 isHexDigit) (eightDigits c.toNat) rest
      (· = eightDigits c.toNat) := takes_exactly fun _ => isHexDigit_of_mem
  apply hdigits.finish
  intro ds hds
  rw [hds, number_eightDigits (Text.toNat_lt c), if_pos (by exact c.valid)]
  exact takes_pure (Char.ofNat_toNat c)

theorem takes_escapeSequence (c : Char) :
    Takes escapeSequence ('\\' :: 'U' :: eightDigits c.toNat) rest (· = c) := by
  have hletter : Takes (char fun _ => true) ['U'] (eightDigits c.toNat ++ rest) (· = 'U') :=
    takes_char rfl
  apply (takes_literal ['\\'] _).seq
  apply hletter.bind
  intro letter hname
  subst hname
  exact takes_scalarValue c

/-- What plain characters end at is no character of a text. -/
theorem stops_escapedText (h : Stops isPlain cs) :
    Stops isBasicChar (escapedText cs ++ '"' :: rest) := by
  cases cs with
  | nil => exact stops_cons.mpr rfl
  | cons c cs =>
    rw [Text.escapedText_cons, escaped, stops_cons.mp h]
    exact stops_cons.mpr rfl

/-- A run of characters that stand for themselves, or an escape. -/
def basicPart : Read (List Char) := takeSome isBasicChar <|> List.singleton <$> escapeSequence

theorem takes_basicPart_plain {front : List Char} (hplain : ∀ c ∈ front, isPlain c)
    (hfront : front ≠ []) (hstops : Stops isPlain cs) :
    Takes basicPart front (escapedText cs ++ '"' :: rest) (· = front) := by
  apply Takes.orElse
  exact takes_takeSome (fun c hc => isBasicChar_of_isPlain (hplain c hc))
    (stops_escapedText hstops) hfront

theorem takes_basicPart_escaped (h : isPlain c = false) :
    Takes basicPart (escaped c) rest (· = [c]) := by
  rw [escaped, h]
  apply (fails_takeSome (stops_cons.mpr rfl)).orElse
  exact (takes_escapeSequence c).map fun a ha => congrArg _ ha

theorem fails_basicPart : Fails basicPart ('"' :: rest) := by
  apply (fails_takeSome (stops_cons.mpr rfl)).or
  exact ((fails_literal_cons (by decide)).bind _).map _

theorem Takes.repeats_basicPart {front part : List Char}
    (h : Takes basicPart front (escapedText cs ++ '"' :: rest) (· = part)) (hfront : front ≠ [])
    (ih : Repeats basicPart (escapedText cs) ('"' :: rest) fun parts => parts.flatten = cs) :
    Repeats basicPart (front ++ escapedText cs) ('"' :: rest) fun parts =>
      parts.flatten = part ++ cs := by
  apply (h.repeats hfront ih).mono
  intro parts hparts
  obtain ⟨first, later, rfl, rfl, rfl⟩ := hparts
  rfl

/-- Induction on the length of the text: a run of plain characters is taken at once. -/
theorem repeats_escapedText (cs rest : List Char) :
    Repeats basicPart (escapedText cs) ('"' :: rest) fun parts => parts.flatten = cs := by
  induction hlength : cs.length using Nat.strong_induction_on generalizing cs with
  | h length ih =>
    subst hlength
    cases cs with
    | nil =>
      apply (repeats_none fails_basicPart).mono
      intro parts hparts
      simp [hparts]
    | cons c cs =>
      cases hc : isPlain c with
      | false =>
        have hne : escaped c ≠ [] := by simp [escaped, hc]
        exact (takes_basicPart_escaped hc).repeats_basicPart hne (ih _ (Nat.lt_succ_self _) cs rfl)
      | true =>
        obtain ⟨front, back, rfl, hplain, hstops⟩ := exists_plain_front cs
        have hrun : ∀ d ∈ c :: front, isPlain d := List.forall_mem_cons.mpr ⟨hc, hplain⟩
        have hshorter : back.length < (c :: (front ++ back)).length := by
          rw [List.length_cons, List.length_append]
          omega
        rw [← List.cons_append, Text.escapedText_append, Text.escapedText_of_plain hrun]
        exact (takes_basicPart_plain hrun (List.cons_ne_nil c front) hstops).repeats_basicPart
          (List.cons_ne_nil c front) (ih _ hshorter back rfl)

theorem takes_basicText (cs rest : List Char) :
    Takes basicText ('"' :: (escapedText cs ++ ['"'])) rest (· = cs) := by
  apply (takes_literal ['"'] _).seq
  apply (repeats_escapedText cs rest).takes.bind
  intro parts hparts
  apply (takes_literal ['"'] rest).finish
  intro _ _
  exact takes_pure hparts

/-- Three quotes in a row would start another kind of text. -/
theorem fails_multilineBasicText (h : rest.head? ≠ some '"') (s : String) :
    Fails multilineBasicText (quotedText s ++ rest) := by
  apply (fails_literal _).bind
  intro hprefix
  simp only [quotedText, List.cons_append, List.append_assoc, List.nil_append] at hprefix
  have htail := (List.cons_prefix_cons.mp hprefix).2
  cases hcs : escapedText s.toList with
  | nil =>
    rw [hcs] at htail
    have hrest := (List.cons_prefix_cons.mp htail).2
    cases rest with
    | nil => simp at hrest
    | cons c rest =>
      obtain rfl := (List.cons_prefix_cons.mp hrest).1
      exact h rfl
  | cons c _ =>
    rw [hcs] at htail
    obtain rfl := (List.cons_prefix_cons.mp htail).1
    have hmem : '"' ∈ escapedText s.toList := hcs ▸ List.mem_cons_self
    rcases Text.mem_escapedText hmem with hplain | hbackslash
    · revert hplain
      decide
    · revert hbackslash
      decide

theorem takes_value (h : rest.head? ≠ some '"') (s : String) :
    Takes value (quotedText s) rest (· = .text s) := by
  have htext : Takes text (quotedText s) rest (· = .text s) := by
    have hbasic := (takes_basicText s.toList rest).orElse (multilineLiteralText <|> literalText)
    apply ((fails_multilineBasicText h s).orElse hbasic).map
    intro cs hcs
    rw [hcs, String.ofList_toList]
  exact (htext.orElse _).orElse _

/-! Keys and lines. -/

/-- A name that needs no quotes. -/
structure IsBare (name : String) : Prop where
  chars : ∀ c ∈ name.toList, isKeyChar c
  ne_nil : name.toList ≠ []

theorem IsBare.stops {name : String} {p : Char → Bool} (h : IsBare name)
    (hp : ∀ c, isKeyChar c → p c = false) : Stops p (name.toList ++ cs) := by
  obtain ⟨c, chars, hname⟩ := List.exists_cons_of_ne_nil h.ne_nil
  rw [hname]
  exact stops_cons.mpr (hp c (h.chars c (hname ▸ List.mem_cons_self)))

theorem IsBare.head?_ne {name : String} (h : IsBare name) {d : Char} (hd : isKeyChar d = false) :
    (name.toList ++ cs).head? ≠ some d := by
  intro hhead
  have hstops : Stops (· = d) (name.toList ++ cs) := h.stops fun c hc => by grind
  simpa using hstops d hhead

theorem isBlank_of_isKeyChar (h : isKeyChar c) : isBlank c = false := by
  by_contra hblank
  simp only [isBlank, Bool.not_eq_false, Bool.or_eq_true, decide_eq_true_eq] at hblank
  rcases hblank with rfl | rfl
  · revert h
    decide
  · revert h
    decide

theorem fails_literal_head {d : Char} {text : List Char} (h : cs.head? ≠ some d) :
    Fails (literal (d :: text)) cs := by
  apply fails_literal
  intro hprefix
  cases cs with
  | nil => simp at hprefix
  | cons c cs => exact h (congrArg some (List.cons_prefix_cons.mp hprefix).1.symm)

variable {name : String}

theorem takes_simpleKey (h : IsBare name) (stops : Stops isKeyChar rest) :
    Takes simpleKey name.toList rest fun key => key.name = name := by
  have hname : Takes (basicText <|> literalText <|> takeSome isKeyChar) name.toList rest
      (· = name.toList) := by
    apply Fails.orElse ((fails_literal_head (h.head?_ne rfl)).bind _)
    apply Fails.orElse ((fails_literal_head (h.head?_ne rfl)).bind _)
    exact takes_takeSome h.chars stops h.ne_nil
  apply (takes_spanned hname).finish
  intro key hkey
  apply takes_pure
  rw [hkey, String.ofList_toList]

theorem takes_blanks (h : ∀ c ∈ cs, isBlank c) (stops : Stops isBlank rest) :
    Takes blanks cs rest fun _ => True :=
  (takes_takeWhile h stops).finish fun _ _ => takes_pure trivial

theorem takes_dottedKey (h : IsBare name) :
    Takes dottedKey (name.toList ++ [' ']) ('=' :: rest) fun key =>
      key.1 = [] ∧ key.2.name = name := by
  have hpart : Takes (do blanks; let k ← simpleKey; blanks; return k) (name.toList ++ [' '])
      ('=' :: rest) fun key => key.name = name := by
    have hone : Takes blanks [' '] ('=' :: rest) fun _ => True :=
      takes_blanks (by simp [isBlank]) (stops_cons.mpr rfl)
    apply (takes_blanks (by simp) _).first
    · intro _ _
      apply (takes_simpleKey h (stops_cons.mpr rfl)).bind
      intro key hkey
      apply hone.finish
      exact fun _ _ => takes_pure hkey
    · rw [List.append_assoc]
      exact h.stops fun c => isBlank_of_isKeyChar
  apply (takes_separated_one hpart (fails_literal_cons (by decide))).finish
  intro keys hkeys
  obtain ⟨key, rfl, hname⟩ := hkeys
  exact takes_pure ⟨rfl, hname⟩

theorem takes_trailing (rest : List Char) : Takes trailing ['\n'] rest fun _ => True := by
  have hcomment : Fails comment (['\n'] ++ rest) := (fails_literal_cons (by decide)).bind _
  apply (takes_blanks (by simp) (stops_cons.mpr rfl)).first
  intro _ _
  apply (takes_optional_of_fails hcomment).first
  intro _ _
  apply (takes_atEnd _).first
  intro ends hends
  subst hends
  exact (takes_literal ['\n'] rest).orElse _

def writtenLine (e : String × String) : List Char :=
  e.1.toList ++ [' '] ++ (['=', ' '] ++ quotedText e.2) ++ ['\n']

theorem takes_entry (h : IsBare name) (s : String) :
    Takes (entry value) (name.toList ++ [' '] ++ (['=', ' '] ++ quotedText s)) ('\n' :: rest)
      fun e => e.path = [] ∧ e.key.name = name ∧ e.value = .text s := by
  have hblank : Takes blanks [' '] (quotedText s ++ '\n' :: rest) fun _ => True :=
    takes_blanks (by simp [isBlank]) (stops_cons.mpr rfl)
  apply (takes_dottedKey h).bind
  intro key hkey
  apply (takes_literal ['='] _).seq
  apply hblank.seq
  apply (takes_spanned (takes_value (by simp) s)).finish
  intro v hv
  exact takes_pure ⟨hkey.1, hkey.2, hv⟩

/-- The draft holds these entries and is still at the root table. -/
structure Holds (d : Draft) (es : List (String × String)) : Prop where
  header : d.header = none
  entries : List.Forall₂ Spells d.current.entries es

variable {d : Draft} {es : List (String × String)} {e : String × String}

theorem Holds.get? (h : Holds d es) (hname : ∀ e ∈ es, e.1 ≠ name) :
    d.current.get? name = none := by
  obtain ⟨-, hentries⟩ := h
  rw [Table.get?, Option.map_eq_none_iff]
  generalize d.current.entries = entries at hentries
  induction hentries with
  | nil => rfl
  | cons hab _ ih =>
    rw [List.find?_cons_of_neg]
    · exact ih fun e he => hname e (List.mem_cons_of_mem _ he)
    · simpa [hab.1] using hname _ List.mem_cons_self

theorem Holds.addEntry? (h : Holds d es) (hfresh : ∀ e' ∈ es, e'.1 ≠ e.1) {key : Key}
    (hkey : key.name = e.1) (span : Span) :
    ∃ d', d.addEntry? [] key (.text e.2) span = some d' ∧ Holds d' (es ++ [e]) := by
  have hget : d.current.get? key.name = none := h.get? (by rwa [hkey])
  have hadd : d.current.addDotted? [] key (.value (.text e.2) span) =
      some (d.current.append key (.value (.text e.2) span)) := by
    simp [Table.addDotted?, Table.change, Table.add?, hget]
  rw [Draft.addEntry?, hadd]
  refine ⟨_, rfl, h.header, ?_⟩
  exact List.rel_append h.entries (.cons ⟨hkey, span, rfl⟩ .nil)

theorem takes_entryLine (h : Holds d es) (hbare : IsBare e.1) (hfresh : ∀ e' ∈ es, e'.1 ≠ e.1) :
    Takes (entryLine d) (writtenLine e) rest (Holds · (es ++ [e])) := by
  apply (takes_entry hbare e.2).bind
  intro e' he'
  apply (takes_trailing rest).finish
  intro _ _
  obtain ⟨hpath, hkey, hvalue⟩ := he'
  obtain ⟨d', hadd, hd'⟩ := h.addEntry? hfresh hkey e'.span
  rw [hpath, hvalue, hadd]
  exact takes_pure hd'

theorem writtenLine_append (e : String × String) (cs : List Char) : writtenLine e ++ cs =
    e.1.toList ++ (' ' :: '=' :: ' ' :: (quotedText e.2 ++ '\n' :: cs)) := by
  simp [writtenLine]

theorem takes_line (h : Holds d es) (hbare : IsBare e.1) (hfresh : ∀ e' ∈ es, e'.1 ≠ e.1) :
    Takes (line d) (writtenLine e) rest (Holds · (es ++ [e])) := by
  have hfails {c : Char} {cs : List Char} (hc : isKeyChar c = false) :
      Fails (literal (c :: cs)) (writtenLine e ++ rest) := by
    rw [writtenLine_append]
    exact fails_literal_head (hbare.head?_ne hc)
  apply (takes_blanks (by simp) _).first
  · intro _ _
    apply Fails.orElse (((hfails rfl).bind _).bind _)
    apply Fails.orElse (((hfails rfl).or (hfails rfl)).bind _)
    apply Fails.orElse
    · apply Fails.bind
      exact ((((hfails rfl).bind _).spanned).bind _).or ((((hfails rfl).bind _).spanned).bind _)
    · exact takes_entryLine h hbare hfresh
  · rw [writtenLine_append]
    exact hbare.stops fun c => isBlank_of_isKeyChar

/-- Induction on the lines that are still to come. -/
theorem takes_lines {fuel : ℕ} {new : List (String × String)} (h : Holds d es)
    (hbare : ∀ e ∈ new, IsBare e.1) (hfuel : new.length < fuel)
    (hdistinct : ((es ++ new).map Prod.fst).Nodup) :
    Takes (lines fuel d) (new.flatMap writtenLine) [] (Holds · (es ++ new)) := by
  induction new generalizing fuel d es with
  | nil =>
    cases fuel with
    | zero => omega
    | succ fuel =>
      apply (takes_blanks (by simp) (by simp [Stops])).first
      intro _ _
      apply (takes_atEnd _).first
      intro ends hends
      subst hends
      exact takes_pure (by rwa [List.append_nil])
  | cons e new ih =>
    cases fuel with
    | zero => omega
    | succ fuel =>
      have hfresh : ∀ e' ∈ es, e'.1 ≠ e.1 := by
        intro e' he' heq
        rw [List.map_append, List.nodup_append] at hdistinct
        exact hdistinct.2.2 _ (List.mem_map_of_mem he') _ (by simp) heq
      apply (takes_blanks (by simp) _).first
      · intro _ _
        apply (takes_atEnd _).first
        intro ends hends
        have hmore : ends = false := by simp [hends, writtenLine]
        rw [hmore, List.flatMap_cons]
        apply (takes_line h (hbare e List.mem_cons_self) hfresh).bind
        intro d' hd'
        rw [List.append_cons] at hdistinct ⊢
        exact ih hd' (fun e' he' => hbare e' (List.mem_cons_of_mem _ he'))
          (Nat.lt_of_succ_lt_succ hfuel) hdistinct
      · rw [List.append_nil, List.flatMap_cons, writtenLine_append]
        exact (hbare e List.mem_cons_self).stops fun c => isBlank_of_isKeyChar

theorem length_le_lines (es : List (String × String)) :
    es.length ≤ (es.flatMap writtenLine).length := by
  induction es with
  | nil => simp
  | cons e es ih =>
    have hline : writtenLine e ≠ [] := by simp [writtenLine]
    have hpos := List.length_pos_iff.mpr hline
    rw [List.flatMap_cons, List.length_append, List.length_cons]
    omega

end Read

/-- A text of one line for each entry, all with different bare names, spells the table of these
entries. -/
theorem ofText?_written {es : List (String × String)} (hbare : ∀ e ∈ es, Read.IsBare e.1)
    (hdistinct : (es.map Prod.fst).Nodup) :
    ∃ t, Table.ofText? (String.ofList (es.flatMap Read.writtenLine)) = some t ∧
      List.Forall₂ Spells t.entries es := by
  have hmark : Read.Fails Read.byteOrderMark (es.flatMap Read.writtenLine) := by
    cases es with
    | nil => exact Read.fails_literal (by simp)
    | cons e es =>
      rw [List.flatMap_cons, Read.writtenLine_append]
      exact Read.fails_literal_head ((hbare e List.mem_cons_self).head?_ne (by decide))
  have hempty : Read.Holds .empty [] := ⟨rfl, .nil⟩
  have hskip : Read.Takes (do let _ ← Read.optional Read.byteOrderMark) []
      (es.flatMap Read.writtenLine) fun _ => True :=
    (Read.takes_optional_of_fails hmark).finish fun _ _ => Read.takes_pure trivial
  have hlines := Read.takes_lines hempty hbare (Nat.lt_succ_of_le (Read.length_le_lines es))
    hdistinct
  obtain ⟨u, hstart, -⟩ := hskip 0 (es.flatMap Read.writtenLine).length (Nat.zero_le _)
  obtain ⟨d, hrun, hd⟩ := hlines 0 _ le_rfl
  rw [List.append_nil] at hrun
  rw [List.nil_append] at hd hstart
  refine ⟨d.current, ?_, hd.entries⟩
  simp only [Table.ofText?, String.toList_ofList, Cursor.ofText, Option.bind_eq_bind]
  rw [hstart]
  simp only [Option.bind_some]
  change (Read.lines _ _ ⟨_, 0, _⟩).bind _ = _
  rw [hrun]
  rw [Option.bind_some, Draft.finish?, hd.header]

end EngineBridge.Toml
