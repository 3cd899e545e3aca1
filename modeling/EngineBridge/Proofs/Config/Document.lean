import EngineBridge.Config.OfFile

/-!
Which documents are configurations, for any format and any parser of it. Every entry has to name a
setting, no setting may come twice, and a setting that does not come has its default. A file that is
no such document is reported as a bad configuration and as nothing else.
-/

namespace EngineBridge.Config

open Text (Bytes)

variable {ε : Type}

section

variable {ε' α β : Type} {x : Except ε α} {a : α} {b : β}

theorem map_eq_ok_iff {f : α → β} : x.map f = .ok b ↔ ∃ a, x = .ok a ∧ f a = b := by
  cases x with
  | error e => exact iff_of_false (by rintro ⟨⟩) (by rintro ⟨a, h, -⟩; cases h)
  | ok a => exact ⟨fun h => ⟨a, rfl, Except.ok.inj h⟩, by rintro ⟨a', h, rfl⟩; cases h; rfl⟩

theorem bind_eq_ok_iff {f : α → Except ε β} :
    x.bind f = .ok b ↔ ∃ a, x = .ok a ∧ f a = .ok b := by
  cases x with
  | error e => exact iff_of_false (by rintro ⟨⟩) (by rintro ⟨a, h, -⟩; cases h)
  | ok a => exact ⟨fun h => ⟨a, rfl, h⟩, by rintro ⟨a', h, hf⟩; cases h; exact hf⟩

theorem mapError_eq_ok_iff {f : ε → ε'} : x.mapError f = .ok a ↔ x = .ok a := by
  cases x with
  | error e => exact iff_of_false (by rintro ⟨⟩) (by rintro ⟨⟩)
  | ok a' => exact ⟨fun h => congrArg _ (Except.ok.inj h), fun h => congrArg _ (Except.ok.inj h)⟩

end

theorem Field.ofName?_name (field : Field) : Field.ofName? field.name = some field := by
  cases field <;> rfl

theorem Field.ofName?_eq_some_iff {name : String} {field : Field} :
    Field.ofName? name = some field ↔ name = field.name := by
  constructor
  · intro h
    rw [Field.ofName?] at h
    split at h
    next hlibrary =>
      cases h
      exact hlibrary
    next =>
      split at h
      next hfilter =>
        cases h
        exact hfilter
      next => cases h
  · rintro rfl
    exact Field.ofName?_name field

theorem Field.name_injective {field field' : Field} (h : field.name = field'.name) :
    field = field' := by
  have hname := Field.ofName?_name field
  rw [h, Field.ofName?_name] at hname
  exact (Option.some.inj hname).symm

def Entry.Names (entry : Entry ε) (field : Field) : Prop := entry.name = .ok field.name

theorem Entry.Names.unique {entry : Entry ε} {field field' : Field} (h : entry.Names field)
    (h' : entry.Names field') : field = field' :=
  Field.name_injective (Except.ok.inj (h.symm.trans h'))

namespace Draft

def Holds (d : Draft) (entry : Entry ε) : Field → Prop
  | .nativeLibrary => ∃ path, entry.path = .ok path ∧ d.nativeLibrary = some path
  | .logFilter => ∃ text, entry.text = .ok text ∧ d.logFilter = some text

def Agrees (d d' : Draft) : Field → Prop
  | .nativeLibrary => d.nativeLibrary = d'.nativeLibrary
  | .logFilter => d.logFilter = d'.logFilter

variable {d d' d₁ : Draft} {entry : Entry ε} {field : Field}

theorem ext_of_agrees (h : ∀ field, d.Agrees d' field) : d = d' := by
  obtain ⟨library, filter⟩ := d
  obtain ⟨library', filter'⟩ := d'
  obtain rfl : library = library' := h .nativeLibrary
  obtain rfl : filter = filter' := h .logFilter
  rfl

theorem Agrees.trans (h : d.Agrees d₁ field) (h' : d₁.Agrees d' field) : d.Agrees d' field := by
  cases field <;> exact Eq.trans h h'

theorem Agrees.has (h : d.Agrees d' field) : d.has field = d'.has field := by
  cases field <;> exact congrArg Option.isSome h

theorem Holds.of_agrees (h : d.Holds entry field) (agrees : d.Agrees d' field) :
    d'.Holds entry field := by
  cases field with
  | nativeLibrary =>
    obtain ⟨path, hpath, hd⟩ := h
    exact ⟨path, hpath, Eq.trans (Eq.symm agrees) hd⟩
  | logFilter =>
    obtain ⟨text, htext, hd⟩ := h
    exact ⟨text, htext, Eq.trans (Eq.symm agrees) hd⟩

theorem Holds.has (h : d.Holds entry field) : d.has field = true := by
  cases field with
  | nativeLibrary =>
    obtain ⟨path, -, hd⟩ := h
    rw [Draft.has, hd]
    rfl
  | logFilter =>
    obtain ⟨text, -, hd⟩ := h
    rw [Draft.has, hd]
    rfl

theorem Agrees.symm (h : d.Agrees d' field) : d'.Agrees d field := by
  cases field <;> exact Eq.symm h

theorem exists_changed (d d' : Draft) (field : Field) :
    ∃ d₁ : Draft, d₁.Agrees d' field ∧ ∀ field', field' ≠ field → d.Agrees d₁ field' := by
  cases field with
  | nativeLibrary =>
    refine ⟨{ d with nativeLibrary := d'.nativeLibrary }, rfl, fun field' h => ?_⟩
    cases field' with
    | nativeLibrary => exact absurd rfl h
    | logFilter => rfl
  | logFilter =>
    refine ⟨{ d with logFilter := d'.logFilter }, rfl, fun field' h => ?_⟩
    cases field' with
    | nativeLibrary => rfl
    | logFilter => exact absurd rfl h

theorem read_ok_iff : d.read entry field = .ok d' ↔
    d'.Holds entry field ∧ ∀ field', field' ≠ field → d.Agrees d' field' := by
  cases field with
  | nativeLibrary =>
    rw [read, map_eq_ok_iff]
    constructor
    · rintro ⟨path, hpath, rfl⟩
      refine ⟨⟨path, hpath, rfl⟩, fun field' h => ?_⟩
      cases field' with
      | nativeLibrary => exact absurd rfl h
      | logFilter => rfl
    · rintro ⟨⟨path, hpath, hd⟩, others⟩
      have hfilter : d.logFilter = d'.logFilter := others .logFilter (by decide)
      exact ⟨path, hpath, by rw [hfilter, ← hd]⟩
  | logFilter =>
    rw [read, map_eq_ok_iff]
    constructor
    · rintro ⟨text, htext, rfl⟩
      refine ⟨⟨text, htext, rfl⟩, fun field' h => ?_⟩
      cases field' with
      | nativeLibrary => rfl
      | logFilter => exact absurd rfl h
    · rintro ⟨⟨text, htext, hd⟩, others⟩
      have hlibrary : d.nativeLibrary = d'.nativeLibrary := others .nativeLibrary (by decide)
      exact ⟨text, htext, by rw [hlibrary, ← hd]⟩

theorem take_ok_iff : d.take entry = .ok d' ↔
    ∃ field, entry.Names field ∧ d.has field = false ∧ d'.Holds entry field ∧
      ∀ field', field' ≠ field → d.Agrees d' field' := by
  cases hname : entry.name with
  | error e =>
    rw [take, hname]
    refine iff_of_false (by rintro ⟨⟩) ?_
    rintro ⟨field, names, -⟩
    cases hname.symm.trans names
  | ok name =>
    have hnames (field : Field) : entry.Names field ↔ Field.ofName? name = some field := by
      rw [Entry.Names, hname, Field.ofName?_eq_some_iff]
      exact ⟨Except.ok.inj, congrArg _⟩
    simp only [take, hname, hnames]
    cases hfield : Field.ofName? name with
    | none =>
      refine iff_of_false ?_ (by rintro ⟨field, h, -⟩; cases h)
      intro h
      simp [bind, Except.bind, hfield] at h
    | some field =>
      simp only [bind, Except.bind, hfield]
      cases hhas : d.has field with
      | true =>
        refine iff_of_false (by rintro ⟨⟩) ?_
        rintro ⟨field', h, hhas', -⟩
        cases h
        rw [hhas] at hhas'
        cases hhas'
      | false =>
        rw [if_neg Bool.false_ne_true, read_ok_iff]
        refine ⟨fun h => ⟨field, rfl, hhas, h⟩, ?_⟩
        rintro ⟨field', h, -, hread⟩
        cases h
        exact hread

/-- What a whole document makes of a draft: each entry names a setting that was not there before,
all of them different ones, and the settings without an entry stay. -/
structure Gains (entries : List (Entry ε)) (d d' : Draft) : Prop where
  named : ∀ entry ∈ entries, ∃ field, entry.Names field ∧ d.has field = false ∧
    d'.Holds entry field
  once : entries.Pairwise fun entry later => ∀ field, entry.Names field → ¬later.Names field
  others : ∀ field, (∀ entry ∈ entries, ¬entry.Names field) → d.Agrees d' field

variable {entries : List (Entry ε)}

theorem gains_nil_iff : Gains ([] : List (Entry ε)) d d' ↔ d = d' := by
  constructor
  · intro h
    exact ext_of_agrees fun field => h.others field (by simp)
  · rintro rfl
    exact ⟨by simp, .nil, fun field _ => by cases field <;> rfl⟩

theorem Gains.cons (htake : d.take entry = .ok d₁) (h : Gains entries d₁ d') :
    Gains (entry :: entries) d d' := by
  obtain ⟨field, names, fresh, holds, others⟩ := take_ok_iff.mp htake
  have later : ∀ entry' ∈ entries, ¬entry'.Names field := by
    intro entry' hmem hnames
    obtain ⟨field', hnames', fresh', -⟩ := h.named entry' hmem
    cases hnames.unique hnames'
    rw [holds.has] at fresh'
    cases fresh'
  constructor
  · intro entry' hmem
    rcases List.mem_cons.mp hmem with rfl | hmem
    · exact ⟨field, names, fresh, holds.of_agrees (h.others field later)⟩
    · obtain ⟨field', names', fresh', holds'⟩ := h.named entry' hmem
      have hne : field' ≠ field := by
        rintro rfl
        exact later entry' hmem names'
      exact ⟨field', names', (others field' hne).has.trans fresh', holds'⟩
  · refine List.pairwise_cons.mpr ⟨fun entry' hmem field' names' => ?_, h.once⟩
    cases names.unique names'
    exact later entry' hmem
  · intro field' hnone
    have hne : field' ≠ field := by
      rintro rfl
      exact hnone entry List.mem_cons_self names
    exact (others field' hne).trans
      (h.others field' fun entry' hmem => hnone entry' (List.mem_cons_of_mem _ hmem))

theorem Gains.exists_take (h : Gains (entry :: entries) d d') :
    ∃ d₁, d.take entry = .ok d₁ ∧ Gains entries d₁ d' := by
  obtain ⟨hfirst, hpairs⟩ := List.pairwise_cons.mp h.once
  obtain ⟨field, names, fresh, holds⟩ := h.named entry List.mem_cons_self
  obtain ⟨d₁, agrees, others⟩ := d.exists_changed d' field
  refine ⟨d₁, take_ok_iff.mpr ⟨field, names, fresh, holds.of_agrees agrees.symm, others⟩, ?_⟩
  constructor
  · intro entry' hmem
    obtain ⟨field', names', fresh', holds'⟩ := h.named entry' (List.mem_cons_of_mem _ hmem)
    have hne : field' ≠ field := by
      rintro rfl
      exact hfirst entry' hmem field' names names'
    exact ⟨field', names', (others field' hne).has.symm.trans fresh', holds'⟩
  · exact hpairs
  · intro field' hnone
    by_cases hfield : field' = field
    · subst hfield
      exact agrees
    · refine (others field' hfield).symm.trans (h.others field' fun entry' hmem names' => ?_)
      rcases List.mem_cons.mp hmem with rfl | hmem
      · exact hfield (names'.unique names)
      · exact hnone entry' hmem names'

theorem foldlM_take_ok_iff : entries.foldlM take d = .ok d' ↔ Gains entries d d' := by
  induction entries generalizing d with
  | nil => exact Iff.trans ⟨Except.ok.inj, congrArg _⟩ gains_nil_iff.symm
  | cons entry entries ih =>
    rw [List.foldlM_cons]
    constructor
    · intro h
      cases htake : d.take entry with
      | error e =>
        rw [htake] at h
        cases h
      | ok d₁ =>
        rw [htake] at h
        exact .cons htake (ih.mp h)
    · intro h
      obtain ⟨d₁, htake, hrest⟩ := h.exists_take
      rw [htake]
      exact ih.mpr hrest

end Draft

/-- The entries name settings, none of them twice, and these are their values. -/
structure Describes (entries : List (Entry ε)) (c : Settings) : Prop where
  known : ∀ entry ∈ entries, entry.name = .ok "native_library" ∨ entry.name = .ok "log_filter"
  once : entries.Pairwise fun entry later => entry.name ≠ later.name
  library : ∀ entry ∈ entries, entry.name = .ok "native_library" →
    entry.path = .ok c.nativeLibrary
  filter : ∀ entry ∈ entries, entry.name = .ok "log_filter" → entry.text = .ok c.logFilter
  noLibrary : (∀ entry ∈ entries, entry.name ≠ .ok "native_library") → c.nativeLibrary = none
  noFilter : (∀ entry ∈ entries, entry.name ≠ .ok "log_filter") → c.logFilter = "warn"

variable {entries : List (Entry ε)} {c : Settings}

theorem describes_of_gains {d : Draft} (h : Draft.Gains entries .empty d) :
    Describes entries d.settings := by
  constructor
  · intro entry hmem
    obtain ⟨field, names, -⟩ := h.named entry hmem
    cases field with
    | nativeLibrary => exact .inl names
    | logFilter => exact .inr names
  · refine h.once.imp_of_mem fun {entry later} hmem _ hdistinct heq => ?_
    obtain ⟨field, names, -⟩ := h.named entry hmem
    exact hdistinct field names (heq.symm.trans names)
  · intro entry hmem names
    obtain ⟨field, names', -, holds⟩ := h.named entry hmem
    obtain rfl : field = .nativeLibrary := names'.unique names
    obtain ⟨path, hpath, hd⟩ := holds
    rw [hpath, Draft.settings, hd]
    rfl
  · intro entry hmem names
    obtain ⟨field, names', -, holds⟩ := h.named entry hmem
    obtain rfl : field = .logFilter := names'.unique names
    obtain ⟨text, htext, hd⟩ := holds
    rw [htext, Draft.settings, hd]
    rfl
  · intro hnone
    have hd : none = d.nativeLibrary := h.others .nativeLibrary hnone
    rw [Draft.settings, ← hd]
    rfl
  · intro hnone
    have hd : none = d.logFilter := h.others .logFilter hnone
    rw [Draft.settings, ← hd]
    rfl

/-- A setting that is there if it was named, and that has its default otherwise. -/
theorem exists_setting {α : Type} {named : Prop} {value otherwise : α}
    (h : ¬named → value = otherwise) : ∃ setting : Option α,
      setting.getD otherwise = value ∧ (named → setting = some value) ∧
        (¬named → none = setting) := by
  by_cases hnamed : named
  · exact ⟨some value, rfl, fun _ => rfl, fun hnot => absurd hnamed hnot⟩
  · exact ⟨none, (h hnamed).symm, fun h => absurd h hnamed, fun _ => rfl⟩

theorem Describes.exists_gains (h : Describes entries c) :
    ∃ d, Draft.Gains entries .empty d ∧ d.settings = c := by
  let Named (field : Field) : Prop := ∃ entry ∈ entries, entry.Names field
  have hnone {field : Field} (hnamed : ¬Named field) : ∀ entry ∈ entries, ¬entry.Names field :=
    fun entry hmem names => hnamed ⟨entry, hmem, names⟩
  obtain ⟨library, hlibrary, hsome, hdefault⟩ :=
    exists_setting fun hnamed : ¬Named .nativeLibrary => h.noLibrary (hnone hnamed)
  obtain ⟨filter, hfilter, hsome', hdefault'⟩ :=
    exists_setting fun hnamed : ¬Named .logFilter => h.noFilter (hnone hnamed)
  refine ⟨⟨library, filter⟩, ⟨?_, ?_, ?_⟩, ?_⟩
  · intro entry hmem
    rcases h.known entry hmem with names | names
    · exact ⟨.nativeLibrary, names, rfl, c.nativeLibrary, h.library entry hmem names,
        hsome ⟨entry, hmem, names⟩⟩
    · exact ⟨.logFilter, names, rfl, c.logFilter, h.filter entry hmem names,
        hsome' ⟨entry, hmem, names⟩⟩
  · exact h.once.imp fun hdistinct field names names' => hdistinct (names.trans names'.symm)
  · intro field hunnamed
    have hnot : ¬Named field := by
      rintro ⟨entry, hmem, names⟩
      exact hunnamed entry hmem names
    cases field with
    | nativeLibrary => exact hdefault hnot
    | logFilter => exact hdefault' hnot
  · rw [Draft.settings, Settings.default, hlibrary, hfilter]

namespace Settings

theorem ofEntries_ok_iff : ofEntries entries = .ok c ↔ Describes entries c := by
  rw [ofEntries, map_eq_ok_iff]
  constructor
  · rintro ⟨d, hfold, rfl⟩
    exact describes_of_gains (Draft.foldlM_take_ok_iff.mp hfold)
  · intro h
    obtain ⟨d, gains, hsettings⟩ := h.exists_gains
    exact ⟨d, Draft.foldlM_take_ok_iff.mpr gains, hsettings⟩

variable {read : String → Except String Bytes} {path text : String}

theorem ofText_ok_iff {parser : Parser} :
    ofText parser text = .ok c ↔ ∃ entries, parser text = .ok entries ∧ Describes entries c := by
  rw [ofText, mapError_eq_ok_iff, bind_eq_ok_iff]
  simp only [ofEntries_ok_iff]

theorem readText_ok_iff : readText read path = .ok text ↔
    ∃ bytes, read path = .ok bytes ∧ Text.Utf8.decode bytes = .ok text := by
  change (read path).bind _ = _ ↔ _
  rw [bind_eq_ok_iff]
  simp only [mapError_eq_ok_iff]

/-- A file is a configuration if it holds text and the parser that its extension selects hands on
entries that describe one. -/
theorem ofFile_ok_iff {parser : Format → Parser} : ofFile read parser path = .ok c ↔
    ∃ bytes text entries, read path = .ok bytes ∧ Text.Utf8.decode bytes = .ok text ∧
      parser (.ofPath path) text = .ok entries ∧ Describes entries c := by
  rw [ofFile]
  cases hread : readText read path with
  | error reason =>
    refine iff_of_false (by rintro ⟨⟩) ?_
    rintro ⟨bytes, text, entries, hbytes, hdecode, -⟩
    cases hread.symm.trans (readText_ok_iff.mpr ⟨bytes, hbytes, hdecode⟩)
  | ok text =>
    obtain ⟨bytes, hbytes, hdecode⟩ := readText_ok_iff.mp hread
    refine ofText_ok_iff.trans ⟨?_, ?_⟩
    · rintro ⟨entries, hparse, describes⟩
      exact ⟨bytes, text, entries, hbytes, hdecode, hparse, describes⟩
    · rintro ⟨bytes', text', entries, hbytes', hdecode', hparse, describes⟩
      cases hbytes.symm.trans hbytes'
      cases hdecode.symm.trans hdecode'
      exact ⟨entries, hparse, describes⟩

theorem ofText_error {parser : Parser} {e : Error} (h : ofText parser text = .error e) :
    ∃ message, e = .config message := by
  rw [ofText] at h
  cases hentries : (parser text).bind ofEntries with
  | ok c =>
    rw [hentries] at h
    cases h
  | error reason =>
    rw [hentries] at h
    exact ⟨reason, (Except.error.inj h).symm⟩

theorem ofFile_error {parser : Format → Parser} {e : Error}
    (h : ofFile read parser path = .error e) : ∃ message, e = .config message := by
  rw [ofFile] at h
  cases hread : readText read path with
  | error reason =>
    rw [hread] at h
    exact ⟨_, (Except.error.inj h).symm⟩
  | ok text =>
    rw [hread] at h
    exact ofText_error h

end Settings

end EngineBridge.Config
