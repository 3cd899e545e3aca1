import EngineBridge.Config.OfYaml
import EngineBridge.Proofs.Config.Document
import EngineBridge.Proofs.Text.Utf8
import EngineBridge.Proofs.Toml.Writing
import EngineBridge.Proofs.Yaml.Writing

/-!
Every configuration can be written as a text, from which it is read again as it was.
-/

namespace EngineBridge.Config

/-- The settings as names with texts; without a library there is none to name. -/
def Settings.spelled (c : Settings) : List (String × String) :=
  (c.nativeLibrary.map fun path => ("native_library", path)).toList ++
    [("log_filter", c.logFilter)]

/-- The entry has this name and this text for a value. -/
structure Entry.Spells {ε : Type} (entry : Entry ε) (e : String × String) : Prop where
  name : entry.name = .ok e.1
  path : entry.path = .ok (some e.2)
  text : entry.text = .ok e.2

variable {entries : List (Entry String)} {c : Settings}

theorem describes_spelled (h : List.Forall₂ Entry.Spells entries c.spelled) :
    Describes entries c := by
  obtain ⟨library, filter⟩ := c
  cases library with
  | none =>
    obtain ⟨entry, _, hentry, hnil, rfl⟩ := List.forall₂_cons_right_iff.mp h
    obtain rfl := List.forall₂_nil_right_iff.mp hnil
    exact ⟨by simp [hentry.name], by simp, by simp [hentry.name], by simp [hentry.text],
      by simp [hentry.name], by simp [hentry.name]⟩
  | some path =>
    obtain ⟨entry, _, hentry, hrest, rfl⟩ := List.forall₂_cons_right_iff.mp h
    obtain ⟨later, _, hlater, hnil, rfl⟩ := List.forall₂_cons_right_iff.mp hrest
    obtain rfl := List.forall₂_nil_right_iff.mp hnil
    exact ⟨by simp [hentry.name, hlater.name], by simp [hentry.name, hlater.name],
      by simp [hentry.name, hentry.path, hlater.name],
      by simp [hentry.name, hlater.name, hlater.text], by simp [hentry.name],
      by simp [hlater.name]⟩

theorem spelled_isBare (c : Settings) : ∀ e ∈ c.spelled, Toml.Read.IsBare e.1 := by
  have hnames : Toml.Read.IsBare "native_library" ∧ Toml.Read.IsBare "log_filter" :=
    ⟨⟨List.all_eq_true.mp (by decide), by decide⟩, ⟨List.all_eq_true.mp (by decide), by decide⟩⟩
  obtain ⟨library, filter⟩ := c
  cases library with
  | none => simpa [Settings.spelled] using hnames.2
  | some path => simpa [Settings.spelled] using hnames

theorem spelled_distinct (c : Settings) : (c.spelled.map Prod.fst).Nodup := by
  obtain ⟨library, filter⟩ := c
  cases library <;> simp [Settings.spelled]

def Settings.toToml (c : Settings) : String :=
  String.ofList (c.spelled.flatMap Toml.Read.writtenLine)

theorem spells_tomlEntry (text : String) {entry : Toml.Key × Toml.Item} {e : String × String}
    (h : Toml.Spells entry e) : (OfToml.entry text entry.1 entry.2).Spells e := by
  obtain ⟨hname, span, hvalue⟩ := h
  rw [hvalue]
  exact ⟨congrArg _ hname, rfl, rfl⟩

theorem ofToml_toToml (illFormed : String → String) (c : Settings) :
    Settings.ofText (ofToml illFormed) c.toToml = .ok c := by
  obtain ⟨t, htable, hentries⟩ := Toml.ofText?_written (spelled_isBare c) (spelled_distinct c)
  apply Settings.ofText_ok_iff.mpr
  refine ⟨t.entries.map fun entry => OfToml.entry c.toToml entry.1 entry.2, ?_, ?_⟩
  · rw [ofToml, Settings.toToml, htable]
  · apply describes_spelled
    rw [List.forall₂_map_left_iff]
    exact hentries.imp fun _ _ => spells_tomlEntry c.toToml

def Settings.toYaml (c : Settings) : String := String.ofList (Yaml.writtenMapping c.spelled)

theorem spells_yamlEntry (tell : Option OfYaml.Fault → String) (start : Yaml.Mark)
    {pair : Yaml.Node × Yaml.Node} {e : String × String} (h : Yaml.Spells pair e) :
    (OfYaml.entry tell start pair.1 pair.2).Spells e := by
  obtain ⟨⟨m, hname⟩, m', htext⟩ := h
  rw [hname, htext]
  exact ⟨rfl, rfl, rfl⟩

theorem ofYaml_toYaml (illFormed : String → String) (c : Settings) :
    Settings.ofText (ofYaml illFormed) c.toYaml = .ok c := by
  obtain ⟨m, pairs, hnode, hpairs⟩ := Yaml.ofText?_written c.spelled
  have hdescribes (tell : Option OfYaml.Fault → String) :
      Describes (pairs.map fun pair => OfYaml.entry tell m pair.1 pair.2) c := by
    apply describes_spelled
    rw [List.forall₂_map_left_iff]
    exact hpairs.imp fun _ _ => spells_yamlEntry tell m
  apply Settings.ofText_ok_iff.mpr
  rw [ofYaml, Settings.toYaml, hnode]
  exact ⟨_, rfl, hdescribes _⟩

def Settings.written (c : Settings) : Format → String
  | .yaml => c.toYaml
  | .toml => c.toToml

theorem ofText_written (illFormed : String → String) (c : Settings) (format : Format) :
    Settings.ofText (parser illFormed format) (c.written format) = .ok c := by
  cases format with
  | yaml => exact ofYaml_toYaml illFormed c
  | toml => exact ofToml_toToml illFormed c

/-- A configuration that was written to a file, in the format of its name, is read from it. -/
theorem ofFile_written {read : String → Except String Text.Bytes} {path : String} {c : Settings}
    (illFormed : String → String)
    (h : read path = .ok (Text.Utf8.encode (c.written (.ofPath path)))) :
    Settings.ofFile read (parser illFormed) path = .ok c := by
  have htext : Settings.readText read path = .ok (c.written (.ofPath path)) :=
    Settings.readText_ok_iff.mpr ⟨_, h, Text.Utf8.decode_encode _⟩
  rw [Settings.ofFile, htext]
  exact ofText_written illFormed c _

end EngineBridge.Config
