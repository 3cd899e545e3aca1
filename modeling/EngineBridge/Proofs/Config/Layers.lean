import EngineBridge.Config.Settings
import EngineBridge.Proofs.Library.Sharing
import Mathlib.Data.List.Induction
import Mathlib.Data.List.TakeWhile

/-!
Layers of overrides. To lay one lookup over another and then override with both at once is to
override with one after the other, so a stack of layers has the same effect however its layers are
grouped. Each setting is decided by its own variable alone: by the topmost layer that sets it to
something which is not blank, or by the base where no layer does.
-/

namespace EngineBridge

namespace Text

theorem all_dropWhile_isBlankChar (cs : List Char) :
    (cs.dropWhile isBlankChar).all isBlankChar = cs.all isBlankChar := by
  have htake : (cs.takeWhile isBlankChar).all isBlankChar := List.all_takeWhile
  calc (cs.dropWhile isBlankChar).all isBlankChar
      = (cs.takeWhile isBlankChar ++ cs.dropWhile isBlankChar).all isBlankChar := by
        rw [List.all_append, htake, Bool.true_and]
    _ = cs.all isBlankChar := by rw [List.takeWhile_append_dropWhile]

theorem isBlank_iff_trim {s : String} : isBlank s ↔ trim s.toList = [] := by
  rw [trim, List.reverse_eq_nil_iff, List.dropWhile_eq_nil_iff, ← List.all_eq_true,
    List.all_reverse, all_dropWhile_isBlankChar, isBlank]

end Text

namespace Config

namespace Lookup

variable {upper middle lower l : Lookup} {layers : List Lookup} {name v : String}

/-- One layer over another: where its value is blank or missing, the lower one is asked. -/
def atop (upper lower : Lookup) : Lookup := fun name =>
  match upper name with
  | some v => if Text.trim v.toList = [] then lower name else some v
  | none => lower name

theorem value?_eq_some_iff :
    l.value? name = some v ↔ l name = some v ∧ Text.trim v.toList ≠ [] := by
  simp [value?, Option.filter_eq_some_iff, ← Text.isBlank_iff_trim]

theorem value?_eq_none_iff :
    l.value? name = none ↔ ∀ v, l name = some v → Text.trim v.toList = [] := by
  simp [value?, Option.filter_eq_none_iff, ← Text.isBlank_iff_trim]

theorem atop_apply (upper lower : Lookup) (name : String) :
    upper.atop lower name = (upper.value? name).or (lower name) := by
  unfold atop
  split
  next v hv =>
    split_ifs with hblank
    · rw [value?_eq_none_iff.mpr fun v' hv' => ?_, Option.none_or]
      rw [hv] at hv'
      cases hv'
      exact hblank
    · rw [value?_eq_some_iff.mpr ⟨hv, hblank⟩, Option.some_or]
  next hnone => rw [value?, hnone, Option.filter_none, Option.none_or]

theorem value?_atop :
    (upper.atop lower).value? name = (upper.value? name).or (lower.value? name) := by
  cases h : upper.value? name with
  | none => rw [value?, atop_apply, h, Option.none_or, Option.none_or, value?]
  | some v =>
    refine value?_eq_some_iff.mpr ⟨?_, (value?_eq_some_iff.mp h).2⟩
    rw [atop_apply, h, Option.some_or]

theorem atop_assoc : (upper.atop middle).atop lower = upper.atop (middle.atop lower) := by
  funext name
  rw [atop_apply, value?_atop, Option.or_assoc, atop_apply, atop_apply]

def stack (layers : List Lookup) : Lookup :=
  layers.foldl (fun lower upper => upper.atop lower) fun _ => none

theorem stack_concat : stack (layers ++ [l]) = l.atop (stack layers) := by
  rw [stack, List.foldl_append, List.foldl_cons, List.foldl_nil, stack]

/-- In a stack of layers this value is the topmost one of a variable that is not blank. -/
def Decides (layers : List Lookup) (name v : String) : Prop :=
  ∃ below l above, layers = below ++ l :: above ∧ l name = some v ∧ Text.trim v.toList ≠ [] ∧
    ∀ l' ∈ above, ∀ v', l' name = some v' → Text.trim v'.toList = []

def Silent (layers : List Lookup) (name : String) : Prop :=
  ∀ l ∈ layers, ∀ v, l name = some v → Text.trim v.toList = []

theorem value?_stack_eq_none_iff : (stack layers).value? name = none ↔ Silent layers name := by
  induction layers using List.reverseRecOn with
  | nil => exact iff_of_true rfl nofun
  | append_singleton layers l ih =>
    simp only [stack_concat, value?_atop, Option.or_eq_none_iff, ih, value?_eq_none_iff, Silent,
      List.forall_mem_append, List.forall_mem_singleton]
    exact and_comm

theorem decides_concat : Decides (layers ++ [l]) name v ↔
    l name = some v ∧ Text.trim v.toList ≠ [] ∨ Silent [l] name ∧ Decides layers name v := by
  constructor
  · rintro ⟨below, l', above, hlayers, hset, hfull, hsilent⟩
    cases above using List.reverseRecOn with
    | nil =>
      obtain ⟨-, rfl⟩ := List.append_singleton_inj.mp hlayers
      exact .inl ⟨hset, hfull⟩
    | append_singleton above last =>
      rw [← List.cons_append, ← List.append_assoc] at hlayers
      obtain ⟨rfl, rfl⟩ := List.append_singleton_inj.mp hlayers
      rw [List.forall_mem_append] at hsilent
      exact .inr ⟨hsilent.2, below, l', above, rfl, hset, hfull, hsilent.1⟩
  · rintro (⟨hset, hfull⟩ | ⟨hl, below, l', above, rfl, hset, hfull, hsilent⟩)
    · exact ⟨layers, l, [], rfl, hset, hfull, nofun⟩
    · refine ⟨below, l', above ++ [l], by simp, hset, hfull, ?_⟩
      exact List.forall_mem_append.mpr ⟨hsilent, hl⟩

theorem value?_stack_eq_some_iff : (stack layers).value? name = some v ↔ Decides layers name v := by
  induction layers using List.reverseRecOn with
  | nil => exact iff_of_false nofun fun ⟨below, l, above, h, _⟩ => by simp at h
  | append_singleton layers l ih =>
    rw [stack_concat, value?_atop, Option.or_eq_some_iff, decides_concat, ih, value?_eq_some_iff,
      value?_eq_none_iff, Silent, List.forall_mem_singleton]

theorem silent_or_decides (layers : List Lookup) (name : String) :
    Silent layers name ∨ ∃ v, Decides layers name v := by
  cases h : (stack layers).value? name with
  | none => exact .inl (value?_stack_eq_none_iff.mp h)
  | some v => exact .inr ⟨v, value?_stack_eq_some_iff.mp h⟩

theorem value?_stack (layers : List Lookup) (name : String) :
    (stack layers).value? name = (layers.map (· name)).foldl
      (fun lower upper => (upper.filter fun v => !Text.isBlank v).or lower) none := by
  induction layers using List.reverseRecOn with
  | nil => rfl
  | append_singleton layers l ih =>
    rw [stack_concat, value?_atop, ih, List.map_append, List.foldl_append, List.map_singleton,
      List.foldl_cons, List.foldl_nil, value?]

end Lookup

namespace Settings

variable {upper lower : Lookup} {c : Settings} {layers : List Lookup} {name v : String}

theorem overriddenBy_atop :
    (c.overriddenBy lower).overriddenBy upper = c.overriddenBy (upper.atop lower) := by
  simp only [overriddenBy, Lookup.value?_atop, Option.or_assoc, Option.getD_or]

theorem foldl_overriddenBy (c : Settings) (layers : List Lookup) :
    layers.foldl overriddenBy c = c.overriddenBy (.stack layers) := by
  induction layers using List.reverseRecOn with
  | nil => rfl
  | append_singleton layers l ih =>
    rw [List.foldl_append, ih, List.foldl_cons, List.foldl_nil, overriddenBy_atop,
      Lookup.stack_concat]

theorem foldl_overriddenBy_groups (c : Settings) (groups : List (List Lookup)) :
    groups.foldl (fun c layers => c.overriddenBy (.stack layers)) c =
      groups.flatten.foldl overriddenBy c := by
  rw [List.foldl_flatten]
  congr 1
  funext c layers
  exact (foldl_overriddenBy c layers).symm

theorem foldl_overriddenBy_idem (c : Settings) (layers : List Lookup) :
    layers.foldl overriddenBy (layers.foldl overriddenBy c) = layers.foldl overriddenBy c := by
  simp [foldl_overriddenBy, overriddenBy, Option.or_self, ← Option.or_assoc, ← Option.getD_or]

theorem nativeLibrary_foldl (c : Settings) (layers : List Lookup) :
    (layers.foldl overriddenBy c).nativeLibrary =
      ((Lookup.stack layers).value? libraryVariable).or c.nativeLibrary := by
  rw [foldl_overriddenBy, overriddenBy]

theorem logFilter_foldl (c : Settings) (layers : List Lookup) :
    (layers.foldl overriddenBy c).logFilter =
      ((Lookup.stack layers).value? filterVariable).getD c.logFilter := by
  rw [foldl_overriddenBy, overriddenBy]

theorem nativeLibrary_of_decides (decides : Lookup.Decides layers libraryVariable v) :
    (layers.foldl overriddenBy c).nativeLibrary = some v := by
  rw [nativeLibrary_foldl, Lookup.value?_stack_eq_some_iff.mpr decides, Option.some_or]

theorem nativeLibrary_of_silent (silent : Lookup.Silent layers libraryVariable) :
    (layers.foldl overriddenBy c).nativeLibrary = c.nativeLibrary := by
  rw [nativeLibrary_foldl, Lookup.value?_stack_eq_none_iff.mpr silent, Option.none_or]

theorem logFilter_of_decides (decides : Lookup.Decides layers filterVariable v) :
    (layers.foldl overriddenBy c).logFilter = v := by
  rw [logFilter_foldl, Lookup.value?_stack_eq_some_iff.mpr decides, Option.getD_some]

theorem logFilter_of_silent (silent : Lookup.Silent layers filterVariable) :
    (layers.foldl overriddenBy c).logFilter = c.logFilter := by
  rw [logFilter_foldl, Lookup.value?_stack_eq_none_iff.mpr silent, Option.getD_none]

theorem nativeLibrary_eq_none_iff : (layers.foldl overriddenBy c).nativeLibrary = none ↔
    Lookup.Silent layers libraryVariable ∧ c.nativeLibrary = none := by
  rw [nativeLibrary_foldl, Option.or_eq_none_iff, Lookup.value?_stack_eq_none_iff]

end Settings

open Engine (Table)
open Library (System Workspace)
open Library.Workspace (after)
open Lookup (Decides Silent)

section

variable {system : System} {linkedTable : Table} {w : Workspace} {c : Settings}

theorem ask_settings_of_some {path : String} (h : c.nativeLibrary = some path) :
    w.ask system linkedTable (.settings c) = w.ask system linkedTable (.load path) := by
  simp only [Workspace.ask, Library.Registry.fromSettings, h]

theorem ask_settings_of_none (h : c.nativeLibrary = none) :
    w.ask system linkedTable (.settings c) = w.ask system linkedTable .linked := by
  simp only [Workspace.ask, Library.Registry.fromSettings, h]

theorem origin?_settings_eq_linked_iff (sound : w.registry.Sound) {id : Library.InstanceId}
    (h : (w.ask system linkedTable (.settings c)).result = .ok id) :
    (w.ask system linkedTable (.settings c)).registry.origin? id = some .linked ↔
      c.nativeLibrary = none := by
  have serves := Workspace.serves_ask system linkedTable sound (.settings c)
  rw [serves.origin? h, Library.Request.origin]
  cases c.nativeLibrary <;> simp

end

/-- Overriding with a stack of layers is overriding with one layer: with two of them it is the
upper one over the lower one, and neither doing it again nor grouping the layers makes a difference.
In each field the topmost layer that sets its variable to something not blank wins with that very
value, whatever the base and the default are, and where no layer does the base stays. So a field
depends on its own variable and its own base alone. The merged settings lead to the library that is
named so, and to the linked engine exactly when none is. -/
theorem overriddenBy_layers (system : System) (linkedTable : Table) (c : Settings)
    (layers : List Lookup) :
    let merged := layers.foldl Settings.overriddenBy c
    (∀ lower upper : Lookup,
        (c.overriddenBy lower).overriddenBy upper = c.overriddenBy (upper.atop lower)) ∧
      layers.foldl Settings.overriddenBy merged = merged ∧
      (∀ upper middle lower : Lookup,
        (upper.atop middle).atop lower = upper.atop (middle.atop lower)) ∧
      (∀ groups : List (List Lookup), groups.flatten = layers →
        groups.foldl (fun c group => c.overriddenBy (.stack group)) c = merged) ∧
      (∀ name, Silent layers name ∨ ∃ v, Decides layers name v) ∧
      (∀ v, Decides layers libraryVariable v → merged.nativeLibrary = some v) ∧
      (Silent layers libraryVariable → merged.nativeLibrary = c.nativeLibrary) ∧
      (∀ v, Decides layers filterVariable v → merged.logFilter = v) ∧
      (Silent layers filterVariable → merged.logFilter = c.logFilter) ∧
      (∀ (c' : Settings) (layers' : List Lookup), c'.nativeLibrary = c.nativeLibrary →
        layers'.map (· libraryVariable) = layers.map (· libraryVariable) →
        (layers'.foldl Settings.overriddenBy c').nativeLibrary = merged.nativeLibrary) ∧
      (∀ (c' : Settings) (layers' : List Lookup), c'.logFilter = c.logFilter →
        layers'.map (· filterVariable) = layers.map (· filterVariable) →
        (layers'.foldl Settings.overriddenBy c').logFilter = merged.logFilter) ∧
      ∀ past, let w := after system linkedTable past
        (∀ path, Decides layers libraryVariable path ∨
            Silent layers libraryVariable ∧ c.nativeLibrary = some path →
          w.ask system linkedTable (.settings merged) = w.ask system linkedTable (.load path)) ∧
        (Silent layers libraryVariable ∧ c.nativeLibrary = none →
          w.ask system linkedTable (.settings merged) = w.ask system linkedTable .linked) ∧
        ∀ id, (w.ask system linkedTable (.settings merged)).result = .ok id →
          ((w.ask system linkedTable (.settings merged)).registry.origin? id = some .linked ↔
            Silent layers libraryVariable ∧ c.nativeLibrary = none) := by
  intro merged
  refine ⟨fun lower upper => Settings.overriddenBy_atop, Settings.foldl_overriddenBy_idem c layers,
    fun upper middle lower => Lookup.atop_assoc, ?_, Lookup.silent_or_decides layers,
    fun v => Settings.nativeLibrary_of_decides, Settings.nativeLibrary_of_silent,
    fun v => Settings.logFilter_of_decides, Settings.logFilter_of_silent, ?_, ?_, ?_⟩
  · rintro groups rfl
    exact Settings.foldl_overriddenBy_groups c groups
  · intro c' layers' base same
    simp only [merged, Settings.nativeLibrary_foldl, Lookup.value?_stack, base, same]
  · intro c' layers' base same
    simp only [merged, Settings.logFilter_foldl, Lookup.value?_stack, base, same]
  · intro past w
    have sound : w.registry.Sound := (Library.Workspace.accounted_after past).sound
    refine ⟨?_, fun h => ask_settings_of_none (Settings.nativeLibrary_eq_none_iff.mpr h), ?_⟩
    · rintro path (decides | ⟨silent, hpath⟩)
      · exact ask_settings_of_some (Settings.nativeLibrary_of_decides decides)
      · exact ask_settings_of_some ((Settings.nativeLibrary_of_silent silent).trans hpath)
    · intro id hid
      rw [← Settings.nativeLibrary_eq_none_iff]
      exact origin?_settings_eq_linked_iff sound hid

def naming : Lookup := fun name =>
  if name = libraryVariable then some " lib.so" else some Settings.default.logFilter

def blank : Lookup := fun _ => some "\u00a0\t"

theorem silent_blank (name : String) : Silent [blank] name := by
  rintro l hl v hv
  rw [List.mem_singleton.mp hl] at hv
  cases hv
  decide +kernel

theorem decides_naming_blank :
    Decides [naming, blank] libraryVariable " lib.so" ∧
      Decides [naming, blank] filterVariable "warn" :=
  ⟨⟨[], naming, [blank], rfl, by decide +kernel, by decide +kernel, silent_blank _⟩,
    ⟨[], naming, [blank], rfl, by decide +kernel, by decide +kernel, silent_blank _⟩⟩

/-- White space on top takes nothing away, the default filter wins over another base, and nothing
but white space leaves the linked engine. -/
theorem overriddenBy_layers_naming_blank :
    let base : Settings := ⟨some "base.so", "info"⟩
    let table := Engine.Script.silent.table
    (base.overriddenBy naming).overriddenBy blank = ⟨some " lib.so", "warn"⟩ ∧
      base.overriddenBy (.stack [naming, blank]) = ⟨some " lib.so", "warn"⟩ ∧
      (base.overriddenBy blank).nativeLibrary = some "base.so" ∧
      Workspace.empty.ask .bare table
          (.settings ((base.overriddenBy naming).overriddenBy blank)) =
        Workspace.empty.ask .bare table (.load " lib.so") ∧
      (Workspace.empty.ask .bare table
        (.settings (Settings.default.overriddenBy blank))).registry.origin? 0 = some .linked := by
  intro base table
  obtain ⟨-, -, -, groups, -, path, -, filter, -, -, -, asked⟩ :=
    overriddenBy_layers .bare table base [naming, blank]
  obtain ⟨-, -, -, -, -, -, kept, -⟩ := overriddenBy_layers .bare table base [blank]
  obtain ⟨-, -, -, -, -, -, -, -, -, -, -, bare⟩ :=
    overriddenBy_layers .bare table .default [blank]
  obtain ⟨named, filtered⟩ := decides_naming_blank
  have hmerged : (base.overriddenBy naming).overriddenBy blank = ⟨some " lib.so", "warn"⟩ :=
    congrArg₂ Settings.mk (path _ named) (filter _ filtered)
  obtain ⟨-, links, linked⟩ := bare []
  have hneither : Silent [blank] libraryVariable ∧ Settings.default.nativeLibrary = none :=
    ⟨silent_blank _, rfl⟩
  have hresult : (Workspace.empty.ask .bare table
      (.settings (Settings.default.overriddenBy blank))).result = .ok 0 :=
    congrArg Library.Asked.result (links hneither)
  exact ⟨hmerged, (groups [[naming, blank]] rfl).trans hmerged, kept (silent_blank _),
    (asked []).1 _ (.inl named), (linked 0 hresult).mpr hneither⟩

end Config

end EngineBridge
