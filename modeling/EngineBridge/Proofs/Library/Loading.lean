import EngineBridge.Library.Workspace
import Mathlib.Data.List.Basic

/-!
Which shared objects are accepted. A library has to open, to export all required symbols and to
report the layout of this side, and the first of these things that fails is what the caller is told.
An attempt that fails leaves everything as it was.
-/

namespace EngineBridge.Abi.Layout

/-- The first field in which a layout differs from another one, as it is reported. -/
inductive FirstDifference (reported expected : Layout) : String → Prop
  | mk {label : String} {found wanted : ℕ} (before : List (String × ℕ))
      {after after' : List (String × ℕ)}
      (reports : reported.fields = before ++ (label, found) :: after)
      (expects : expected.fields = before ++ (label, wanted) :: after') (differ : found ≠ wanted) :
      FirstDifference reported expected
        (label ++ " " ++ toString found ++ " (expected " ++ toString wanted ++ ")")

theorem firstDifference_eq_some {found wanted : List (String × ℕ)} {detail : String}
    (labels : found.map (·.1) = wanted.map (·.1)) (h : firstDifference found wanted = some detail) :
    ∃ before label m n after after', found = before ++ (label, m) :: after ∧
      wanted = before ++ (label, n) :: after' ∧ m ≠ n ∧
      detail = label ++ " " ++ toString m ++ " (expected " ++ toString n ++ ")" := by
  induction found generalizing wanted with
  | nil => cases wanted <;> cases h
  | cons p found ih =>
    cases wanted with
    | nil => cases h
    | cons q wanted =>
      obtain ⟨label, m⟩ := p
      obtain ⟨label', n⟩ := q
      obtain ⟨rfl, hlabels⟩ := List.cons.inj labels
      simp only [firstDifference] at h
      split_ifs at h with hmn
      · obtain rfl := hmn
        obtain ⟨before, x, i, j, after, after', rfl, rfl, hij, hdetail⟩ := ih hlabels h
        exact ⟨(label, m) :: before, x, i, j, after, after', rfl, rfl, hij, hdetail⟩
      · exact ⟨[], label, m, n, found, wanted, rfl, rfl, hmn, (Option.some.inj h).symm⟩

theorem firstDifference_append (before : List (String × ℕ)) {label : String} {m n : ℕ}
    {after after' : List (String × ℕ)} (h : m ≠ n) :
    firstDifference (before ++ (label, m) :: after) (before ++ (label, n) :: after') =
      some (label ++ " " ++ toString m ++ " (expected " ++ toString n ++ ")") := by
  induction before with
  | nil => simp [firstDifference, h]
  | cons p before ih => simpa [firstDifference] using ih

theorem mismatch?_eq_some_iff {reported expected : Layout} {detail : String} :
    reported.mismatch? expected = some detail ↔ FirstDifference reported expected detail := by
  constructor
  · intro h
    have labels : reported.fields.map (·.1) = expected.fields.map (·.1) := rfl
    obtain ⟨before, label, m, n, after, after', hm, hn, hmn, rfl⟩ :=
      firstDifference_eq_some labels h
    exact .mk before hm hn hmn
  · rintro ⟨before, hm, hn, hmn⟩
    rw [mismatch?, hm, hn]
    exact firstDifference_append before hmn

end EngineBridge.Abi.Layout

namespace EngineBridge.Library

open Abi (Export Layout)
open Engine (Table)
open Facade (Origin)

def Function.Implements (f : Function) : Export → Prop
  | .layout => f.layout?.isSome
  | .freeString => f.freeString?.isSome
  | .free => f.release?.isSome
  | .isLwt => f.bool?.isSome
  | .count _ => f.count?.isSome
  | .fill _ => f.fill?.isSome
  | .id => f.bytes?.isSome

namespace SharedObject

variable {o : SharedObject} {e : Export}

def Declared (o : SharedObject) : Prop :=
  ∀ e f, o.symbol? e.symbol = some f → f.Implements e

def Complete (o : SharedObject) : Prop := ∀ e : Export, (o.symbol? e.symbol).isSome

structure FirstMissing (o : SharedObject) (e : Export) : Prop where
  absent : o.symbol? e.symbol = none
  first : ∃ before after, Export.required = before ++ e :: after ∧
    ∀ e' ∈ before, (o.symbol? e'.symbol).isSome

/-- Each function of a table is the one that is exported under its name. -/
structure Binds (o : SharedObject) (t : Table) : Prop where
  layout : o.symbol? Export.layout.symbol = some (.layout t.layout)
  freeString : o.symbol? Export.freeString.symbol = some (.freeString t.freeString)
  free : o.symbol? Export.free.symbol = some (.release t.free)
  isLwt : o.symbol? Export.isLwt.symbol = some (.bool t.isLwt)
  count : ∀ side, o.symbol? (Export.count side).symbol = some (.count (t.count side))
  fill : ∀ side, o.symbol? (Export.fill side).symbol = some (.fill (t.fill side))
  id : o.symbol? Export.id.symbol = some (.bytes t.id)

theorem look_eq_ok {α : Type} (as : Function → Option α) {f : Function} {a : α}
    (h : o.symbol? e.symbol = some f) (has : as f = some a) : o.look e as = .ok a := by
  rw [look, h]
  simp only [Option.bind_some, has]

theorem Binds.resolve {t : Table} (binds : o.Binds t) : o.resolve = .ok t := by
  have hcomplete : Export.required.find? (fun e => (o.symbol? e.symbol).isNone) = none := by
    rw [List.find?_eq_none]
    intro e _
    obtain ⟨hlayout, hstring, hfree, hlwt, hcount, hfill, hid⟩ := binds
    cases e <;> simp_all
  rw [SharedObject.resolve, hcomplete]
  simp only [look_eq_ok Function.layout? binds.layout rfl,
    look_eq_ok Function.freeString? binds.freeString rfl,
    look_eq_ok Function.release? binds.free rfl,
    look_eq_ok Function.bool? binds.isLwt rfl,
    look_eq_ok Function.count? (binds.count .variables) rfl,
    look_eq_ok Function.count? (binds.count .results) rfl,
    look_eq_ok Function.fill? (binds.fill .variables) rfl,
    look_eq_ok Function.fill? (binds.fill .results) rfl,
    look_eq_ok Function.bytes? binds.id rfl]
  rfl

theorem Complete.exists_export {α : Type} {as : Function → Option α} (mk : α → Function)
    (complete : o.Complete) (declared : o.Declared) (e : Export)
    (implements : ∀ f : Function, f.Implements e → (as f).isSome)
    (inverse : ∀ f a, as f = some a → f = mk a) : ∃ a, o.symbol? e.symbol = some (mk a) := by
  obtain ⟨f, hf⟩ := Option.isSome_iff_exists.mp (complete e)
  obtain ⟨a, ha⟩ := Option.isSome_iff_exists.mp (implements f (declared e f hf))
  exact ⟨a, by rw [hf, inverse f a ha]⟩

theorem Complete.exists_binds (complete : o.Complete) (declared : o.Declared) :
    ∃ t, o.Binds t := by
  obtain ⟨layout, hlayout⟩ := complete.exists_export .layout declared .layout
    (fun _ h => h) fun f a h => by cases f <;> cases h; rfl
  obtain ⟨freeString, hstring⟩ := complete.exists_export .freeString declared .freeString
    (fun _ h => h) fun f a h => by cases f <;> cases h; rfl
  obtain ⟨free, hfree⟩ := complete.exists_export .release declared .free
    (fun _ h => h) fun f a h => by cases f <;> cases h; rfl
  obtain ⟨isLwt, hlwt⟩ := complete.exists_export .bool declared .isLwt
    (fun _ h => h) fun f a h => by cases f <;> cases h; rfl
  have hcount : ∀ side, ∃ f, o.symbol? (Export.count side).symbol = some (.count f) := fun side =>
    complete.exists_export .count declared (.count side)
      (fun _ h => h) fun f a h => by cases f <;> cases h; rfl
  have hfill : ∀ side, ∃ f, o.symbol? (Export.fill side).symbol = some (.fill f) := fun side =>
    complete.exists_export .fill declared (.fill side)
      (fun _ h => h) fun f a h => by cases f <;> cases h; rfl
  obtain ⟨id, hid⟩ := complete.exists_export .bytes declared .id
    (fun _ h => h) fun f a h => by cases f <;> cases h; rfl
  choose count hcount using hcount
  choose fill hfill using hfill
  refine ⟨⟨layout, freeString, free, isLwt, count .variables, count .results, fill .variables,
    fill .results, id⟩, hlayout, hstring, hfree, hlwt, ?_, ?_, hid⟩
  · exact fun side => by cases side <;> exact hcount _
  · exact fun side => by cases side <;> exact hfill _

theorem firstMissing_iff :
    o.FirstMissing e ↔
      Export.required.find? (fun e => (o.symbol? e.symbol).isNone) = some e := by
  rw [List.find?_eq_some_iff_append]
  constructor
  · rintro ⟨absent, before, after, hrequired, first⟩
    exact ⟨by simp [absent], before, after, hrequired, fun e' he' => by simpa using first e' he'⟩
  · rintro ⟨absent, before, after, hrequired, first⟩
    exact ⟨by simpa using absent, before, after, hrequired, fun e' he' => by
      simpa using first e' he'⟩

theorem FirstMissing.resolve (missing : o.FirstMissing e) :
    o.resolve = .error (o.missing e) := by
  simp only [SharedObject.resolve, firstMissing_iff.mp missing]

theorem complete_or_missing (o : SharedObject) : o.Complete ∨ ∃ e, o.FirstMissing e := by
  cases h : Export.required.find? fun e => (o.symbol? e.symbol).isNone with
  | none =>
    refine .inl fun e => ?_
    simpa [Option.isSome_iff_ne_none] using List.find?_eq_none.mp h e e.mem_required
  | some e => exact .inr ⟨e, firstMissing_iff.mpr h⟩

def reported? (o : SharedObject) : Option Layout :=
  (o.symbol? Export.layout.symbol).bind Function.layout?

theorem Binds.reported {t : Table} (binds : o.Binds t) : o.reported? = some t.layout := by
  rw [reported?, binds.layout]
  rfl

end SharedObject

def System.Opens (system : System) (path : String) (o : SharedObject) : Prop :=
  system.openLibrary (system.key path) = .ok o

/-- Why a path is not accepted. -/
inductive System.Rejects (system : System) (path : String) : Error → Prop
  | unopened {report : String} : system.openLibrary (system.key path) = .error report →
      Rejects system path (.libraryLoad (Text.Utf8.encode (system.key path)) report)
  | missing {o : SharedObject} {e : Export} : system.Opens path o → o.FirstMissing e →
      Rejects system path (.symbolNotFound e.symbol (o.report e.symbol))
  | layout {o : SharedObject} {l : Layout} {detail : String} : system.Opens path o → o.Complete →
      o.reported? = some l → l.FirstDifference .current detail →
      Rejects system path (.marshalingMismatch Export.layout.symbol detail)

/-- The library behind a path has all symbols and reports the layout of this side. -/
structure System.Accepts (system : System) (path : String) (o : SharedObject) : Prop where
  opens : system.Opens path o
  complete : o.Complete
  layout : o.reported? = some .current

variable {system : System} {path : String} {o : SharedObject} {e : Error}

theorem System.Opens.openObject (opens : system.Opens path o) :
    Registry.openObject system (system.key path) = .ok o := by
  rw [Registry.openObject, show system.openLibrary (system.key path) = .ok o from opens]
  rfl

theorem System.rejects_or_accepts (declared : ∀ o, system.Opens path o → o.Declared) :
    (∃ e, system.Rejects path e) ∨ ∃ o, system.Accepts path o := by
  cases hopen : system.openLibrary (system.key path) with
  | error report => exact .inl ⟨_, .unopened hopen⟩
  | ok o =>
    rcases o.complete_or_missing with complete | ⟨e, missing⟩
    · obtain ⟨t, binds⟩ := complete.exists_binds (declared o hopen)
      cases h : t.layout.mismatch? .current with
      | none =>
        rw [Layout.mismatch?_eq_none_iff] at h
        exact .inr ⟨o, hopen, complete, h ▸ binds.reported⟩
      | some detail =>
        rw [Layout.mismatch?_eq_some_iff] at h
        exact .inl ⟨_, .layout hopen complete binds.reported h⟩
    · exact .inl ⟨_, .missing hopen missing⟩

namespace Registry

variable (r : Registry) (owner : Owner)

theorem loadFresh_of_rejects (declared : ∀ o, system.Opens path o → o.Declared)
    (rejects : system.Rejects path e) :
    r.loadFresh system (system.key path) owner = r.refuse e := by
  cases rejects with
  | unopened h =>
    simp only [loadFresh, openObject, h, Except.mapError, Bind.bind, Except.bind]
  | missing opens missing =>
    simp only [loadFresh, opens.openObject, Bind.bind, Except.bind, missing.resolve]
    rfl
  | layout opens complete reported difference =>
    obtain ⟨t, binds⟩ := complete.exists_binds (declared _ opens)
    obtain rfl := Option.some.inj (binds.reported.symm.trans reported)
    have hmismatch := Layout.mismatch?_eq_some_iff.mpr difference
    simp only [loadFresh, opens.openObject, Bind.bind, Except.bind, binds.resolve, Library.bind,
      hmismatch]

def register (r : Registry) (key : String) (t : Table) (owner : Owner) : Registry :=
  { (r.create ⟨.dynamic key, t⟩ owner).2 with
    loaded := (r.loaded.filter fun (_, id) => r.isAlive id) ++ [(key, r.instances.length)] }

theorem loadFresh_of_accepts (declared : ∀ o, system.Opens path o → o.Declared)
    (accepts : system.Accepts path o) :
    ∃ t, o.Binds t ∧ r.loadFresh system (system.key path) owner =
      ⟨.ok r.instances.length, r.register (system.key path) t owner,
        [boundEvent (.dynamic (system.key path)) .current,
          libraryEvent .info "loaded native engine" (system.key path)]⟩ := by
  obtain ⟨opens, complete, layout⟩ := accepts
  obtain ⟨t, binds⟩ := complete.exists_binds (declared o opens)
  have hlayout : t.layout = .current := Option.some.inj (binds.reported.symm.trans layout)
  have hmatch : Layout.mismatch? .current .current = none := Layout.mismatch?_eq_none_iff.mpr rfl
  refine ⟨t, binds, ?_⟩
  simp only [loadFresh, opens.openObject, Bind.bind, Except.bind, binds.resolve, Library.bind,
    hlayout, hmatch]
  rfl

theorem load_of_absent
    (absent : ∀ id, (system.key path, id) ∈ r.loaded → r.isAlive id = false) :
    r.load system path owner = r.loadFresh system (system.key path) owner := by
  have hnone : (r.loaded.find? fun (k, id) => k == system.key path && r.isAlive id) = none := by
    rw [List.find?_eq_none]
    rintro ⟨k, id⟩ hmem hk
    simp only [Bool.and_eq_true, beq_iff_eq] at hk
    obtain ⟨rfl, halive⟩ := hk
    simp [absent id hmem] at halive
  simp only [load, hnone]

end Registry

theorem Registry.load_cases {r : Registry} (owner : Owner)
    (absent : ∀ id, (system.key path, id) ∈ r.loaded → r.isAlive id = false)
    (declared : ∀ o, system.Opens path o → o.Declared) :
    (∃ e, system.Rejects path e ∧ r.load system path owner = r.refuse e) ∨
      ∃ o t, system.Accepts path o ∧ o.Binds t ∧ r.load system path owner =
        ⟨.ok r.instances.length, r.register (system.key path) t owner,
          [boundEvent (.dynamic (system.key path)) .current,
            libraryEvent .info "loaded native engine" (system.key path)]⟩ := by
  rw [load_of_absent r owner absent]
  rcases System.rejects_or_accepts declared with ⟨e, rejects⟩ | ⟨o, accepts⟩
  · exact .inl ⟨e, rejects, loadFresh_of_rejects r owner declared rejects⟩
  · obtain ⟨t, binds, hload⟩ := loadFresh_of_accepts r owner declared accepts
    exact .inr ⟨o, t, accepts, binds, hload⟩

theorem Registry.load_of_rejects {r : Registry} {e : Error} (owner : Owner)
    (absent : ∀ id, (system.key path, id) ∈ r.loaded → r.isAlive id = false)
    (declared : ∀ o, system.Opens path o → o.Declared) (rejects : system.Rejects path e) :
    r.load system path owner = r.refuse e := by
  rw [load_of_absent r owner absent, loadFresh_of_rejects r owner declared rejects]

theorem Registry.load_of_error {r : Registry} {e : Error} (owner : Owner)
    (absent : ∀ id, (system.key path, id) ∈ r.loaded → r.isAlive id = false)
    (declared : ∀ o, system.Opens path o → o.Declared)
    (he : (r.load system path owner).result = .error e) :
    system.Rejects path e ∧ r.load system path owner = r.refuse e := by
  rcases load_cases owner absent declared with ⟨e', rejects, hload⟩ | ⟨o, t, -, -, hload⟩
  · rw [hload] at he
    cases he
    exact ⟨rejects, hload⟩
  · rw [hload] at he
    cases he

def undefinedSymbol (name : String) : String := "undefined symbol: " ++ name

def noSuchLibrary (key : String) : String :=
  key ++ ": cannot open shared object file: No such file or directory"

def System.bare : System := ⟨fun _ => none, fun key => .error (noSuchLibrary key)⟩

def aliased (o : SharedObject) : System where
  canonicalize path :=
    if path ∈ ["lib.so", "/opt/engines/cql.so"] then some "/opt/engines/cql.so" else none
  openLibrary key :=
    if key = "/opt/engines/cql.so" then .ok o else .error (noSuchLibrary key)

end EngineBridge.Library
