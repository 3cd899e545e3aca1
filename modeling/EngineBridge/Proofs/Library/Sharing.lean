import EngineBridge.Proofs.Library.Entries

/-!
How instances are shared. An instance lives as long as a handle or a statement on it remains.
Through every order of requests and drops the registry knows each live instance by its origin, so
that no origin has two of them at a time.
-/

namespace EngineBridge.Library

open Abi (Export Handle)
open Engine (Table)
open Facade (Context Origin Session)

def Request.origin (system : System) : Request → Origin
  | .load path => .dynamic (system.key path)
  | .settings c => match c.nativeLibrary with
    | some path => .dynamic (system.key path)
    | none => .linked
  | .linked => .linked
  | .custom _ => .custom

def Request.path? : Request → Option String
  | .load path => some path
  | .settings c => c.nativeLibrary
  | .linked | .custom _ => none

/-- Why a request is refused that no live instance can meet. A table is refused for its layout
alone, a path for one of the reasons that a path has. -/
inductive Request.Refused (system : System) (linkedTable : Table) : Request → Error → Prop
  | custom {t : Table} {detail : String} : t.layout.FirstDifference .current detail →
      Refused system linkedTable (.custom t) (.marshalingMismatch Export.layout.symbol detail)
  | linked {detail : String} : linkedTable.layout.FirstDifference .current detail →
      Refused system linkedTable .linked (.marshalingMismatch Export.layout.symbol detail)
  | load {path : String} {e : Error} : system.Rejects path e →
      Refused system linkedTable (.load path) e
  | named {c : Config.Settings} {path : String} {e : Error} : c.nativeLibrary = some path →
      system.Rejects path e → Refused system linkedTable (.settings c) e
  | unnamed {c : Config.Settings} {detail : String} : c.nativeLibrary = none →
      linkedTable.layout.FirstDifference .current detail →
      Refused system linkedTable (.settings c) (.marshalingMismatch Export.layout.symbol detail)

inductive Deed
  | obtain (request : Request)
  | clone (slot : ℕ)
  | dropSlot (slot : ℕ)
  | adopt (slot : ℕ) (handle : Handle)
  | dispose (n : ℕ)
  | dropStatement (n : ℕ)

def Deed.dropped? : Deed → Option Owner
  | .dropSlot slot => some (.handle slot)
  | .dropStatement n => some (.statement n)
  | _ => none

namespace Workspace

section Running

variable (system : System) (linkedTable : Table)

def act (w : Workspace) : Deed → Workspace
  | .obtain request => (w.obtain system linkedTable request).2
  | .clone slot => (w.clone slot).getD w
  | .dropSlot slot => w.dropSlot slot
  | .adopt slot handle => ((w.adopt slot handle).map (·.2)).getD w
  | .dispose n => (w.dispose n).getD w
  | .dropStatement n => (w.dropStatement n).getD w

/-- The workspace after the deeds of the past, the latest of which comes first. -/
def after : List Deed → Workspace
  | [] => .empty
  | deed :: past => (after past).act system linkedTable deed

/-- The handles and statements that remain, each with the instance it was made for: those that came
out of a request, from another handle or by being opened on one, and were not dropped since. -/
inductive Remains : List Deed → Owner → InstanceId → Prop
  | obtained {past : List Deed} {request : Request} {id : InstanceId} :
      ((after system linkedTable past).ask system linkedTable request).result = .ok id →
      Remains (.obtain request :: past) (.handle (after system linkedTable past).slots) id
  | cloned {past : List Deed} {slot : ℕ} {id : InstanceId} : Remains past (.handle slot) id →
      Remains (.clone slot :: past) (.handle (after system linkedTable past).slots) id
  | opened {past : List Deed} {slot n : ℕ} {handle : Handle} {id : InstanceId} {w : Workspace} :
      Remains past (.handle slot) id →
      (after system linkedTable past).adopt slot handle = some (.ok n, w) →
      Remains (.adopt slot handle :: past) (.statement n) id
  | kept {past : List Deed} {deed : Deed} {owner : Owner} {id : InstanceId} :
      Remains past owner id → deed.dropped? ≠ some owner → Remains (deed :: past) owner id

end Running

variable {system : System} {linkedTable : Table} {w w' : Workspace} {past : List Deed}
  {deed : Deed} {owner o : Owner} {id : InstanceId}

def Issued (w : Workspace) : Owner → Prop
  | .handle n => n < w.slots
  | .statement n => n < w.statements.length

theorem Issued.mono (slots : w.slots ≤ w'.slots)
    (statements : w.statements.length ≤ w'.statements.length) (h : w.Issued o) : w'.Issued o := by
  cases o with
  | handle n => exact Nat.lt_of_lt_of_le h slots
  | statement n => exact Nat.lt_of_lt_of_le h statements

def Gains (system : System) (linkedTable : Table) (w : Workspace) (deed : Deed)
    (owner : Owner) (id : InstanceId) : Prop :=
  match deed with
  | .obtain request =>
    owner = .handle w.slots ∧ (w.ask system linkedTable request).result = .ok id
  | .clone slot => owner = .handle w.slots ∧ w.registry.heldBy? (.handle slot) = some id
  | .adopt slot handle => w.registry.heldBy? (.handle slot) = some id ∧
      ∃ n w', owner = .statement n ∧ w.adopt slot handle = some (.ok n, w')
  | _ => False

theorem Gains.unique {id' : InstanceId} (h : w.Gains system linkedTable deed o id)
    (h' : w.Gains system linkedTable deed o id') : id = id' := by
  cases deed with
  | obtain request => exact Except.ok.inj (h.2.symm.trans h'.2)
  | clone slot => exact Option.some.inj (h.2.symm.trans h'.2)
  | adopt slot handle => exact Option.some.inj (h.1.symm.trans h'.1)
  | _ => cases h

/-- What one deed does to who holds what. -/
structure Effect (system : System) (linkedTable : Table) (w : Workspace) (deed : Deed)
    (w' : Workspace) : Prop where
  sound : w'.registry.Sound
  owners : ∀ {o id}, (o, id) ∈ w'.registry.owners ↔
    (o, id) ∈ w.registry.owners ∧ deed.dropped? ≠ some o ∨ w.Gains system linkedTable deed o id
  slots : w.slots ≤ w'.slots
  statements : w.statements.length ≤ w'.statements.length
  new : ∀ {o id}, w.Gains system linkedTable deed o id → ¬w.Issued o ∧ w'.Issued o
  origins : ∀ {id origin}, w.registry.origin? id = some origin →
    w'.registry.origin? id = some origin

theorem Effect.of_idle (sound : w.registry.Sound)
    (idle : ∀ {o id}, (o, id) ∈ w.registry.owners → deed.dropped? ≠ some o)
    (nothing : ∀ {o id}, ¬w.Gains system linkedTable deed o id)
    (registry : w'.registry = w.registry) (slots : w'.slots = w.slots)
    (statements : w'.statements.length = w.statements.length) :
    Effect system linkedTable w deed w' where
  sound := registry ▸ sound
  owners := by
    intro o id
    rw [registry]
    exact ⟨fun h => .inl ⟨h, idle h⟩, fun h => (h.resolve_right nothing).1⟩
  slots := Nat.le_of_eq slots.symm
  statements := Nat.le_of_eq statements.symm
  new h := absurd h nothing
  origins := by
    intro id origin h
    rw [registry, h]

theorem onStatement_cases {α : Type} (w : Workspace) (n : ℕ)
    (op : Context → Session → α × Session) :
    w.onStatement n op = none ∧ w.statements.length ≤ n ∨
      ∃ a w', w.onStatement n op = some (a, w') ∧ w'.registry = w.registry ∧ w'.slots = w.slots ∧
        w'.statements.length = w.statements.length := by
  cases h : w.statements[n]? with
  | none =>
    refine .inl ⟨?_, List.getElem?_eq_none_iff.mp h⟩
    simp [onStatement, h]
  | some a =>
    refine .inr ?_
    rw [onStatement, h]
    exact ⟨_, _, rfl, rfl, rfl, List.length_set ..⟩

theorem obtain_of_ok {request : Request} (h : (w.ask system linkedTable request).result = .ok id) :
    (w.obtain system linkedTable request).2 =
      { w with
        registry := (w.ask system linkedTable request).registry
        slots := w.slots + 1
        events := w.events ++ (w.ask system linkedTable request).events } := by
  simp only [Workspace.obtain, h]

theorem obtain_of_error {request : Request} {e : Error}
    (h : (w.ask system linkedTable request).result = .error e) :
    (w.obtain system linkedTable request).2 =
      { w with
        registry := (w.ask system linkedTable request).registry
        events := w.events ++ (w.ask system linkedTable request).events } := by
  simp only [Workspace.obtain, h]

theorem clone_of_held {slot : ℕ} (h : w.registry.heldBy? (.handle slot) = some id) :
    w.clone slot =
      some { w with registry := w.registry.hold (.handle w.slots) id, slots := w.slots + 1 } := by
  simp [Workspace.clone, h]

theorem clone_of_free {slot : ℕ} (h : w.registry.heldBy? (.handle slot) = none) :
    w.clone slot = none := by
  simp [Workspace.clone, h]

theorem adopt_of_held {slot : ℕ} (handle : Handle) {i : Instance}
    (held : w.registry.heldBy? (.handle slot) = some id) (known : w.registry.instance? id = some i)
    (valid : ¬handle.isNull) :
    ∃ w', w.adopt slot handle = some (.ok w.statements.length, w') ∧
      w'.registry = w.registry.hold (.statement w.statements.length) id ∧ w'.slots = w.slots ∧
      w'.statements.length = w.statements.length + 1 := by
  simp only [Workspace.adopt, held, known, Option.bind_eq_bind, Option.bind_some, Facade.adopt,
    if_neg valid]
  exact ⟨_, rfl, rfl, rfl, List.length_append⟩

theorem adopt_cases (w : Workspace) (slot : ℕ) (handle : Handle) :
    (∀ n w', w.adopt slot handle ≠ some (.ok n, w')) ∧
        ((w.adopt slot handle).map (·.2)).getD w = w ∨
      ∃ id w', w.registry.heldBy? (.handle slot) = some id ∧
        w.adopt slot handle = some (.ok w.statements.length, w') ∧
        w'.registry = w.registry.hold (.statement w.statements.length) id ∧ w'.slots = w.slots ∧
        w'.statements.length = w.statements.length + 1 := by
  cases hheld : w.registry.heldBy? (.handle slot) with
  | none => exact .inl (by simp [Workspace.adopt, hheld])
  | some id =>
    cases hinstance : w.registry.instance? id with
    | none => exact .inl (by simp [Workspace.adopt, hheld, hinstance])
    | some i =>
      by_cases hnull : handle.isNull
      · exact .inl (by simp [Workspace.adopt, hheld, hinstance, Facade.adopt, hnull])
      · obtain ⟨w', h⟩ := adopt_of_held handle hheld hinstance hnull
        exact .inr ⟨id, w', rfl, h⟩

theorem serves_ask (system : System) (linkedTable : Table) (sound : w.registry.Sound)
    (request : Request) :
    w.registry.Serves (.handle w.slots) (request.origin system)
      (w.ask system linkedTable request) := by
  cases request with
  | load path => exact sound.serves_load
  | settings c =>
    simp only [ask, Registry.fromSettings, Request.origin]
    cases c.nativeLibrary with
    | some path => exact sound.serves_load
    | none => exact sound.serves_link
  | linked => exact sound.serves_link
  | custom table => exact Registry.serves_custom

theorem obtain_effect (sound : w.registry.Sound) (request : Request) :
    Effect system linkedTable w (.obtain request) (w.obtain system linkedTable request).2 := by
  have serves := serves_ask system linkedTable sound request
  cases hresult : (w.ask system linkedTable request).result with
  | error e =>
    rw [obtain_of_error hresult]
    refine .of_idle sound (fun _ => nofun) ?_ (congrArg Asked.registry (serves.refuse hresult))
      rfl rfl
    rintro o id ⟨-, h⟩
    rw [hresult] at h
    cases h
  | ok id =>
    rw [obtain_of_ok hresult]
    refine ⟨sound.served serves, ?_, Nat.le_succ _, Nat.le_refl _, ?_, serves.origin?_of_some⟩
    · intro o id'
      simp [serves.owners hresult, Gains, hresult, Deed.dropped?, @eq_comm _ id]
    · rintro o id' ⟨rfl, -⟩
      exact ⟨Nat.lt_irrefl _, Nat.lt_succ_self _⟩

theorem clone_effect (sound : w.registry.Sound) (slot : ℕ) :
    Effect system linkedTable w (.clone slot) ((w.clone slot).getD w) := by
  cases hheld : w.registry.heldBy? (.handle slot) with
  | none =>
    rw [clone_of_free hheld]
    refine .of_idle sound (fun _ => nofun) ?_ rfl rfl rfl
    rintro o id ⟨-, h⟩
    rw [hheld] at h
    cases h
  | some id =>
    rw [clone_of_held hheld]
    refine ⟨sound.hold (Registry.isAlive_of_heldBy? hheld), ?_, Nat.le_succ _, Nat.le_refl _, ?_,
      fun h => h⟩
    · intro o id'
      simp [Registry.hold, Gains, hheld, Deed.dropped?, @eq_comm _ id]
    · rintro o id' ⟨rfl, -⟩
      exact ⟨Nat.lt_irrefl _, Nat.lt_succ_self _⟩

theorem dropSlot_effect (sound : w.registry.Sound) (slot : ℕ) :
    Effect system linkedTable w (.dropSlot slot) (w.dropSlot slot) := by
  refine ⟨sound.letGo, ?_, Nat.le_refl _, Nat.le_refl _, nofun, fun h => h⟩
  intro o id
  rw [dropSlot, Registry.mem_owners_letGo]
  exact (or_iff_left not_false).symm

theorem adopt_effect (sound : w.registry.Sound) (slot : ℕ) (handle : Handle) :
    Effect system linkedTable w (.adopt slot handle)
      (((w.adopt slot handle).map (·.2)).getD w) := by
  obtain ⟨hnone, hidle⟩ | ⟨id, w', hheld, hadopt, hregistry, hslots, hstatements⟩ :=
    adopt_cases w slot handle
  · rw [hidle]
    refine .of_idle sound (fun _ => nofun) ?_ rfl rfl rfl
    rintro o id ⟨-, n, w', -, h⟩
    exact hnone n w' h
  · rw [hadopt, Option.map_some, Option.getD_some]
    refine ⟨?_, ?_, Nat.le_of_eq hslots.symm, ?_, ?_, ?_⟩
    · rw [hregistry]
      exact sound.hold (Registry.isAlive_of_heldBy? hheld)
    · intro o id'
      have kept : ((o, id') ∈ w.registry.owners ∧ (Deed.adopt slot handle).dropped? ≠ some o) ↔
          (o, id') ∈ w.registry.owners := and_iff_left nofun
      rw [hregistry, Registry.hold, List.mem_append, List.mem_singleton, Prod.mk.injEq, kept]
      refine or_congr_right ⟨?_, ?_⟩
      · rintro ⟨rfl, rfl⟩
        exact ⟨hheld, _, w', rfl, hadopt⟩
      · rintro ⟨h, n, w'', rfl, h'⟩
        rw [hadopt] at h'
        rw [hheld] at h
        cases h
        cases h'
        exact ⟨rfl, rfl⟩
    · rw [hstatements]
      exact Nat.le_succ _
    · rintro o id' ⟨-, n, w'', rfl, h⟩
      rw [hadopt] at h
      cases h
      refine ⟨Nat.lt_irrefl _, ?_⟩
      rw [Issued, hstatements]
      exact Nat.lt_succ_self _
    · rw [hregistry]
      exact fun h => h

theorem dispose_effect (sound : w.registry.Sound) (n : ℕ) :
    Effect system linkedTable w (.dispose n) ((w.dispose n).getD w) := by
  obtain ⟨h, -⟩ | ⟨a, w', h, hregistry, hslots, hstatements⟩ := onStatement_cases w n fun ctx s =>
    ((), { s with state := Facade.disposeStatement ctx s.state })
  · rw [Workspace.dispose, h]
    exact .of_idle sound (fun _ => nofun) id rfl rfl rfl
  · rw [Workspace.dispose, h]
    exact .of_idle sound (fun _ => nofun) id hregistry hslots hstatements

theorem dropStatement_effect (sound : w.registry.Sound)
    (issued : ∀ {o id}, (o, id) ∈ w.registry.owners → w.Issued o) (n : ℕ) :
    Effect system linkedTable w (.dropStatement n) ((w.dropStatement n).getD w) := by
  obtain ⟨h, hn⟩ | ⟨a, w', h, hregistry, hslots, hstatements⟩ := onStatement_cases w n fun ctx s =>
    ((), s.drop ctx none)
  · rw [Workspace.dropStatement, h]
    refine .of_idle sound ?_ id rfl rfl rfl
    rintro o id hmem ⟨⟩
    exact Nat.not_lt.mpr hn (issued hmem)
  · rw [Workspace.dropStatement, h]
    refine ⟨?_, ?_, Nat.le_of_eq hslots.symm, Nat.le_of_eq hstatements.symm, nofun, ?_⟩
    · exact (hregistry ▸ sound).letGo
    · intro o id
      simp only [Option.map_some, Option.getD_some, Registry.mem_owners_letGo, hregistry]
      exact (or_iff_left not_false).symm
    · rw [← hregistry]
      exact fun h => h

theorem act_effect (system : System) (linkedTable : Table) (sound : w.registry.Sound)
    (issued : ∀ {o id}, (o, id) ∈ w.registry.owners → w.Issued o) (deed : Deed) :
    Effect system linkedTable w deed (w.act system linkedTable deed) := by
  cases deed with
  | obtain request => exact obtain_effect sound request
  | clone slot => exact clone_effect sound slot
  | dropSlot slot => exact dropSlot_effect sound slot
  | adopt slot handle => exact adopt_effect sound slot handle
  | dispose n => exact dispose_effect sound n
  | dropStatement n => exact dropStatement_effect sound issued n

structure Accounted (system : System) (linkedTable : Table) (past : List Deed) :
    Prop where
  sound : (after system linkedTable past).registry.Sound
  issued : ∀ {o id}, (o, id) ∈ (after system linkedTable past).registry.owners →
    (after system linkedTable past).Issued o
  single : ∀ {o id id'}, (o, id) ∈ (after system linkedTable past).registry.owners →
    (o, id') ∈ (after system linkedTable past).registry.owners → id = id'
  remains : ∀ {o id}, (o, id) ∈ (after system linkedTable past).registry.owners ↔
    Remains system linkedTable past o id

theorem Accounted.heldBy?_eq_some_iff (accounted : Accounted system linkedTable past) :
    (after system linkedTable past).registry.heldBy? owner = some id ↔
      Remains system linkedTable past owner id := by
  rw [← accounted.remains, Registry.heldBy?]
  constructor
  · intro h
    obtain ⟨⟨o, id⟩, hfind, rfl⟩ := Option.map_eq_some_iff.mp h
    obtain rfl : o = owner := by simpa using List.find?_some hfind
    exact List.mem_of_find?_eq_some hfind
  · intro h
    cases hfind : (after system linkedTable past).registry.owners.find? (·.1 == owner) with
    | none => simpa using List.find?_eq_none.mp hfind _ h
    | some entry =>
      obtain ⟨o, id'⟩ := entry
      obtain rfl : o = owner := by simpa using List.find?_some hfind
      rw [accounted.single h (List.mem_of_find?_eq_some hfind)]
      rfl

theorem Accounted.remains_cons (accounted : Accounted system linkedTable past) :
    Remains system linkedTable (deed :: past) o id ↔
      Remains system linkedTable past o id ∧ deed.dropped? ≠ some o ∨
        (after system linkedTable past).Gains system linkedTable deed o id := by
  constructor
  · intro h
    cases h with
    | obtained h => exact .inr ⟨rfl, h⟩
    | cloned h => exact .inr ⟨rfl, accounted.heldBy?_eq_some_iff.mpr h⟩
    | opened h hadopt => exact .inr ⟨accounted.heldBy?_eq_some_iff.mpr h, _, _, rfl, hadopt⟩
    | kept h hne => exact .inl ⟨h, hne⟩
  · rintro (⟨h, hne⟩ | h)
    · exact .kept h hne
    · cases deed with
      | obtain request =>
        obtain ⟨rfl, h⟩ := h
        exact .obtained h
      | clone slot =>
        obtain ⟨rfl, h⟩ := h
        exact .cloned (accounted.heldBy?_eq_some_iff.mp h)
      | adopt slot handle =>
        obtain ⟨h, n, w, rfl, hadopt⟩ := h
        exact .opened (accounted.heldBy?_eq_some_iff.mp h) hadopt
      | _ => cases h

theorem Accounted.step (accounted : Accounted system linkedTable past) (deed : Deed) :
    Accounted system linkedTable (deed :: past) := by
  have effect := act_effect system linkedTable accounted.sound accounted.issued deed
  refine ⟨effect.sound, ?_, ?_, ?_⟩
  · intro o id h
    obtain ⟨h, -⟩ | h := effect.owners.mp h
    · exact (accounted.issued h).mono effect.slots effect.statements
    · exact (effect.new h).2
  · intro o id id' h h'
    obtain ⟨h, -⟩ | h := effect.owners.mp h <;> obtain ⟨h', -⟩ | h' := effect.owners.mp h'
    · exact accounted.single h h'
    · exact absurd (accounted.issued h) (effect.new h').1
    · exact absurd (accounted.issued h') (effect.new h).1
    · exact h.unique h'
  · intro o id
    rw [accounted.remains_cons, ← accounted.remains]
    exact effect.owners

theorem accounted_after : ∀ past, Accounted system linkedTable past
  | [] => by
    have howners : ∀ {o id}, (o, id) ∉ (after system linkedTable []).registry.owners := nofun
    exact ⟨.empty, fun h => absurd h howners, fun h => absurd h howners,
      fun h => absurd h howners, nofun⟩
  | deed :: past => (accounted_after past).step deed

theorem origin?_after {past now : List Deed} (later : past <:+ now) {origin : Origin}
    (h : (after system linkedTable past).registry.origin? id = some origin) :
    (after system linkedTable now).registry.origin? id = some origin := by
  obtain ⟨deeds, rfl⟩ := later
  induction deeds with
  | nil => exact h
  | cons deed deeds ih =>
    have accounted : Accounted system linkedTable (deeds ++ past) := accounted_after _
    exact (act_effect system linkedTable accounted.sound accounted.issued deed).origins ih

def reused : Origin → List Log.Event
  | .dynamic key => [Registry.libraryEvent .trace "reusing loaded native library" key]
  | _ => []

theorem ask_of_alive (sound : w.registry.Sound) {request : Request}
    (named : request.origin system ≠ .custom) (alive : w.registry.isAlive id)
    (known : w.registry.origin? id = some (request.origin system)) :
    w.ask system linkedTable request =
      ⟨.ok id, w.registry.hold (.handle w.slots) id, reused (request.origin system)⟩ := by
  cases request with
  | load path => exact sound.load_of_alive alive known
  | settings c =>
    simp only [ask, Registry.fromSettings, Request.origin] at known ⊢
    cases hpath : c.nativeLibrary with
    | some path =>
      rw [hpath] at known
      exact sound.load_of_alive alive known
    | none =>
      rw [hpath] at known
      exact sound.link_of_alive alive known
  | linked => exact sound.link_of_alive alive known
  | custom table => exact absurd rfl named

theorem bind_error_iff {t : Table} {origin : Origin} {e : Error} :
    bind t origin = .error e ↔ ∃ detail, t.layout.FirstDifference .current detail ∧
      e = .marshalingMismatch Export.layout.symbol detail := by
  simp only [← Abi.Layout.mismatch?_eq_some_iff, Library.bind]
  cases t.layout.mismatch? .current with
  | none => simp
  | some detail => simp [eq_comm]

theorem ask_error_iff (sound : w.registry.Sound) {request : Request}
    (fresh : request.origin system ≠ .custom →
      ∀ id, w.registry.isAlive id → w.registry.origin? id ≠ some (request.origin system))
    (declared : ∀ path, request.path? = some path → ∀ o, system.Opens path o → o.Declared)
    {e : Error} :
    (w.ask system linkedTable request).result = .error e ↔
      request.Refused system linkedTable e := by
  cases request with
  | load path =>
    rw [ask, sound.load_error_iff (fresh Origin.noConfusion) (declared path rfl)]
    exact ⟨.load, fun h => by cases h; assumption⟩
  | linked =>
    rw [ask, sound.link_error_iff (fresh Origin.noConfusion), bind_error_iff]
    constructor
    · rintro ⟨detail, difference, rfl⟩
      exact .linked difference
    · intro h
      cases h with
      | linked difference => exact ⟨_, difference, rfl⟩
  | custom t =>
    rw [ask, Registry.custom_error_iff, bind_error_iff]
    constructor
    · rintro ⟨detail, difference, rfl⟩
      exact .custom difference
    · intro h
      cases h with
      | custom difference => exact ⟨_, difference, rfl⟩
  | settings c =>
    simp only [Request.origin] at fresh
    simp only [ask, Registry.fromSettings]
    cases hpath : c.nativeLibrary with
    | some path =>
      rw [hpath] at fresh
      rw [sound.load_error_iff (fresh Origin.noConfusion) (declared path hpath)]
      refine ⟨.named hpath, fun h => ?_⟩
      cases h with
      | named hpath' rejects =>
        obtain rfl := Option.some.inj (hpath.symm.trans hpath')
        exact rejects
      | unnamed hnone _ => cases hpath.symm.trans hnone
    | none =>
      rw [hpath] at fresh
      rw [sound.link_error_iff (fresh Origin.noConfusion), bind_error_iff]
      constructor
      · rintro ⟨detail, difference, rfl⟩
        exact .unnamed hpath difference
      · intro h
        cases h with
        | named hpath' _ => cases hpath.symm.trans hpath'
        | unnamed _ difference => exact ⟨_, difference, rfl⟩

/-- An instance is alive as long as a handle or a statement on it remains. Of each origin but the
custom one there is at most one live instance, which the registry knows; asking for that origin
gives it again, whatever the system answers by then. Every other request makes an instance that was
not there before, unless it is refused for one of its reasons, and then nothing changes. No instance
ever changes its origin. -/
theorem one_instance_per_origin (system : System) (linkedTable : Table) (past : List Deed) :
    let w := after system linkedTable past
    (∀ id, w.registry.isAlive id ↔ ∃ owner, Remains system linkedTable past owner id) ∧
      (∀ id, w.registry.isAlive id → ∃ origin, w.registry.origin? id = some origin) ∧
      (∀ origin id id', origin ≠ .custom → w.registry.isAlive id → w.registry.isAlive id' →
        w.registry.origin? id = some origin → w.registry.origin? id' = some origin → id = id') ∧
      (∀ id key, w.registry.isAlive id → w.registry.origin? id = some (.dynamic key) →
        w.registry.loaded.find? (·.1 == key) = some (key, id)) ∧
      (∀ request id, request.origin system ≠ .custom → w.registry.isAlive id →
        w.registry.origin? id = some (request.origin system) →
        ∀ system' linkedTable', request.origin system' = request.origin system →
          w.ask system' linkedTable' request =
            ⟨.ok id, w.registry.hold (.handle w.slots) id, reused (request.origin system)⟩) ∧
      (∀ request, (request.origin system ≠ .custom →
          ∀ id, w.registry.isAlive id → w.registry.origin? id ≠ some (request.origin system)) →
        ((∀ path, request.path? = some path → ∀ o, system.Opens path o → o.Declared) →
          ∀ e, (w.ask system linkedTable request).result = .error e ↔
            request.Refused system linkedTable e) ∧
          (∀ e, (w.ask system linkedTable request).result = .error e →
            w.ask system linkedTable request = w.registry.refuse e) ∧
          ∀ id, (w.ask system linkedTable request).result = .ok id →
            w.registry.instance? id = none ∧
              ∀ key, request.origin system = .dynamic key →
                ∀ entry ∈ (w.ask system linkedTable request).registry.loaded,
                  (w.ask system linkedTable request).registry.isAlive entry.2) ∧
      ∀ request id, (w.ask system linkedTable request).result = .ok id →
        ∀ now, .obtain request :: past <:+ now →
          (after system linkedTable now).registry.origin? id = some (request.origin system) := by
  intro w
  have accounted : Accounted system linkedTable past := accounted_after past
  have sound : w.registry.Sound := accounted.sound
  refine ⟨?_, ?_, ?_, ?_, ?_, ?_, ?_⟩
  · intro id
    rw [Registry.isAlive_iff]
    exact exists_congr fun owner => accounted.remains
  · exact fun id alive => sound.exists_origin alive
  · exact fun origin id id' named alive alive' => sound.unique named alive alive'
  · exact fun id key alive known => sound.find?_loaded alive known
  · intro request id named alive known system' linkedTable' same
    rw [← same] at named known ⊢
    exact ask_of_alive sound named alive known
  · intro request fresh
    have serves := serves_ask system linkedTable sound request
    exact ⟨fun declared e => ask_error_iff sound fresh declared, fun e => serves.refuse,
      fun id => serves.pruned fresh⟩
  · intro request id hresult now later
    have serves := serves_ask system linkedTable sound request
    refine origin?_after later ?_
    rw [after, act, obtain_of_ok hresult]
    exact serves.origin? hresult

def engineSystem : System := aliased (.ofTable Engine.Script.silent.table undefinedSymbol)

theorem engineSystem_load :
    (Registry.empty.load engineSystem "lib.so" (.handle 0)).result = .ok 0 := rfl

def handedOn : List Deed := [.dropSlot 0, .adopt 0 ⟨1⟩, .obtain (.load "lib.so")]

def wideTable : Table := { Engine.Script.silent.table with layout := ⟨1, 4, 8, 8⟩ }

/-- The statement keeps the instance, and the other name leads to it. A table is bound to an
instance of its own all the same, unless its layout is another one. -/
theorem one_instance_per_origin_kept :
    let w := after engineSystem Engine.Script.silent.table handedOn
    (w.ask engineSystem Engine.Script.silent.table (.load "/opt/engines/cql.so")).result = .ok 0 ∧
      (∃ id, (w.ask engineSystem Engine.Script.silent.table
          (.custom Engine.Script.silent.table)).result = .ok id ∧ id ≠ 0) ∧
      w.ask engineSystem Engine.Script.silent.table (.custom wideTable) =
        w.registry.refuse
          (.marshalingMismatch "bridge_abi_layout" "boolean width 4 (expected 1)") := by
  intro w
  obtain ⟨-, -, -, -, -, -, origins⟩ :=
    one_instance_per_origin engineSystem Engine.Script.silent.table []
  have horigin := origins (.load "lib.so") 0 engineSystem_load
  have accounted : Accounted engineSystem Engine.Script.silent.table [.obtain (.load "lib.so")] :=
    accounted_after _
  have hload : Remains engineSystem Engine.Script.silent.table [.obtain (.load "lib.so")]
      (.handle 0) 0 := .obtained engineSystem_load
  obtain ⟨i, hi, -⟩ := Option.map_eq_some_iff.mp (horigin _ (List.suffix_refl _))
  obtain ⟨_, hadopt, -⟩ :=
    adopt_of_held ⟨1⟩ (accounted.heldBy?_eq_some_iff.mpr hload) hi (by decide)
  have hkept : Remains engineSystem Engine.Script.silent.table handedOn (.statement _) 0 :=
    .kept (.opened hload hadopt) (by simp [Deed.dropped?])
  obtain ⟨alive, -, -, -, shared, others, -⟩ :=
    one_instance_per_origin engineSystem Engine.Script.silent.table handedOn
  have hknown : w.registry.origin? 0 = some (.dynamic "/opt/engines/cql.so") :=
    horigin handedOn (List.suffix_append [_, _] _)
  have halive : w.registry.isAlive 0 := (alive 0).mpr ⟨_, hkept⟩
  refine ⟨?_, ?_, ?_⟩
  · rw [shared (.load "/opt/engines/cql.so") 0 Origin.noConfusion halive hknown engineSystem _ rfl]
  · obtain ⟨refused, -, created⟩ :=
      others (.custom Engine.Script.silent.table) fun h => absurd rfl h
    cases hresult : (w.ask engineSystem Engine.Script.silent.table
        (.custom Engine.Script.silent.table)).result with
    | ok id =>
      refine ⟨id, rfl, ?_⟩
      rintro rfl
      rw [Registry.origin?, (created 0 hresult).1] at hknown
      cases hknown
    | error e =>
      have hrefused := (refused (by rintro path ⟨⟩) e).mp hresult
      cases hrefused with
      | custom difference =>
        have hmatch : Engine.Script.silent.table.layout.mismatch? .current = none := by decide
        cases hmatch.symm.trans (Abi.Layout.mismatch?_eq_some_iff.mpr difference)
  · obtain ⟨refused, unchanged, -⟩ := others (.custom wideTable) fun h => absurd rfl h
    refine unchanged _ ((refused (by rintro path ⟨⟩) _).mpr (.custom ?_))
    exact Abi.Layout.mismatch?_eq_some_iff.mp (by decide +kernel)

end Workspace

end EngineBridge.Library
