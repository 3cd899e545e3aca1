import EngineBridge.Proofs.Library.Loading

/-!
What the registry knows of the live instances. It holds none of them itself, and its entries may be
out of date, but each live instance of a named origin is found under its name. A request is met by
that instance or by a new one.
-/

namespace EngineBridge.Library

open Engine (Table)
open Facade (Origin)

namespace Registry

variable {r : Registry} {owner o : Owner} {id id' : ℕ} {origin : Origin} {key k : String}
  {t : Table}

def origin? (r : Registry) (id : InstanceId) : Option Origin := (r.instance? id).map (·.origin)

theorem isAlive_iff : r.isAlive id ↔ ∃ o, (o, id) ∈ r.owners := by
  simp [isAlive]

theorem isAlive_hold : (r.hold owner id).isAlive id' ↔ r.isAlive id' ∨ id' = id := by
  simp [isAlive, hold, @eq_comm _ id]

theorem isAlive_of_letGo (h : (r.letGo owner).isAlive id) : r.isAlive id := by
  obtain ⟨o, ho⟩ := isAlive_iff.mp h
  exact isAlive_iff.mpr ⟨o, (List.mem_filter.mp ho).1⟩

theorem mem_owners_letGo :
    (o, id) ∈ (r.letGo owner).owners ↔ (o, id) ∈ r.owners ∧ some owner ≠ some o := by
  simp [letGo, @eq_comm _ o]

theorem isAlive_of_heldBy? (h : r.heldBy? owner = some id) : r.isAlive id := by
  obtain ⟨⟨o, id⟩, hfind, rfl⟩ := Option.map_eq_some_iff.mp h
  exact isAlive_iff.mpr ⟨o, List.mem_of_find?_eq_some hfind⟩

def enrol (r : Registry) (owner : Owner) (t : Table) : Origin → Registry
  | .custom => (r.create ⟨.custom, t⟩ owner).2
  | .linked => { (r.create ⟨.linked, t⟩ owner).2 with linked := some r.instances.length }
  | .dynamic key => r.register key t owner

@[simp] theorem owners_enrol :
    (r.enrol owner t origin).owners = r.owners ++ [(owner, r.instances.length)] := by
  cases origin <;> rfl

@[simp] theorem instances_enrol :
    (r.enrol owner t origin).instances = r.instances ++ [⟨origin, t⟩] := by
  cases origin <;> rfl

theorem isAlive_enrol :
    (r.enrol owner t origin).isAlive id ↔ r.isAlive id ∨ id = r.instances.length := by
  simp [isAlive, @eq_comm _ id]

theorem origin?_enrol :
    (r.enrol owner t origin).origin? id =
      if id = r.instances.length then some origin else r.origin? id := by
  rw [origin?, instance?, instances_enrol]
  split_ifs with h
  · simp [h]
  · rcases Nat.lt_or_gt_of_ne h with h | h
    · rw [List.getElem?_append_left h, origin?, instance?]
    · rw [List.getElem?_eq_none (by rw [List.length_append]; exact h), origin?, instance?,
        List.getElem?_eq_none (Nat.le_of_lt h)]

theorem mem_loaded_register : (k, id) ∈ (r.register key t owner).loaded ↔
    (k, id) ∈ r.loaded ∧ r.isAlive id ∨ k = key ∧ id = r.instances.length := by
  simp [register]

theorem lt_of_origin? (h : r.origin? id = some origin) : id < r.instances.length := by
  by_contra hid
  rw [origin?, instance?, List.getElem?_eq_none (Nat.le_of_not_lt hid)] at h
  cases h

theorem origin?_enrol_of_lt (h : id < r.instances.length) :
    (r.enrol owner t origin).origin? id = r.origin? id := by
  rw [origin?_enrol, if_neg (Nat.ne_of_lt h)]

/-- The entries of a registry agree with its instances. -/
structure Sound (r : Registry) : Prop where
  owned : ∀ {id : ℕ}, r.isAlive id → id < r.instances.length
  keys : (r.loaded.map (·.1)).Nodup
  loaded : ∀ {k id}, (k, id) ∈ r.loaded → r.origin? id = some (.dynamic k)
  listed : ∀ {k id}, r.isAlive id → r.origin? id = some (.dynamic k) → (k, id) ∈ r.loaded
  link : ∀ {id}, r.linked = some id → r.origin? id = some .linked
  known : ∀ {id}, r.isAlive id → r.origin? id = some .linked → r.linked = some id

theorem Sound.empty : Registry.empty.Sound where
  owned h := by simp [isAlive, Registry.empty] at h
  keys := List.nodup_nil
  loaded h := by simp [Registry.empty] at h
  listed h := by simp [isAlive, Registry.empty] at h
  link h := by simp [Registry.empty] at h
  known h := by simp [isAlive, Registry.empty] at h

namespace Sound

variable (sound : r.Sound)
include sound

theorem hold (alive : r.isAlive id) : (r.hold owner id).Sound := by
  have halive : ∀ {id'}, (r.hold owner id).isAlive id' → r.isAlive id' := by
    intro id' h
    obtain h | rfl := isAlive_hold.mp h
    exacts [h, alive]
  exact ⟨fun h => sound.owned (halive h), sound.keys, sound.loaded,
    fun h => sound.listed (halive h), sound.link, fun h => sound.known (halive h)⟩

theorem letGo : (r.letGo owner).Sound :=
  ⟨fun h => sound.owned (isAlive_of_letGo h), sound.keys, sound.loaded,
    fun h => sound.listed (isAlive_of_letGo h), sound.link,
    fun h => sound.known (isAlive_of_letGo h)⟩

theorem exists_origin (alive : r.isAlive id) : ∃ origin, r.origin? id = some origin := by
  rw [origin?, instance?, List.getElem?_eq_getElem (sound.owned alive)]
  exact ⟨_, rfl⟩

theorem find?_loaded (alive : r.isAlive id) (horigin : r.origin? id = some (.dynamic key)) :
    r.loaded.find? (·.1 == key) = some (key, id) := by
  obtain ⟨before, after, hsplit⟩ := List.append_of_mem (sound.listed alive horigin)
  have hkeys := sound.keys
  rw [hsplit, List.map_append, List.map_cons, List.nodup_append] at hkeys
  rw [List.find?_eq_some_iff_append]
  refine ⟨by simp, before, after, hsplit, ?_⟩
  rintro ⟨k, id'⟩ hk
  have hne := hkeys.2.2 k (List.mem_map_of_mem hk) key (List.mem_cons_self ..)
  simpa using hne

theorem unique (shared : origin ≠ .custom) (alive : r.isAlive id) (alive' : r.isAlive id')
    (horigin : r.origin? id = some origin) (horigin' : r.origin? id' = some origin) :
    id = id' := by
  cases origin with
  | custom => exact absurd rfl shared
  | linked =>
    have h := sound.known alive horigin
    rw [sound.known alive' horigin'] at h
    exact (Option.some.inj h).symm
  | dynamic key =>
    have h := sound.find?_loaded alive horigin
    rw [sound.find?_loaded alive' horigin'] at h
    exact (Prod.mk.inj (Option.some.inj h)).2.symm

theorem enrol (fresh : origin ≠ .custom → ∀ id, r.isAlive id → r.origin? id ≠ some origin) :
    (r.enrol owner t origin).Sound where
  owned {id} alive := by
    rw [instances_enrol, List.length_append, List.length_singleton]
    rcases isAlive_enrol.mp alive with h | h
    · exact Nat.lt_succ_of_lt (sound.owned h)
    · exact h ▸ Nat.lt_succ_self _
  keys := by
    cases origin with
    | custom => exact sound.keys
    | linked => exact sound.keys
    | dynamic key =>
      simp only [Registry.enrol, register, List.map_append, List.nodup_append]
      refine ⟨sound.keys.sublist (List.filter_sublist.map _), by simp, ?_⟩
      intro k hk k' hk' heq
      obtain ⟨⟨k, id⟩, hid, rfl⟩ := List.mem_map.mp hk
      obtain ⟨hloaded, alive⟩ := List.mem_filter.mp hid
      obtain rfl : k' = key := by simpa using hk'
      exact fresh (by simp) id alive (heq ▸ sound.loaded hloaded)
  loaded {k id} h := by
    have old : (k, id) ∈ r.loaded → (r.enrol owner t origin).origin? id = some (.dynamic k) := by
      intro h
      rw [origin?_enrol_of_lt (lt_of_origin? (sound.loaded h)), sound.loaded h]
    cases origin with
    | custom => exact old h
    | linked => exact old h
    | dynamic key =>
      obtain ⟨h, -⟩ | ⟨rfl, rfl⟩ := mem_loaded_register.mp h
      · exact old h
      · rw [origin?_enrol, if_pos rfl]
  listed {k id} alive h := by
    obtain was | rfl := isAlive_enrol.mp alive
    · rw [origin?_enrol_of_lt (sound.owned was)] at h
      cases origin with
      | custom => exact sound.listed was h
      | linked => exact sound.listed was h
      | dynamic key => exact mem_loaded_register.mpr (.inl ⟨sound.listed was h, was⟩)
    · rw [origin?_enrol, if_pos rfl, Option.some_inj] at h
      subst h
      exact mem_loaded_register.mpr (.inr ⟨rfl, rfl⟩)
  link {id} h := by
    have old : r.linked = some id → (r.enrol owner t origin).origin? id = some .linked := by
      intro h
      rw [origin?_enrol_of_lt (lt_of_origin? (sound.link h)), sound.link h]
    cases origin with
    | custom => exact old h
    | linked =>
      obtain rfl := Option.some.inj h
      rw [origin?_enrol, if_pos rfl]
    | dynamic key => exact old h
  known {id} alive h := by
    obtain was | rfl := isAlive_enrol.mp alive
    · rw [origin?_enrol_of_lt (sound.owned was)] at h
      cases origin with
      | custom => exact sound.known was h
      | linked => exact absurd h (fresh (by simp) id was)
      | dynamic key => exact sound.known was h
    · rw [origin?_enrol, if_pos rfl, Option.some_inj] at h
      subst h
      rfl

end Sound

/-- How a request for an origin is met: not at all, by the live instance of that origin, or by a new
one. -/
inductive Serves (r : Registry) (owner : Owner) (origin : Origin) : Asked → Prop
  | refused (e : Error) : Serves r owner origin (r.refuse e)
  | shared {id : InstanceId} {events : List Log.Event} (named : origin ≠ .custom)
      (alive : r.isAlive id) (known : r.origin? id = some origin) :
      Serves r owner origin ⟨.ok id, r.hold owner id, events⟩
  | created (t : Table) {events : List Log.Event}
      (fresh : origin ≠ .custom → ∀ id, r.isAlive id → r.origin? id ≠ some origin) :
      Serves r owner origin ⟨.ok r.instances.length, r.enrol owner t origin, events⟩

variable {system : System} {path : String}

theorem loadFresh_cases (r : Registry) (system : System) (key : String)
    (owner : Owner) : (∃ e, r.loadFresh system key owner = r.refuse e) ∨
      ∃ t events, r.loadFresh system key owner =
        ⟨.ok r.instances.length, r.enrol owner t (.dynamic key), events⟩ := by
  simp only [loadFresh]
  split
  · exact .inl ⟨_, rfl⟩
  · exact .inr ⟨_, _, rfl⟩

theorem Sound.load_of_alive (sound : r.Sound) (alive : r.isAlive id)
    (known : r.origin? id = some (.dynamic (system.key path))) :
    r.load system path owner =
      ⟨.ok id, r.hold owner id,
        [libraryEvent .trace "reusing loaded native library" (system.key path)]⟩ := by
  have hlisted := sound.listed alive known
  simp only [load]
  split
  next k id' hfind =>
    have hfound := List.find?_some hfind
    simp only [Bool.and_eq_true, beq_iff_eq] at hfound
    obtain ⟨rfl, alive'⟩ := hfound
    have hmem := List.mem_of_find?_eq_some hfind
    obtain rfl := sound.unique (by simp) alive' alive (sound.loaded hmem) known
    rfl
  next hfind =>
    have hdead := List.find?_eq_none.mp hfind _ hlisted
    simp [alive] at hdead

theorem Sound.absent (sound : r.Sound)
    (fresh : ∀ id, r.isAlive id → r.origin? id ≠ some (.dynamic key)) :
    ∀ id, (key, id) ∈ r.loaded → r.isAlive id = false := fun id hid =>
  Bool.eq_false_iff.mpr fun alive => fresh id alive (sound.loaded hid)

theorem Sound.serves_load (sound : r.Sound) :
    r.Serves owner (.dynamic (system.key path)) (r.load system path owner) := by
  by_cases h : ∃ id, r.isAlive id ∧ r.origin? id = some (.dynamic (system.key path))
  · obtain ⟨id, alive, known⟩ := h
    rw [sound.load_of_alive alive known]
    exact .shared (by simp) alive known
  · have fresh : ∀ id, r.isAlive id → r.origin? id ≠ some (.dynamic (system.key path)) :=
      fun id alive known => h ⟨id, alive, known⟩
    rw [load_of_absent r owner (sound.absent fresh)]
    obtain ⟨e, he⟩ | ⟨t, events, ht⟩ := r.loadFresh_cases system (system.key path) owner
    · rw [he]
      exact .refused e
    · rw [ht]
      exact .created t fun _ => fresh

theorem Sound.link_of_alive (sound : r.Sound) (alive : r.isAlive id)
    (known : r.origin? id = some .linked) : r.link t owner = ⟨.ok id, r.hold owner id, []⟩ := by
  have hsome : r.linked.filter r.isAlive = some id := by
    rw [sound.known alive known, Option.filter_some, if_pos alive]
  simp only [Registry.link, hsome]

theorem Sound.link_of_fresh (sound : r.Sound)
    (fresh : ∀ id, r.isAlive id → r.origin? id ≠ some .linked) :
    r.linked.filter r.isAlive = none := by
  rw [Option.filter_eq_none_iff]
  exact fun id hid alive => fresh id alive (sound.link hid)

theorem Sound.serves_link (sound : r.Sound) : r.Serves owner .linked (r.link t owner) := by
  by_cases h : ∃ id, r.isAlive id ∧ r.origin? id = some .linked
  · obtain ⟨id, alive, known⟩ := h
    rw [sound.link_of_alive alive known]
    exact .shared (by simp) alive known
  · have fresh : ∀ id, r.isAlive id → r.origin? id ≠ some .linked :=
      fun id alive known => h ⟨id, alive, known⟩
    simp only [Registry.link, sound.link_of_fresh fresh]
    split
    · exact .refused _
    · exact .created t fun _ => fresh

theorem serves_custom : r.Serves owner .custom (r.custom t owner) := by
  simp only [custom]
  split
  · exact .refused _
  · exact .created t fun h => absurd rfl h

theorem custom_error_iff {e : Error} :
    (r.custom t owner).result = .error e ↔ bind t .custom = .error e := by
  simp only [custom]
  cases bind t .custom with
  | error e' => simp [refuse]
  | ok event =>
    refine iff_of_false ?_ ?_
    · rintro ⟨⟩
    · rintro ⟨⟩

theorem Sound.link_error_iff (sound : r.Sound)
    (fresh : ∀ id, r.isAlive id → r.origin? id ≠ some .linked) {e : Error} :
    (r.link t owner).result = .error e ↔ bind t .linked = .error e := by
  simp only [Registry.link, sound.link_of_fresh fresh]
  cases bind t .linked with
  | error e' => simp [refuse]
  | ok event =>
    refine iff_of_false ?_ ?_
    · rintro ⟨⟩
    · rintro ⟨⟩

theorem Sound.load_error_iff (sound : r.Sound)
    (fresh : ∀ id, r.isAlive id → r.origin? id ≠ some (.dynamic (system.key path)))
    (declared : ∀ o, system.Opens path o → o.Declared) {e : Error} :
    (r.load system path owner).result = .error e ↔ system.Rejects path e := by
  constructor
  · exact fun h => (load_of_error owner (sound.absent fresh) declared h).1
  · intro rejects
    rw [load_of_rejects owner (sound.absent fresh) declared rejects]
    rfl

variable {a : Asked}

theorem Sound.served (sound : r.Sound) (serves : r.Serves owner origin a) : a.registry.Sound := by
  cases serves with
  | refused e => exact sound
  | shared _ alive _ => exact sound.hold alive
  | created t fresh => exact sound.enrol fresh

theorem Serves.owners (serves : r.Serves owner origin a) (h : a.result = .ok id) :
    a.registry.owners = r.owners ++ [(owner, id)] := by
  cases serves with
  | refused e => cases h
  | shared _ _ _ => cases h; rfl
  | created t _ => cases h; exact owners_enrol

theorem Serves.origin?_of_some (serves : r.Serves owner origin a) {origin' : Origin}
    (h : r.origin? id = some origin') : a.registry.origin? id = some origin' := by
  cases serves with
  | refused e => exact h
  | shared _ _ _ => exact h
  | created t _ => rw [origin?_enrol_of_lt (lt_of_origin? h), h]

theorem Serves.origin? (serves : r.Serves owner origin a) (h : a.result = .ok id) :
    a.registry.origin? id = some origin := by
  cases serves with
  | refused e => cases h
  | shared _ _ known => cases h; exact known
  | created t _ => cases h; rw [origin?_enrol, if_pos rfl]

theorem Serves.refuse (serves : r.Serves owner origin a) {e : Error} (h : a.result = .error e) :
    a = r.refuse e := by
  cases serves with
  | refused e => cases h; rfl
  | shared _ _ _ => cases h
  | created t _ => cases h

theorem Serves.pruned (serves : r.Serves owner origin a)
    (fresh : origin ≠ .custom → ∀ id, r.isAlive id → r.origin? id ≠ some origin)
    (h : a.result = .ok id) :
    r.instance? id = none ∧
      ∀ key, origin = .dynamic key → ∀ entry ∈ a.registry.loaded, a.registry.isAlive entry.2 := by
  cases serves with
  | refused e => cases h
  | shared named alive known => exact absurd known (fresh named _ alive)
  | created t _ =>
    cases h
    refine ⟨List.getElem?_eq_none (Nat.le_refl _), ?_⟩
    rintro key rfl ⟨k, id⟩ hentry
    rw [isAlive_enrol]
    obtain ⟨-, alive⟩ | ⟨-, rfl⟩ := mem_loaded_register.mp hentry
    exacts [.inl alive, .inr rfl]

end Registry

end EngineBridge.Library
