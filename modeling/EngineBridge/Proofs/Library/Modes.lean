import EngineBridge.Proofs.Facade.Coupling
import EngineBridge.Proofs.Facade.Taxonomy
import EngineBridge.Proofs.Library.Sharing

/-!
The ways in which the engine's functions get into a table. A library gives each field the function
that it exports under the name by which the facade calls that field, and the table of the in-tree
engine has the same function in the same place. So it makes no difference to a statement whether its
library was linked, supplied as a table or loaded.
-/

namespace EngineBridge.Library

open Abi (Export Handle Side)
open Engine (Reply Statement Table)
open Facade (Agree AgreeInside Command Context Coupling Demand Origin Reentry Scope Session
  State)

def Function.ofTable (t : Table) : Export → Function
  | .layout => .layout t.layout
  | .freeString => .freeString t.freeString
  | .free => .release t.free
  | .isLwt => .bool t.isLwt
  | .count side => .count (t.count side)
  | .fill side => .fill (t.fill side)
  | .id => .bytes t.id

/-- The function that the in-tree engine exports under a name, seen through the handle of a
statement. -/
def Function.ofEngine (st : Statement) : Export → Function
  | .layout => .layout .current
  | .freeString => .freeString Engine.Ledger.giveBack
  | .free => .release fun _ sink => Engine.free (some st) sink
  | .isLwt => .bool fun _ => .ofEntry Engine.isLwt st 0
  | .count side => .count fun _ => .ofEntry (Engine.count side) st 0
  | .fill side => .fill fun _ => .ofFill side st
  | .id => .bytes fun _ => .ofEntry Engine.id st .empty

theorem ofTable_ofStatement (st : Statement) (e : Export) :
    Function.ofTable (.ofStatement st) e = Function.ofEngine st e := by
  cases e with
  | count side => cases side <;> rfl
  | fill side => cases side <;> rfl
  | _ => rfl

namespace SharedObject

variable {o : SharedObject} {e : Export} {t : Table}

theorem bind_eq_ok {α β : Type} {x : Except Error α} {f : α → Except Error β} {b : β}
    (h : x >>= f = .ok b) : ∃ a, x = .ok a ∧ f a = .ok b := by
  cases x with
  | error e => cases h
  | ok a => exact ⟨a, rfl, h⟩

theorem symbol?_of_look {α : Type} {as : Function → Option α} {mk : α → Function}
    (inverse : ∀ f a, as f = some a → f = mk a) {a : α} (h : o.look e as = .ok a) :
    o.symbol? e.symbol = some (mk a) := by
  unfold look at h
  split at h
  next f hf =>
    cases h
    obtain ⟨f, hsymbol, has⟩ := Option.bind_eq_some_iff.mp hf
    rw [hsymbol, inverse f a has]
  next => cases h

theorem resolve_eq_ok_iff : o.resolve = .ok t ↔ o.Binds t := by
  refine ⟨fun h => ?_, Binds.resolve⟩
  unfold resolve at h
  split at h
  next => cases h
  next =>
    obtain ⟨layout, hlayout, h⟩ := bind_eq_ok h
    obtain ⟨freeString, hstring, h⟩ := bind_eq_ok h
    obtain ⟨free, hfree, h⟩ := bind_eq_ok h
    obtain ⟨isLwt, hlwt, h⟩ := bind_eq_ok h
    obtain ⟨variablesCount, hvariables, h⟩ := bind_eq_ok h
    obtain ⟨resultCount, hresults, h⟩ := bind_eq_ok h
    obtain ⟨fillVariables, hfills, h⟩ := bind_eq_ok h
    obtain ⟨fillResult, hfillr, h⟩ := bind_eq_ok h
    obtain ⟨id, hid, h⟩ := bind_eq_ok h
    cases h
    refine ⟨?_, ?_, ?_, ?_, fun side => ?_, fun side => ?_, ?_⟩
    · exact symbol?_of_look (fun f a h => by cases f <;> cases h; rfl) hlayout
    · exact symbol?_of_look (fun f a h => by cases f <;> cases h; rfl) hstring
    · exact symbol?_of_look (fun f a h => by cases f <;> cases h; rfl) hfree
    · exact symbol?_of_look (fun f a h => by cases f <;> cases h; rfl) hlwt
    · match side with
      | .variables => exact symbol?_of_look (fun f a h => by cases f <;> cases h; rfl) hvariables
      | .results => exact symbol?_of_look (fun f a h => by cases f <;> cases h; rfl) hresults
    · match side with
      | .variables => exact symbol?_of_look (fun f a h => by cases f <;> cases h; rfl) hfills
      | .results => exact symbol?_of_look (fun f a h => by cases f <;> cases h; rfl) hfillr
    · exact symbol?_of_look (fun f a h => by cases f <;> cases h; rfl) hid

theorem binds_iff : o.Binds t ↔ ∀ e : Export, o.symbol? e.symbol = some (.ofTable t e) := by
  constructor
  · rintro ⟨hlayout, hstring, hfree, hlwt, hcount, hfill, hid⟩ e
    cases e with
    | layout => exact hlayout
    | freeString => exact hstring
    | free => exact hfree
    | isLwt => exact hlwt
    | count side => exact hcount side
    | fill side => exact hfill side
    | id => exact hid
  · intro h
    exact ⟨h .layout, h .freeString, h .free, h .isLwt, fun side => h (.count side),
      fun side => h (.fill side), h .id⟩

def Exports (o : SharedObject) (st : Statement) : Prop :=
  ∀ e : Export, o.symbol? e.symbol = some (.ofEngine st e)

theorem Exports.resolve {st : Statement} (h : o.Exports st) :
    o.resolve = .ok (.ofStatement st) := by
  refine resolve_eq_ok_iff.mpr (binds_iff.mpr fun e => ?_)
  rw [h e, ofTable_ofStatement]

end SharedObject

section

variable {system : System} {linkedTable : Table} {r : Registry} {path : String}
  {owner : Owner} {w : Workspace}

/-- Where an instance has its table from. -/
inductive Instance.Bound (system : System) (linkedTable : Table) : Instance → Prop
  | linked : Bound system linkedTable ⟨.linked, linkedTable⟩
  | dynamic {path : String} {o : SharedObject} {t : Table} : system.Opens path o → o.Binds t →
      Bound system linkedTable ⟨.dynamic (system.key path), t⟩
  | custom (t : Table) : Bound system linkedTable ⟨.custom, t⟩

def Registry.Bound (system : System) (linkedTable : Table) (r : Registry) : Prop :=
  ∀ i ∈ r.instances, i.Bound system linkedTable

theorem Registry.Bound.of_eq {r' : Registry} (bound : r.Bound system linkedTable)
    (h : r'.instances = r.instances) : r'.Bound system linkedTable := by
  rw [Registry.Bound, h]
  exact bound

theorem Registry.Bound.concat {r' : Registry} {i : Instance} (bound : r.Bound system linkedTable)
    (h : r'.instances = r.instances ++ [i]) (hi : i.Bound system linkedTable) :
    r'.Bound system linkedTable := by
  intro j hj
  rw [h, List.mem_append, List.mem_singleton] at hj
  rcases hj with hj | rfl
  · exact bound j hj
  · exact hi

theorem opens_of_openObject {o : SharedObject}
    (h : Registry.openObject system (system.key path) = .ok o) : system.Opens path o := by
  rw [System.Opens]
  unfold Registry.openObject at h
  cases hopen : system.openLibrary (system.key path) with
  | ok o' =>
    rw [hopen] at h
    exact congrArg Except.ok (Except.ok.inj h)
  | error report =>
    rw [hopen] at h
    cases h

theorem Registry.Bound.loadFresh (bound : r.Bound system linkedTable) :
    (r.loadFresh system (system.key path) owner).registry.Bound system linkedTable := by
  simp only [Registry.loadFresh]
  split
  next => exact bound
  next t event hattempt =>
    obtain ⟨o, hopen, hattempt⟩ := SharedObject.bind_eq_ok hattempt
    obtain ⟨t, hresolve, hattempt⟩ := SharedObject.bind_eq_ok hattempt
    obtain ⟨event, -, hattempt⟩ := SharedObject.bind_eq_ok hattempt
    cases hattempt
    refine bound.concat rfl (.dynamic (opens_of_openObject hopen) ?_)
    exact SharedObject.resolve_eq_ok_iff.mp hresolve

theorem Registry.Bound.load (bound : r.Bound system linkedTable) :
    (r.load system path owner).registry.Bound system linkedTable := by
  simp only [Registry.load]
  split
  · exact bound.of_eq rfl
  · exact bound.loadFresh

theorem Registry.Bound.link (bound : r.Bound system linkedTable) :
    (r.link linkedTable owner).registry.Bound system linkedTable := by
  simp only [Registry.link]
  split
  · exact bound.of_eq rfl
  · split
    · exact bound
    · exact bound.concat rfl .linked

theorem Registry.Bound.custom {t : Table} (bound : r.Bound system linkedTable) :
    (r.custom t owner).registry.Bound system linkedTable := by
  simp only [Registry.custom]
  split
  · exact bound
  · exact bound.concat rfl (.custom t)

namespace Workspace

end Workspace

end

theorem System.Opens.unique {system : System} {path path' : String} {o o' : SharedObject}
    (opens : system.Opens path o) (opens' : system.Opens path' o')
    (same : system.key path = system.key path') : o = o' := by
  rw [System.Opens, same] at opens
  exact Except.ok.inj (opens.symm.trans opens')

/-- A request by which the functions of the in-tree engine get into a table: by linking, by
supplying its table, or by the path of a library that exports them. -/
inductive Provides (st : Statement) (system : System) : Request → Prop
  | linked : Provides st system .linked
  | custom : Provides st system (.custom (.ofStatement st))
  | load {path : String} {o : SharedObject} : system.Opens path o → o.Exports st →
      Provides st system (.load path)

namespace Registry

variable {st : Statement} {system : System} {path : String} {o : SharedObject}
  {id : InstanceId}

end Registry

theorem Provides.table {st : Statement} {system : System} {request : Request}
    {t : Table} (provides : Provides st system request) (named : request.origin system ≠ .custom)
    (bound : Instance.Bound system (.ofStatement st) ⟨request.origin system, t⟩) :
    t = .ofStatement st := by
  cases provides with
  | linked =>
    cases bound with
    | linked => rfl
  | custom => exact absurd rfl named
  | load opens exports =>
    rw [Request.origin] at bound
    generalize horigin : Origin.dynamic _ = origin at bound
    cases bound with
    | linked => cases horigin
    | custom => cases horigin
    | dynamic opens' binds =>
      obtain rfl := opens.unique opens' (Origin.dynamic.inj horigin)
      exact Except.ok.inj (binds.resolve.symm.trans exports.resolve)

namespace Workspace

variable {st : Statement} {system : System} {request : Request} {handle : Handle}

end Workspace

section

variable {μ : Type} {ctx : Context} {t : Table}

end

end EngineBridge.Library
