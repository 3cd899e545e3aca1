import EngineBridge.Proofs.Facade.Solitary

/-!
Two runs of the same steps side by side, each on an engine and a state of its own. A relation
between the two states couples the runs when each thing that the facade does to both of them keeps
it and the answers show only what it makes equal; every tree of steps is then answered alike, at
every depth. What the trees may contain and what engines may log can be restricted.
-/

namespace EngineBridge

open Abi (Export Side)
open Engine (Delivery Reply Table)

def Log.Event.isReport (e : Log.Event) : Bool :=
  e.target == "cqlbridge::bridge::guard" &&
    ["released native handle", "native release failed",
      "native release returned garbage"].contains e.text

namespace Facade

/-- The single steps that may stand in a tree, and the events that an engine may log. -/
structure Scope where
  permits : Step → Bool
  logs : Log.Event → Bool

def Scope.full : Scope := ⟨fun _ => true, fun _ => true⟩

def Scope.Races (scope : Scope) : Prop :=
  ∃ q threads calls disposing, scope.permits (.race q threads calls disposing) = true

mutual

def Step.within (permits : Step → Bool) : Step → Bool
  | .fill _ visits => visitsWithin permits visits
  | .call body _ _ => stepsWithin permits body
  | .sinkPanics _ step => step.within permits
  | step => permits step

def stepsWithin (permits : Step → Bool) : List Step → Bool
  | [] => true
  | step :: rest => step.within permits && stepsWithin permits rest

def visitsWithin (permits : Step → Bool) : List Visit → Bool
  | [] => true
  | .mk _ body _ :: rest => stepsWithin permits body && visitsWithin permits rest

end

def Command.within (permits : Step → Bool) : Command → Bool
  | .step tree => tree.within permits
  | .drop _ => true

mutual

theorem Step.within_true : ∀ step : Step, step.within (fun _ => true) = true
  | .fill _ visits => by
    unfold Step.within
    exact visitsWithin_true visits
  | .call body _ _ => by
    unfold Step.within
    exact stepsWithin_true body
  | .sinkPanics _ step => by
    unfold Step.within
    exact Step.within_true step
  | .query _ | .race .. | .dispose | .debug | .disposeGuard | .debugGuard | .inFlight | .isDisposed
  | .origin => by
    unfold Step.within
    rfl

theorem stepsWithin_true : ∀ steps : List Step, stepsWithin (fun _ => true) steps = true
  | [] => by
    unfold stepsWithin
    rfl
  | step :: rest => by
    unfold stepsWithin
    rw [Step.within_true step, stepsWithin_true rest, Bool.and_self]

theorem visitsWithin_true : ∀ visits : List Visit, visitsWithin (fun _ => true) visits = true
  | [] => by
    unfold visitsWithin
    rfl
  | .mk _ body _ :: rest => by
    unfold visitsWithin
    rw [stepsWithin_true body, visitsWithin_true rest, Bool.and_self]

end

theorem Command.within_true (command : Command) : command.within (fun _ => true) = true := by
  cases command with
  | step tree => exact tree.within_true
  | drop _ => rfl

end Facade

namespace Engine

open Facade (Scope stepsWithin stepsWithin_true)

variable {α : Type}

structure Reply.Alike (r r' : Reply α) : Prop where
  reenter : r.reenter = r'.reenter
  events : r.events = r'.events
  result : r.result = r'.result
  written : r.result.code = 0 → r.written = r'.written

structure Reply.Within (scope : Scope) (r : Reply α) : Prop where
  reenter : stepsWithin scope.permits r.reenter = true
  events : ∀ e ∈ r.events, scope.logs e = true

theorem Reply.Alike.refl (r : Reply α) : r.Alike r :=
  ⟨rfl, rfl, rfl, fun _ => rfl⟩

theorem Reply.Within.full (r : Reply α) : r.Within .full :=
  ⟨stepsWithin_true r.reenter, fun _ _ => rfl⟩

variable {scope : Scope}

structure Matching (scope : Scope) (f f' : ℕ → Reply α) : Prop where
  alike : ∀ n, (f n).Alike (f' n)
  within : ∀ n, (f n).Within scope

theorem Matching.refl {f : ℕ → Reply α} (within : ∀ n, (f n).Within scope) : Matching scope f f :=
  ⟨fun n => .refl (f n), within⟩

theorem Matching.of_eq {f f' : ℕ → Reply α} (same : f = f') : Matching .full f f' :=
  same ▸ .refl fun n => .full (f n)

/-- Two tables whose queries reply alike. Columns are seen before the status number is, so fills
write the same in any case. -/
structure Table.Matching (scope : Scope) (t t' : Table) : Prop where
  isLwt : Engine.Matching scope t.isLwt t'.isLwt
  count : ∀ side, Engine.Matching scope (t.count side) (t'.count side)
  fill : ∀ side, Engine.Matching scope (t.fill side) (t'.fill side)
  delivered : ∀ side, t.fill side = t'.fill side
  id : Engine.Matching scope t.id t'.id

structure Table.Within (scope : Scope) (t : Table) : Prop where
  isLwt : ∀ n, (t.isLwt n).Within scope
  count : ∀ side n, (t.count side n).Within scope
  fill : ∀ side n, (t.fill side n).Within scope
  id : ∀ n, (t.id n).Within scope

theorem Table.Within.full (t : Table) : t.Within .full :=
  ⟨fun _ => .full _, fun _ _ => .full _, fun _ _ => .full _, fun _ => .full _⟩

theorem Table.Within.matching {t : Table} (within : t.Within scope) : t.Matching scope t where
  isLwt := .refl within.isLwt
  count side := .refl (within.count side)
  fill side := .refl (within.fill side)
  delivered _ := rfl
  id := .refl within.id

end Engine

namespace Facade

open Engine (Matching)

structure State.Seen (s t : State) : Prop where
  word : s.word = t.word
  variableCount : s.variableCount = t.variableCount
  resultCount : s.resultCount = t.resultCount
  calls : s.calls = t.calls
  nested : s.nested = t.nested

variable {α β μ : Type} {scope : Scope} {R : State → State → Prop} {ctx ctx' : Context}
  {inside inside' : Reentry} {s t s' t' : State}

theorem State.Seen.cached (seen : s.Seen t) (side : Side) : s.cached side = t.cached side := by
  match side with
  | .variables => exact seen.variableCount
  | .results => exact seen.resultCount

theorem State.Seen.answer (seen : s.Seen t) (r : Result) : s.answer r = t.answer r := by
  simp only [State.answer, State.releases, seen.word, seen.calls, seen.nested]

/-- From related states both operations give the same, and the states stay related. -/
def Agree (R : State → State → Prop) (op op' : State → α × State) : Prop :=
  ∀ s t, R s t → (op s).1 = (op' t).1 ∧ R (op s).2 (op' t).2

theorem Agree.run {op op' : State → α × State} (agree : Agree R op op') (related : R s t) :
    ∃ a s' t', op s = (a, s') ∧ op' t = (a, t') ∧ R s' t' := by
  obtain ⟨answers, states⟩ := agree s t related
  exact ⟨(op s).1, (op s).2, (op' t).2, rfl, Prod.ext answers.symm rfl, states⟩

theorem Agree.refl (op : State → α × State) : Agree Eq op op :=
  fun _ _ same => same ▸ ⟨rfl, rfl⟩

theorem Agree.eq {op op' : State → α × State} (agree : Agree Eq op op') : op = op' := by
  funext s
  obtain ⟨answers, states⟩ := agree s s rfl
  exact Prod.ext answers states

theorem Agree.pure (a : α) : Agree R (fun s => (a, s)) fun s => (a, s) :=
  fun _ _ related => ⟨rfl, related⟩

structure Session.Related (R : State → State → Prop) (x y : Session) : Prop where
  held : x.held = y.held
  state : R x.state y.state

def AgreeInside (scope : Scope) (R : State → State → Prop) (inside inside' : Reentry) : Prop :=
  ∀ steps, stepsWithin scope.permits steps = true → Agree R (inside steps) (inside' steps)

/-- A relation that everything the facade does to both states keeps. -/
structure Coupling (scope : Scope) (ctx ctx' : Context) (R : State → State → Prop) : Prop where
  resource : ctx.resource = ctx'.resource
  handle : ctx.handle = ctx'.handle
  seen {s t : State} : R s t → s.Seen t
  origin : scope.permits .origin = true → ctx.origin = ctx'.origin
  own {e : Log.Event} : e.isReport = false → scope.logs e = true
  logged {s t : State} {es : List Log.Event} : (∀ e ∈ es, scope.logs e = true) → R s t →
    R (s.emitAll es) (t.emitAll es)
  nested {s t : State} (n : List (Place × List Answer)) : R s t →
    R { s with nested := n } { t with nested := n }
  sink {s t : State} (p : Option Payload) : R s t → R { s with sink := p } { t with sink := p }
  word {s t : State} (w : Guard.Word) : R s t → R { s with word := w } { t with word := w }
  marked {s t : State} (m : Mark) : R s t → R (s.mark m) (t.mark m)
  stored {s t : State} (side : Side) (n : UInt64) : R s t → R (s.store side n) (t.store side n)
  called {s t : State} {e : Export} : e ≠ .free → R s t →
    R { s with calls := s.calls ++ [e] } { t with calls := t.calls ++ [e] }
  concluded {s t : State} {α : Type} (entryPoint : String) {r r' : Reply α} :
    r.result = r'.result → R s t →
      R (check ctx entryPoint (endCall r s).1 (endCall r s).2).2
        (check ctx' entryPoint (endCall r' t).1 (endCall r' t).2).2
  left {s t : State} : R s t → R (leave ctx s) (leave ctx' t)
  disposed {s t : State} : R s t → R (dispose ctx s).2 (dispose ctx' t).2
  unlogged {s t s' t' : State} : scope.Races → R s t → R s' t' →
    R { s' with events := s.events } { t' with events := t.events }
  restored {s t s' t' : State} : R s t → R s' t' →
    R { s' with sink := s.sink } { t' with sink := t.sink }

namespace Coupling

section

variable (coupling : Coupling scope ctx ctx' R)

include coupling

theorem emit {e : Log.Event} (he : e.isReport = false) (related : R s t) :
    R (s.emit e) (t.emit e) :=
  coupling.logged (fun _ h => List.mem_singleton.mp h ▸ coupling.own he) related

theorem guardEvent_eq (level : Log.Level) (text : String)
    (fields : List (String × Log.FieldValue)) :
    guardEvent ctx level text fields = guardEvent ctx' level text fields := by
  rw [guardEvent, guardEvent, coupling.resource]

theorem guarded (refused : Error → α) {op op' : State → α × State} (agree : Agree R op op') :
    Agree R (guarded ctx refused op) (guarded ctx' refused op') := by
  intro s t related
  have hword := (coupling.seen related).word
  unfold Facade.guarded
  rw [hword, coupling.resource, coupling.guardEvent_eq]
  cases t.word.enter? with
  | none => exact ⟨rfl, related⟩
  | some w =>
    have hopened : R ({ s with word := w }.mark .opened) ({ t with word := w }.mark .opened) :=
      coupling.marked .opened (coupling.word w related)
    obtain ⟨a, s₁, t₁, hop, hop', hrun⟩ := agree.run (coupling.emit
      (e := guardEvent ctx' .trace "guarded call" []) rfl hopened)
    simp only [hop, hop', true_and]
    exact coupling.left hrun

theorem inPlace (place : Place) {run run' : State → List Answer × State} (agree : Agree R run run')
    (related : R s t) : R (inPlace place run s) (inPlace place run' t) := by
  obtain ⟨answers, s₁, t₁, hrun, hrun', related₁⟩ := agree.run related
  simp only [Facade.inPlace, hrun, hrun', (coupling.seen related₁).nested]
  exact coupling.nested _ related₁

theorem beginCall {e : Export} (he : e ≠ .free) (hin : AgreeInside scope R inside inside')
    {f f' : ℕ → Reply α} (matching : Matching scope f f') (related : R s t) :
    ∃ r r' s₁ t₁, beginCall inside e f s = (r, s₁) ∧ beginCall inside' e f' t = (r', t₁) ∧
      r.Alike r' ∧ R s₁ t₁ ∧ ∃ n, r = f n ∧ r' = f' n := by
  -- Both have made the same calls so far, so they get the reply of the same number.
  have hcalls := (coupling.seen related).calls
  have hcalled := coupling.called he related
  have halike := matching.alike (t.calls.count e)
  have hwithin := matching.within (t.calls.count e)
  have hreenter := hin (f (t.calls.count e)).reenter hwithin.reenter
  refine ⟨_, _, _, _, rfl, rfl, ?_, ?_, t.calls.count e, by rw [← hcalls], rfl⟩
  · rw [hcalls]
    exact halike
  · simp only [hcalls, ← halike.reenter, ← halike.events]
    refine coupling.logged hwithin.events ?_
    rw [hcalls] at hcalled
    cases hsteps : (f (t.calls.count e)).reenter with
    | nil => exact hcalled
    | cons step rest => exact coupling.inPlace (.engine e) (hsteps ▸ hreenter) hcalled

theorem conclude (entryPoint : String) {r r' : Reply α} (alike : r.Alike r') (related : R s t) :
    ∃ returned s₁ returned' t₁ checked s₂ t₂, endCall r s = (returned, s₁) ∧
      endCall r' t = (returned', t₁) ∧ check ctx entryPoint returned s₁ = (checked, s₂) ∧
      check ctx' entryPoint returned' t₁ = (checked, t₂) ∧
      (checked = .ok () → r.written = r'.written) ∧ R s₂ t₂ := by
  refine ⟨_, _, _, _, reported entryPoint r.result, _, _, rfl, rfl, Prod.ext ?_ rfl,
    Prod.ext ?_ rfl, fun ok => ?_, coupling.concluded entryPoint alike.result related⟩
  · exact check_endCall ctx entryPoint r s _
  · rw [alike.result]
    exact check_endCall ctx' entryPoint r' t _
  · exact alike.written (reported_eq_ok_iff.mp ok)

theorem calling {e : Export} (he : e ≠ .free) (hin : AgreeInside scope R inside inside')
    {f f' : ℕ → Reply α} (matching : Matching scope f f')
    {answer : Reply α → Except Error Unit → β}
    (hanswer : ∀ {r r' : Reply α} {checked : Except Error Unit},
      (checked = .ok () → r.written = r'.written) → answer r checked = answer r' checked) :
    Agree R (calling ctx inside e f answer) (calling ctx' inside' e f' answer) := by
  intro s t related
  obtain ⟨r, r', s₁, t₁, hbegin, hbegin', alike, related₁, -⟩ :=
    coupling.beginCall he hin matching related
  obtain ⟨returned, s₂, returned', t₂, checked, s₃, t₃, hend, hend', hcheck, hcheck', written,
    related₃⟩ := coupling.conclude e.symbol alike related₁
  simp only [Facade.calling, hbegin, hbegin', hend, hend', hcheck, hcheck']
  exact ⟨hanswer written, related₃⟩

theorem isLwt (hin : AgreeInside scope R inside inside')
    (matching : Matching scope ctx.table.isLwt ctx'.table.isLwt) :
    Agree R (isLwt ctx inside) (isLwt ctx' inside') := by
  have hanswer {r r' : Reply UInt8} {checked : Except Error Unit}
      (written : checked = .ok () → r.written = r'.written) :
      lwtAnswer r checked = lwtAnswer r' checked := by
    cases checked with
    | error e => rfl
    | ok => simp only [lwtAnswer, written rfl]
  rw [isLwt_eq, isLwt_eq]
  exact coupling.guarded _ (coupling.calling (e := .isLwt) nofun hin matching hanswer)

theorem statementId (hin : AgreeInside scope R inside inside')
    (matching : Matching scope ctx.table.id ctx'.table.id) :
    Agree R (statementId ctx inside) (statementId ctx' inside') := by
  have hanswer {r r' : Reply Abi.View} {checked : Except Error Unit}
      (written : checked = .ok () → r.written = r'.written) :
      idAnswer r checked = idAnswer r' checked := by
    cases checked with
    | error e => rfl
    | ok => simp only [idAnswer, written rfl]
  rw [statementId_eq, statementId_eq]
  exact coupling.guarded _ (coupling.calling (e := .id) nofun hin matching hanswer)

theorem columnCount (hin : AgreeInside scope R inside inside') {side : Side}
    (matching : Matching scope (ctx.table.count side) (ctx'.table.count side)) :
    Agree R (columnCount ctx inside side) (columnCount ctx' inside' side) := by
  refine coupling.guarded _ fun s t related => ?_
  rw [(coupling.seen related).cached]
  cases t.cached side with
  | some n => exact ⟨rfl, related⟩
  | none =>
    obtain ⟨r, r', s₁, t₁, hbegin, hbegin', alike, related₁, -⟩ :=
      coupling.beginCall (e := .count side) nofun hin matching related
    obtain ⟨returned, s₂, returned', t₂, checked, s₃, t₃, hend, hend', hcheck, hcheck', written,
      related₃⟩ := coupling.conclude (Export.count side).symbol alike related₁
    simp only [hbegin, hbegin', hend, hend', hcheck, hcheck']
    cases checked with
    | error e => exact ⟨rfl, related₃⟩
    | ok =>
      let fetched : Log.Event :=
        { level := .trace
          target := "cqlbridge::statement::prepared"
          text := "column count fetched"
          fields := [("entry_point", .quoted (Export.count side).symbol),
            ("count", .number (r'.written.getD 0).toNat)] }
      have hstored := coupling.stored side (r'.written.getD 0)
        (coupling.emit (e := fetched) rfl related₃)
      rw [written rfl]
      dsimp only
      rw [(coupling.seen hstored).cached]
      exact ⟨rfl, hstored⟩

omit coupling in
theorem accept {visitor visitor' : Visitor μ}
    (hvisitor : ∀ index column memory,
      Agree R (visitor index column memory) (visitor' index column memory))
    (entryPoint : String) (delivery : Delivery) (got : Delivered μ) :
    Agree R (accept entryPoint visitor delivery got) (accept entryPoint visitor' delivery got) := by
  intro s t related
  unfold Facade.accept
  split_ifs
  · exact ⟨rfl, related⟩
  · cases examine got.next delivery with
    | error detail => exact ⟨rfl, related⟩
    | ok column =>
      obtain ⟨visit, s₁, t₁, hvisit, hvisit', related₁⟩ :=
        (hvisitor got.next column got.memory).run related
      simp only [hvisit, hvisit', true_and]
      exact related₁

omit coupling in
theorem deliver {visitor visitor' : Visitor μ}
    (hvisitor : ∀ index column memory,
      Agree R (visitor index column memory) (visitor' index column memory))
    (entryPoint : String) (deliveries : List Delivery) (got : Delivered μ) :
    Agree R (deliver entryPoint visitor deliveries got)
      (deliver entryPoint visitor' deliveries got) := by
  induction deliveries generalizing got with
  | nil => exact .pure got
  | cons delivery rest ih =>
    intro s t related
    obtain ⟨got', s₁, t₁, haccept, haccept', related₁⟩ :=
      (accept hvisitor entryPoint delivery got).run related
    simp only [Facade.deliver, haccept, haccept']
    exact ih got' s₁ t₁ related₁

theorem fill (hin : AgreeInside scope R inside inside') {side : Side}
    (matching : Matching scope (ctx.table.fill side) (ctx'.table.fill side))
    (delivered : ctx.table.fill side = ctx'.table.fill side) {visitor visitor' : Visitor μ}
    (hvisitor : ∀ index column memory,
      Agree R (visitor index column memory) (visitor' index column memory)) (memory : μ) :
    Agree R (fill ctx inside side visitor memory) (fill ctx' inside' side visitor' memory) := by
  refine coupling.guarded _ fun s t related => ?_
  obtain ⟨r, r', s₁, t₁, hbegin, hbegin', alike, related₁, n, hr, hr'⟩ :=
    coupling.beginCall (e := .fill side) nofun hin matching related
  -- The visitor sees the columns before the status number is known, so likeness is not enough.
  obtain rfl : r' = r := by rw [hr, hr', delivered]
  obtain ⟨got, s₂, t₂, hdeliver, hdeliver', related₂⟩ := (deliver hvisitor
    (Export.fill side).symbol (r'.written.getD []) (.start memory)).run related₁
  obtain ⟨returned, s₃, returned', t₃, checked, s₄, t₄, hend, hend', hcheck, hcheck', -,
    related₄⟩ := coupling.conclude (Export.fill side).symbol alike related₂
  simp only [hbegin, hbegin', hdeliver, hdeliver', hend, hend', hcheck, hcheck', true_and]
  exact related₄

theorem columnSpecs (hin : AgreeInside scope R inside inside') {side : Side}
    (matching : Matching scope (ctx.table.fill side) (ctx'.table.fill side))
    (delivered : ctx.table.fill side = ctx'.table.fill side) :
    Agree R (columnSpecs ctx inside side) (columnSpecs ctx' inside' side) := by
  have hcollector : ∀ index column columns,
      Agree R (collector index column columns) (collector index column columns) :=
    fun _ _ _ => .pure _
  intro s t related
  obtain ⟨⟨o, columns⟩, s₁, t₁, hfill, hfill', related₁⟩ :=
    (coupling.fill hin matching delivered hcollector []).run related
  simp only [Facade.columnSpecs, hfill, hfill', true_and]
  exact related₁

theorem dispose : Agree R (dispose ctx) (dispose ctx') := by
  refine fun s t related => ⟨?_, coupling.disposed related⟩
  obtain ⟨l, es, p, hdispose⟩ := dispose_frame ctx s
  obtain ⟨l', es', p', hdispose'⟩ := dispose_frame ctx' t
  rw [hdispose, hdispose', (coupling.seen related).word]

theorem disposeStatement (a : α) :
    Agree R (fun s => (a, disposeStatement ctx s)) fun t => (a, disposeStatement ctx' t) := by
  refine fun s t related => ⟨rfl, ?_⟩
  obtain ⟨first, s₁, t₁, hdispose, hdispose', related₁⟩ := coupling.dispose.run related
  simp only [Facade.disposeStatement, hdispose, hdispose']
  cases first with
  | true => exact coupling.emit rfl related₁
  | false => exact related₁

theorem runQuery (hin : AgreeInside scope R inside inside')
    (matching : ctx.table.Matching scope ctx'.table) (q : Query) :
    Agree R (runQuery ctx inside q) (runQuery ctx' inside' q) := by
  intro s t related
  cases q with
  | isLwt =>
    obtain ⟨o, s₁, t₁, h, h', related₁⟩ := (coupling.isLwt hin matching.isLwt).run related
    simp only [Facade.runQuery, h, h', true_and]
    exact related₁
  | count side =>
    obtain ⟨o, s₁, t₁, h, h', related₁⟩ :=
      (coupling.columnCount hin (matching.count side)).run related
    simp only [Facade.runQuery, h, h', true_and]
    exact related₁
  | specs side =>
    obtain ⟨o, s₁, t₁, h, h', related₁⟩ :=
      (coupling.columnSpecs hin (matching.fill side) (matching.delivered side)).run related
    simp only [Facade.runQuery, h, h', true_and]
    exact related₁
  | id =>
    obtain ⟨o, s₁, t₁, h, h', related₁⟩ := (coupling.statementId hin matching.id).run related
    simp only [Facade.runQuery, h, h', true_and]
    exact related₁

theorem quietly (races : scope.Races) {op op' : State → α × State} (agree : Agree R op op') :
    Agree R (quietly op) (quietly op') := by
  intro s t related
  obtain ⟨a, s₁, t₁, hop, hop', related₁⟩ := agree.run related
  simp only [Facade.quietly, hop, hop', true_and, (coupling.seen related).nested]
  exact coupling.nested t.nested (coupling.unlogged races related related₁)

theorem repeatQuery (races : scope.Races) {q : Query}
    (agree : Agree R (Facade.runQuery ctx inside q) (Facade.runQuery ctx' inside' q))
    (expected : Outcome Reading → Bool) (n : ℕ) :
    Agree R (repeatQuery ctx inside q expected n) (repeatQuery ctx' inside' q expected n) := by
  induction n with
  | zero => exact .pure 0
  | succ n ih =>
    intro s t related
    obtain ⟨o, s₁, t₁, hquery, hquery', related₁⟩ :=
      (coupling.quietly races agree).run related
    obtain ⟨unexpected, s₂, t₂, hrest, hrest', related₂⟩ := ih.run related₁
    simp only [Facade.repeatQuery, hquery, hquery', hrest, hrest', true_and]
    exact related₂

theorem race (races : scope.Races) {q : Query}
    (agree : Agree R (Facade.runQuery ctx inside q) (Facade.runQuery ctx' inside' q))
    (threads calls : ℕ) (disposing : Bool) :
    Agree R (race ctx inside q threads calls disposing)
      (race ctx' inside' q threads calls disposing) := by
  intro s t related
  obtain ⟨each, s₁, t₁, hquery, hquery', related₁⟩ := agree.run related
  obtain ⟨unexpected, s₂, t₂, hrest, hrest', related₂⟩ := (coupling.repeatQuery races agree
    (fun o => o == each || (disposing && isRefusal o)) (threads * calls)).run related₁
  simp only [Facade.race, hquery, hquery', hrest, hrest', true_and]
  split_ifs
  · exact (coupling.quietly races (coupling.disposeStatement ()) s₂ t₂ related₂).2
  · exact related₂

theorem asStep {op op' : State → Result × State} (agree : Agree R op op') :
    Agree R (asStep op) (asStep op') := by
  intro s t related
  obtain ⟨result, s₁, t₁, hop, hop', related₁⟩ := agree.run (coupling.nested [] related)
  simp only [Facade.asStep, hop, hop', (coupling.seen related₁).answer, true_and,
    (coupling.seen related).nested]
  exact coupling.marked _ (coupling.nested t.nested related₁)

omit coupling in
theorem observe {r r' : State → Reading} (same : ∀ s t, R s t → r s = r' t) :
    Agree R (observe r) (observe r') :=
  fun s t related => ⟨congrArg (Result.plain ∘ Outcome.value) (same s t related), related⟩

theorem debugGuard_eq (related : R s t) : debugGuard ctx s = debugGuard ctx' t := by
  unfold debugGuard
  rw [coupling.resource, coupling.handle, (coupling.seen related).word]

theorem debugStatement_eq (related : R s t) : debugStatement ctx s = debugStatement ctx' t := by
  have hseen := coupling.seen related
  unfold debugStatement
  rw [coupling.debugGuard_eq related, hseen.variableCount, hseen.resultCount]

end

mutual

theorem runStep (coupling : Coupling scope ctx ctx' R)
    (matching : ctx.table.Matching scope ctx'.table)
    (hin : AgreeInside scope R inside inside') :
    ∀ step : Step, step.within scope.permits = true →
      Agree R (runStep ctx inside step) (runStep ctx' inside' step)
  | .query q, _ => by
    intro s t related
    unfold Facade.runStep
    refine coupling.asStep (fun s t related => ?_) s t related
    obtain ⟨o, s₁, t₁, h, h', related₁⟩ := (coupling.runQuery hin matching q).run related
    simp only [h, h', true_and]
    exact related₁
  | .fill side visits, within => by
    have hvisits : visitsWithin scope.permits visits = true := by
      unfold Step.within at within
      exact within
    have hvisitor : ∀ index column (seen : List Engine.Column), Agree R
        (fun s =>
          let (panic, s) := Facade.runVisit ctx inside visits index s
          ((panic, seen ++ [column]), s))
        fun t =>
          let (panic, t) := Facade.runVisit ctx' inside' visits index t
          ((panic, seen ++ [column]), t) := by
      intro index column seen s t related
      obtain ⟨panic, s₁, t₁, h, h', related₁⟩ :=
        (runVisit coupling matching hin visits hvisits index).run related
      simp only [h, h', true_and]
      exact related₁
    intro s t related
    unfold Facade.runStep
    refine coupling.asStep (fun s t related => ?_) s t related
    obtain ⟨⟨o, seen⟩, s₁, t₁, h, h', related₁⟩ :=
      (coupling.fill hin (matching.fill side) (matching.delivered side) hvisitor []).run related
    simp only [h, h', true_and]
    exact related₁
  | .race q threads calls disposing, within => by
    have races : scope.Races := by
      unfold Step.within at within
      exact ⟨q, threads, calls, disposing, within⟩
    intro s t related
    unfold Facade.runStep
    exact coupling.asStep (coupling.race races (coupling.runQuery hin matching q) threads calls
      disposing) s t related
  | .dispose, _ => by
    intro s t related
    unfold Facade.runStep
    exact coupling.asStep (coupling.disposeStatement _) s t related
  | .debug, _ => by
    intro s t related
    unfold Facade.runStep
    refine coupling.asStep (observe fun s t related => ?_) s t related
    rw [coupling.debugStatement_eq related]
  | .call body panic result, within => by
    have hbody : stepsWithin scope.permits body = true := by
      unfold Step.within at within
      exact within
    have hop : Agree R
        (fun s => (bodyOutcome panic result,
          Facade.inPlace .body (Facade.runSteps ctx inside body) s))
        fun t => (bodyOutcome panic result,
          Facade.inPlace .body (Facade.runSteps ctx' inside' body) t) :=
      fun s t related =>
        ⟨rfl, coupling.inPlace .body (runSteps coupling matching hin body hbody) related⟩
    intro s t related
    unfold Facade.runStep
    refine coupling.asStep (fun s t related => ?_) s t related
    obtain ⟨o, s₁, t₁, h, h', related₁⟩ := (coupling.guarded .error hop).run related
    simp only [h, h', true_and]
    exact related₁
  | .disposeGuard, _ => by
    intro s t related
    unfold Facade.runStep
    refine coupling.asStep (fun s t related => ?_) s t related
    obtain ⟨first, s₁, t₁, h, h', related₁⟩ := coupling.dispose.run related
    simp only [h, h', true_and]
    exact related₁
  | .debugGuard, _ => by
    intro s t related
    unfold Facade.runStep
    refine coupling.asStep (observe fun s t related => ?_) s t related
    rw [coupling.debugGuard_eq related]
  | .inFlight, _ => by
    intro s t related
    unfold Facade.runStep
    refine coupling.asStep (observe fun s t related => ?_) s t related
    rw [(coupling.seen related).word]
  | .isDisposed, _ => by
    intro s t related
    unfold Facade.runStep
    refine coupling.asStep (observe fun s t related => ?_) s t related
    rw [(coupling.seen related).word]
  | .origin, within => by
    have horigin : ctx.origin = ctx'.origin := by
      unfold Step.within at within
      exact coupling.origin within
    intro s t related
    unfold Facade.runStep
    refine coupling.asStep (observe fun s t related => ?_) s t related
    rw [horigin]
  | .sinkPanics p step, within => by
    intro s t related
    have hstep : step.within scope.permits = true := by
      unfold Step.within at within
      exact within
    obtain ⟨a, s₁, t₁, h, h', related₁⟩ :=
      (runStep coupling matching hin step hstep).run (coupling.sink (some p) related)
    unfold Facade.runStep
    simp only [h, h', true_and]
    exact coupling.restored related related₁

theorem runSteps (coupling : Coupling scope ctx ctx' R)
    (matching : ctx.table.Matching scope ctx'.table)
    (hin : AgreeInside scope R inside inside') :
    ∀ steps : List Step, stepsWithin scope.permits steps = true →
      Agree R (runSteps ctx inside steps) (runSteps ctx' inside' steps)
  | [], _ => fun s t related => by
    unfold Facade.runSteps
    exact ⟨rfl, related⟩
  | step :: rest, within => by
    intro s t related
    simp only [stepsWithin, Bool.and_eq_true] at within
    obtain ⟨a, s₁, t₁, h, h', related₁⟩ :=
      (runStep coupling matching hin step within.1).run related
    obtain ⟨rest', s₂, t₂, hrest, hrest', related₂⟩ :=
      (runSteps coupling matching hin rest within.2).run related₁
    unfold Facade.runSteps
    simp only [h, h', hrest, hrest', true_and]
    exact related₂

theorem runVisit (coupling : Coupling scope ctx ctx' R)
    (matching : ctx.table.Matching scope ctx'.table)
    (hin : AgreeInside scope R inside inside') :
    ∀ visits : List Visit, visitsWithin scope.permits visits = true → ∀ index : ℕ,
      Agree R (runVisit ctx inside visits index) (runVisit ctx' inside' visits index)
  | [], _, index => fun s t related => by
    unfold Facade.runVisit
    exact ⟨rfl, related⟩
  | .mk column body panic :: rest, within, index => by
    intro s t related
    simp only [visitsWithin, Bool.and_eq_true] at within
    have hbody := runSteps coupling matching hin body within.1
    have hrest := runVisit coupling matching hin rest within.2 index
    unfold Facade.runVisit
    split_ifs
    · exact ⟨rfl, coupling.inPlace (.column index) hbody related⟩
    · exact hrest s t related

end

section

variable (coupling : Coupling scope ctx ctx' R)
  (matching : ctx.table.Matching scope ctx'.table)

include coupling matching

theorem reentry (depth : ℕ) :
    AgreeInside scope R (reentry ctx depth) (reentry ctx' depth) := by
  induction depth with
  | zero => exact fun steps _ => .pure []
  | succ depth ih => exact fun steps within => coupling.runSteps matching ih steps within

omit matching in
theorem drop (sink : Option Payload) {x y : Session} (related : x.Related R y) :
    (x.drop ctx sink).Related R (y.drop ctx' sink) := by
  obtain ⟨held, states⟩ := related
  unfold Session.drop
  rw [held]
  split_ifs
  · exact ⟨rfl, coupling.sink none (coupling.disposed (coupling.sink sink states))⟩
  · exact ⟨held, states⟩

theorem run (depth : ℕ) {command : Command} (within : command.within scope.permits = true)
    {x y : Session} (related : x.Related R y) :
    (x.run ctx depth command).1 = (y.run ctx' depth command).1 ∧
      (x.run ctx depth command).2.Related R (y.run ctx' depth command).2 := by
  have hreleases : x.state.releases = y.state.releases := by
    rw [State.releases, (coupling.seen related.state).calls, State.releases]
  cases command with
  | step step =>
    obtain ⟨a, s, t, h, h', states⟩ := (coupling.runStep matching
      (coupling.reentry matching depth) step within).run related.state
    unfold Session.run
    dsimp only
    rw [related.held, h, h', hreleases]
    split_ifs
    · exact ⟨rfl, rfl, states⟩
    · exact ⟨rfl, related⟩
  | drop sink =>
    have hdropped := coupling.drop sink related
    refine ⟨?_, hdropped⟩
    simp only [Session.run, State.releases, (coupling.seen hdropped.state).calls]

theorem runAll (depth : ℕ) (commands : List Command)
    (within : ∀ c ∈ commands, c.within scope.permits = true) {x y : Session}
    (related : x.Related R y) :
    (x.runAll ctx depth commands).1 = (y.runAll ctx' depth commands).1 ∧
      (x.runAll ctx depth commands).2.Related R (y.runAll ctx' depth commands).2 := by
  induction commands generalizing x y with
  | nil => exact ⟨rfl, related⟩
  | cons command rest ih =>
    obtain ⟨answer, related₁⟩ := coupling.run matching depth
      (within command List.mem_cons_self) related
    obtain ⟨answers, related₂⟩ := ih
      (fun c hc => within c (List.mem_cons_of_mem command hc)) related₁
    exact ⟨congrArg₂ List.cons answer answers, related₂⟩

end

end Coupling

structure Context.Akin (ctx ctx' : Context) : Prop where
  resource : ctx.resource = ctx'.resource
  handle : ctx.handle = ctx'.handle
  freeString : ctx.table.freeString = ctx'.table.freeString
  free : ctx.table.free = ctx'.table.free

theorem endCall_congr {r r' : Reply α} (result : r.result = r'.result) (s : State) :
    endCall r s = endCall r' s := by
  unfold endCall
  rw [result]

namespace Context.Akin

variable (akin : ctx.Akin ctx')

include akin

theorem decode (entryPoint : String) (r : Engine.Returned) (s : State) :
    decode ctx entryPoint r s = decode ctx' entryPoint r s := by
  unfold Facade.decode takeMessage
  rw [akin.freeString]

theorem check (entryPoint : String) (r : Engine.Returned) (s : State) :
    check ctx entryPoint r s = check ctx' entryPoint r s := by
  unfold Facade.check
  rw [akin.decode]

theorem guardEvent (level : Log.Level) (text : String)
    (fields : List (String × Log.FieldValue)) :
    guardEvent ctx level text fields = guardEvent ctx' level text fields := by
  rw [Facade.guardEvent, Facade.guardEvent, akin.resource]

theorem releaseEvent (outcome : Except Error CallResult) :
    releaseEvent ctx outcome = releaseEvent ctx' outcome := by
  unfold Facade.releaseEvent
  simp only [akin.guardEvent, akin.handle]

theorem release (s : State) : release ctx s = release ctx' s := by
  unfold Facade.release
  simp only [akin.free, akin.resource, akin.decode, akin.releaseEvent]

theorem leave (s : State) : leave ctx s = leave ctx' s := by
  unfold Facade.leave
  simp only [akin.release]

theorem dispose (s : State) : dispose ctx s = dispose ctx' s := by
  unfold Facade.dispose
  simp only [akin.release, akin.guardEvent]

theorem adopt (s : State) : adopt ctx s = adopt ctx' s := by
  unfold Facade.adopt
  simp only [akin.handle, akin.resource, akin.guardEvent]

/-- Equal states are coupled as long as no step tells the contexts apart. -/
theorem coupling (own : ∀ e, scope.logs e = true)
    (origin : scope.permits .origin = true → ctx.origin = ctx'.origin) :
    Coupling scope ctx ctx' Eq where
  resource := akin.resource
  handle := akin.handle
  seen same := same ▸ ⟨rfl, rfl, rfl, rfl, rfl⟩
  origin := origin
  own _ := own _
  logged {_ _ es} _ same := congrArg (·.emitAll es) same
  nested n same := congrArg (fun s : State => { s with nested := n }) same
  sink p same := congrArg (fun s : State => { s with sink := p }) same
  word w same := congrArg (fun s : State => { s with word := w }) same
  marked m same := congrArg (·.mark m) same
  stored side n same := congrArg (·.store side n) same
  called {_ _ e} _ same := congrArg (fun s : State => { s with calls := s.calls ++ [e] }) same
  concluded {s t α} entryPoint {r r'} result same := by
    rw [akin.check, same, endCall_congr result]
  left {s t} same := by rw [akin.leave, same]
  disposed {s t} same := by rw [akin.dispose, same]
  unlogged _ same same' := by rw [same, same']
  restored same same' := by rw [same, same']

end Context.Akin

theorem Session.Related.eq {x y : Session} (related : x.Related Eq y) : x = y := by
  obtain ⟨held, state⟩ := related
  cases x
  cases y
  cases held
  cases state
  rfl

theorem Coupling.runAll_eq (coupling : Coupling scope ctx ctx' Eq)
    (matching : ctx.table.Matching scope ctx'.table) (depth : ℕ) {commands : List Command}
    (within : ∀ c ∈ commands, c.within scope.permits = true) (session : Session) :
    session.runAll ctx depth commands = session.runAll ctx' depth commands := by
  have same : session.Related Eq session := ⟨rfl, rfl⟩
  obtain ⟨answers, related⟩ := coupling.runAll matching depth commands within same
  exact Prod.ext answers related.eq

end Facade

end EngineBridge
