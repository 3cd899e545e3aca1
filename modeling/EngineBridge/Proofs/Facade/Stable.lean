import EngineBridge.Facade.Run
import Mathlib.Data.List.Infix

/-!
What every run of steps keeps. A property of the state that may depend on the number of open
operations is stable when each thing that the facade does to its state keeps it; it is then kept by
every tree of steps, whatever the engine and the visitors make the caller run inside.
-/

namespace EngineBridge.Facade

open Abi (Export Side)
open Engine (Delivery Reply Returned)

theorem takeMessage_frame (ctx : Context) (r : Returned) (s : State) :
    ∃ l, (takeMessage ctx r s).2 = { s with ledger := l } := by
  unfold takeMessage
  cases r.message with
  | none => exact ⟨_, rfl⟩
  | some m => exact ⟨_, rfl⟩

theorem decode_frame (ctx : Context) (entryPoint : String) (r : Returned) (s : State) :
    ∃ l es, (decode ctx entryPoint r s).2 = { s with ledger := l, events := es } := by
  obtain ⟨l, hl⟩ := takeMessage_frame ctx r s
  unfold decode
  simp only [hl]
  split_ifs
  · exact ⟨_, _, rfl⟩
  · cases Abi.ErrorCode.ofRaw? r.code with
    | none => exact ⟨_, _, rfl⟩
    | some code => exact ⟨_, _, rfl⟩

theorem check_frame (ctx : Context) (entryPoint : String) (r : Returned) (s : State) :
    ∃ l es, (check ctx entryPoint r s).2 = { s with ledger := l, events := es } :=
  decode_frame ctx entryPoint r s

theorem endCall_frame {α : Type} (reply : Reply α) (s : State) :
    ∃ l, (endCall reply s).2 = { s with ledger := l } :=
  ⟨_, rfl⟩

theorem release_frame (ctx : Context) (s : State) :
    ∃ l es p, release ctx s =
      { s with calls := s.calls ++ [.free], ledger := l, events := es, sink := p } := by
  unfold release
  obtain ⟨l, es, h⟩ := decode_frame ctx ctx.resource.release
    (s.ledger.lend (ctx.table.free (s.calls.count .free) s.sink).result).1
    { s with
      calls := s.calls ++ [.free]
      sink := (ctx.table.free (s.calls.count .free) s.sink).sink
      events := s.events ++ (ctx.table.free (s.calls.count .free) s.sink).events
      ledger := (s.ledger.lend (ctx.table.free (s.calls.count .free) s.sink).result).2 }
  simp only [State.emitAll, h]
  exact ⟨_, _, _, rfl⟩

theorem leave_frame (ctx : Context) (s : State) :
    ∃ l es p, leave ctx s =
      { s with
        word := s.word.left
        calls := s.calls ++ if s.word.isLastOut then [.free] else []
        ledger := l
        events := es
        sink := p
        trail := s.trail ++ [.closed] } := by
  obtain ⟨l, es, p, hrelease⟩ := release_frame ctx ({ s with word := s.word.left }.mark .closed)
  unfold leave
  dsimp only
  by_cases hlast : s.word.isLastOut = true
  · simp only [hlast, if_true, hrelease]
    exact ⟨_, _, _, rfl⟩
  · simp only [hlast, Bool.false_eq_true, if_false, List.append_nil]
    exact ⟨_, _, _, rfl⟩

theorem dispose_frame (ctx : Context) (s : State) :
    ∃ l es p, dispose ctx s = (!s.word.isDisposed,
      { s with
        word := s.word.disposed
        calls := s.calls ++ if s.word.isDisposed = false ∧ s.word.inFlight = 0 then [.free] else []
        ledger := l
        events := es
        sink := p
        trail := s.trail ++ [.disposal] }) := by
  obtain ⟨l, es, p, hrelease⟩ :=
    release_frame ctx ({ s with word := s.word.disposed }.mark .disposal)
  unfold dispose
  dsimp only
  by_cases hdisposed : s.word.isDisposed = true
  · simp only [hdisposed, if_true, Bool.true_eq_false, false_and, if_false, List.append_nil]
    exact ⟨_, _, _, rfl⟩
  · rw [Bool.not_eq_true] at hdisposed
    by_cases hidle : s.word.inFlight = 0
    · simp only [hdisposed, hidle, Bool.false_eq_true, if_true, if_false, and_self, hrelease]
      exact ⟨_, _, _, rfl⟩
    · simp only [hdisposed, hidle, Bool.false_eq_true, if_false, and_false, List.append_nil]
      exact ⟨_, _, _, rfl⟩

theorem store_frame (s : State) (side : Side) (n : UInt64) :
    ∃ v r, s.store side n = { s with variableCount := v, resultCount := r } := by
  cases side <;> exact ⟨_, _, rfl⟩

theorem adopt_frame {ctx : Context} {s s' : State} (adopted : adopt ctx s = (.ok (), s')) :
    ∃ es, s' = { s with events := es } := by
  unfold adopt at adopted
  split_ifs at adopted
  · cases adopted
  · cases adopted
    exact ⟨_, rfl⟩

def State.Recorded (s : State) : Prop := ∀ p ∈ s.nested, ∀ a ∈ p.2, Mark.answered a ∈ s.trail

variable {α β : Type} {I : ℕ → State → Prop} {ctx : Context} {inside : Reentry} {d n : ℕ}
  {s s' s'' : State}

/-- What is known of `s'`, to which the state `s` has led and in which `d` operations are open. -/
structure Later (I : ℕ → State → Prop) (d : ℕ) (s s' : State) : Prop where
  holds : I d s'
  grown : s.trail <+: s'.trail
  recorded : s'.Recorded

def Keeps (I : ℕ → State → Prop) (d : ℕ) (op : State → α × State) : Prop :=
  ∀ s, I d s → s.Recorded → Later I d s (op s).2

def Runs (I : ℕ → State → Prop) (d : ℕ) (run : State → List Answer × State) : Prop :=
  ∀ s, I d s → s.Recorded →
    Later I d s (run s).2 ∧ ∀ a ∈ (run s).1, Mark.answered a ∈ (run s).2.trail

namespace Later

theorem refl (holds : I d s) (recorded : s.Recorded) : Later I d s s :=
  ⟨holds, List.prefix_rfl, recorded⟩

theorem trans (h : Later I n s s') (h' : Later I d s' s'') : Later I d s s'' :=
  ⟨h'.holds, h.grown.trans h'.grown, h'.recorded⟩

theorem aside (later : Later I n s s') (holds : I d s'') (trail : s''.trail = s'.trail)
    (nested : s''.nested = s'.nested) : Later I d s s'' := by
  obtain ⟨-, grown, recorded⟩ := later
  refine ⟨holds, trail ▸ grown, ?_⟩
  unfold State.Recorded
  rw [trail, nested]
  exact recorded

theorem mark {m : Mark} (later : Later I n s s') (holds : I d s'')
    (trail : s''.trail = s'.trail ++ [m]) (nested : s''.nested = s'.nested) : Later I d s s'' := by
  obtain ⟨-, grown, recorded⟩ := later
  refine ⟨holds, trail ▸ grown.trans (List.prefix_append _ _), ?_⟩
  unfold State.Recorded
  rw [trail, nested]
  exact fun p hp a ha => List.mem_append_left _ (recorded p hp a ha)

theorem run {op : State → α × State} (later : Later I d s s') (h : Keeps I d op) :
    ∃ a s'', op s' = (a, s'') ∧ Later I d s s'' :=
  ⟨_, _, rfl, later.trans (h s' later.holds later.recorded)⟩

end Later

/-- A property that everything the facade does to its state keeps. -/
structure Stable (ctx : Context) (I : ℕ → State → Prop) : Prop where
  logged {d : ℕ} {s : State} (es : List Log.Event) : I d s → I d { s with events := es }
  nested {d : ℕ} {s : State} (n : List (Place × List Answer)) : I d s → I d { s with nested := n }
  sink {d : ℕ} {s : State} (p : Option Payload) : I d s → I d { s with sink := p }
  stored {d : ℕ} {s : State} (side : Side) (n : UInt64) : I d s → I d (s.store side n)
  opened {d : ℕ} {s : State} {w : Guard.Word} : s.word.enter? = some w → I d s →
    I (d + 1) ({ s with word := w }.mark .opened)
  called {d : ℕ} {s : State} {e : Export} : e ≠ .free → I (d + 1) s →
    I (d + 1) { s with calls := s.calls ++ [e] }
  concluded {d : ℕ} {s : State} {α : Type} (entryPoint : String) (reply : Reply α) :
    I (d + 1) s → I (d + 1) (check ctx entryPoint (endCall reply s).1 (endCall reply s).2).2
  left {d : ℕ} {s : State} : I (d + 1) s → I d (leave ctx s)
  disposed {d : ℕ} {s : State} : I d s → I d (dispose ctx s).2
  answered {d : ℕ} {s : State} (r : Result) : I d s → s.Recorded →
    I d (s.mark (.answered (s.answer r)))

namespace Stable

section

variable (stable : Stable ctx I)

include stable

theorem log (later : Later I d s s') (es : List Log.Event) :
    Later I d s { s' with events := es } :=
  later.aside (stable.logged es later.holds) rfl rfl

theorem emit (later : Later I d s s') (e : Log.Event) : Later I d s (s'.emit e) :=
  stable.log later _

theorem store (later : Later I d s s') (side : Side) (n : UInt64) :
    Later I d s (s'.store side n) := by
  obtain ⟨v, r, h⟩ := store_frame s' side n
  exact later.aside (stable.stored side n later.holds) (by rw [h]) (by rw [h])

theorem enter {w : Guard.Word} (entered : s'.word.enter? = some w) (later : Later I d s s') :
    Later I (d + 1) s ({ s' with word := w }.mark .opened) :=
  later.mark (stable.opened entered later.holds) rfl rfl

theorem leave (later : Later I (d + 1) s s') : Later I d s (Facade.leave ctx s') := by
  obtain ⟨l, es, p, hleave⟩ := leave_frame ctx s'
  exact later.mark (stable.left later.holds) (by rw [hleave]) (by rw [hleave])

theorem dispose (later : Later I d s s') : Later I d s (Facade.dispose ctx s').2 := by
  obtain ⟨l, es, p, hdispose⟩ := dispose_frame ctx s'
  exact later.mark (stable.disposed later.holds) (by rw [hdispose]) (by rw [hdispose])

theorem guarded {op : State → α × State} (refused : Error → α) (h : Keeps I (d + 1) op) :
    Keeps I d (guarded ctx refused op) := by
  intro s holds recorded
  unfold Facade.guarded
  cases hw : s.word.enter? with
  | none => exact .refl holds recorded
  | some w =>
    have hopened := stable.emit (stable.enter hw (.refl holds recorded))
      (guardEvent ctx .trace "guarded call" [])
    obtain ⟨a, s₁, hop, later⟩ := hopened.run h
    simp only [hop]
    exact stable.leave later

theorem collect {run : State → List Answer × State} (h : Runs I d run) (place : Place)
    (later : Later I d s s') : Later I d s (inPlace place run s') := by
  obtain ⟨hrun, answered⟩ := h s' later.holds later.recorded
  refine later.trans ⟨stable.nested _ hrun.holds, hrun.grown, ?_⟩
  intro p hp a ha
  rcases List.mem_append.mp hp with hp | hp
  · exact hrun.recorded p hp a ha
  · obtain rfl := List.mem_singleton.mp hp
    exact answered a ha

theorem beginCall {e : Export} (he : e ≠ .free) (hin : ∀ steps, Runs I (d + 1) (inside steps))
    (f : Nat → Reply α) : Keeps I (d + 1) (beginCall inside e f) := by
  intro s holds recorded
  have hcalled : Later I (d + 1) s { s with calls := s.calls ++ [e] } :=
    (Later.refl holds recorded).aside (stable.called he holds) rfl rfl
  unfold Facade.beginCall
  generalize f (s.calls.count e) = reply
  obtain ⟨steps, es, written, result⟩ := reply
  cases steps with
  | nil => exact stable.log hcalled _
  | cons step rest => exact stable.log (stable.collect (hin (step :: rest)) (.engine e) hcalled) _

theorem conclude (entryPoint : String) (reply : Reply α) (later : Later I (d + 1) s s') :
    ∃ returned s₁ checked s₂, endCall reply s' = (returned, s₁) ∧
      check ctx entryPoint returned s₁ = (checked, s₂) ∧ Later I (d + 1) s s₂ := by
  have hconcluded := stable.concluded entryPoint reply later.holds
  obtain ⟨l, hend⟩ := endCall_frame reply s'
  generalize endCall reply s' = r at hconcluded hend ⊢
  obtain ⟨returned, s₁⟩ := r
  obtain rfl : s₁ = { s' with ledger := l } := hend
  obtain ⟨l', es, hcheck⟩ := check_frame ctx entryPoint returned { s' with ledger := l }
  dsimp only at hconcluded
  generalize hc : check ctx entryPoint returned { s' with ledger := l } = c at hconcluded hcheck
  obtain ⟨checked, s₂⟩ := c
  obtain rfl : s₂ = { s' with ledger := l', events := es } := hcheck
  exact ⟨_, _, _, _, rfl, hc, later.aside hconcluded rfl rfl⟩

theorem isLwt (hin : ∀ steps, Runs I (d + 1) (inside steps)) :
    Keeps I d (isLwt ctx inside) := by
  refine stable.guarded _ fun s holds recorded => ?_
  obtain ⟨reply, s₁, hbegin, later₁⟩ := (Later.refl holds recorded).run
    (stable.beginCall (e := .isLwt) nofun hin ctx.table.isLwt)
  obtain ⟨returned, s₂, checked, s₃, hend, hcheck, later₃⟩ :=
    stable.conclude Export.isLwt.symbol reply later₁
  simp only [hbegin, hend, hcheck]
  cases checked with
  | error e => exact later₃
  | ok =>
    cases Abi.decodeBool (reply.written.getD 0) with
    | some b => exact later₃
    | none => exact later₃

theorem statementId (hin : ∀ steps, Runs I (d + 1) (inside steps)) :
    Keeps I d (statementId ctx inside) := by
  refine stable.guarded _ fun s holds recorded => ?_
  obtain ⟨reply, s₁, hbegin, later₁⟩ := (Later.refl holds recorded).run
    (stable.beginCall (e := .id) nofun hin ctx.table.id)
  obtain ⟨returned, s₂, checked, s₃, hend, hcheck, later₃⟩ :=
    stable.conclude Export.id.symbol reply later₁
  simp only [hbegin, hend, hcheck]
  cases checked with
  | error e => exact later₃
  | ok =>
    dsimp only
    split_ifs
    · exact later₃
    · exact later₃

theorem columnCount (hin : ∀ steps, Runs I (d + 1) (inside steps)) (side : Side) :
    Keeps I d (columnCount ctx inside side) := by
  refine stable.guarded _ fun s holds recorded => ?_
  cases s.cached side with
  | some n => exact .refl holds recorded
  | none =>
    obtain ⟨reply, s₁, hbegin, later₁⟩ := (Later.refl holds recorded).run
      (stable.beginCall (e := .count side) nofun hin (ctx.table.count side))
    obtain ⟨returned, s₂, checked, s₃, hend, hcheck, later₃⟩ :=
      stable.conclude (Export.count side).symbol reply later₁
    simp only [hbegin, hend, hcheck]
    cases checked with
    | error e => exact later₃
    | ok => exact stable.store (stable.emit later₃ _) side _

omit stable in
theorem accept {μ : Type} {visitor : Visitor μ}
    (hvisitor : ∀ index column memory, Keeps I d (visitor index column memory))
    (entryPoint : String) (delivery : Delivery) (got : Delivered μ) :
    Keeps I d (accept entryPoint visitor delivery got) := by
  intro s holds recorded
  unfold Facade.accept
  split_ifs
  · exact .refl holds recorded
  · cases examine got.next delivery with
    | error detail => exact .refl holds recorded
    | ok column => exact hvisitor got.next column got.memory s holds recorded

omit stable in
theorem deliver {μ : Type} {visitor : Visitor μ}
    (hvisitor : ∀ index column memory, Keeps I d (visitor index column memory))
    (entryPoint : String) (deliveries : List Delivery) (got : Delivered μ) :
    Keeps I d (deliver entryPoint visitor deliveries got) := by
  induction deliveries generalizing got with
  | nil => exact fun s holds recorded => .refl holds recorded
  | cons delivery rest ih =>
    intro s holds recorded
    obtain ⟨got', s₁, haccept, later⟩ := (Later.refl holds recorded).run
      (accept hvisitor entryPoint delivery got)
    simp only [Facade.deliver, haccept]
    exact later.trans (ih got' s₁ later.holds later.recorded)

theorem fill {μ : Type} (hin : ∀ steps, Runs I (d + 1) (inside steps)) (side : Side)
    {visitor : Visitor μ}
    (hvisitor : ∀ index column memory, Keeps I (d + 1) (visitor index column memory))
    (memory : μ) : Keeps I d (fill ctx inside side visitor memory) := by
  refine stable.guarded _ fun s holds recorded => ?_
  obtain ⟨reply, s₁, hbegin, later₁⟩ := (Later.refl holds recorded).run
    (stable.beginCall (e := .fill side) nofun hin (ctx.table.fill side))
  obtain ⟨got, s₂, hdeliver, later₂⟩ := later₁.run
    (deliver hvisitor (Export.fill side).symbol (reply.written.getD []) (.start memory))
  obtain ⟨returned, s₃, checked, s₄, hend, hcheck, later₄⟩ :=
    stable.conclude (Export.fill side).symbol reply later₂
  simp only [hbegin, hdeliver, hend, hcheck]
  exact later₄

theorem columnSpecs (hin : ∀ steps, Runs I (d + 1) (inside steps)) (side : Side) :
    Keeps I d (columnSpecs ctx inside side) :=
  stable.fill hin side (fun _ _ _ _ => .refl) []

theorem runQuery (hin : ∀ steps, Runs I (d + 1) (inside steps)) (q : Query) :
    Keeps I d (runQuery ctx inside q) := by
  cases q with
  | isLwt => exact stable.isLwt hin
  | count side => exact stable.columnCount hin side
  | specs side => exact stable.columnSpecs hin side
  | id => exact stable.statementId hin

theorem disposeStatement (later : Later I d s s') :
    Later I d s (disposeStatement ctx s') := by
  have h := stable.dispose later
  unfold Facade.disposeStatement
  generalize Facade.dispose ctx s' = r at h ⊢
  obtain ⟨first, s₁⟩ := r
  cases first with
  | true => exact stable.emit h _
  | false => exact h

theorem quietly {op : State → α × State} (h : Keeps I d op) : Keeps I d (quietly op) := by
  intro s holds recorded
  obtain ⟨a, s₁, hop, later⟩ := (Later.refl holds recorded).run h
  simp only [Facade.quietly, hop]
  refine ⟨stable.nested s.nested (stable.logged s.events later.holds), later.grown, ?_⟩
  exact fun p hp a ha => later.grown.subset (recorded p hp a ha)

theorem repeatQuery (hin : ∀ steps, Runs I (d + 1) (inside steps)) (q : Query)
    (expected : Outcome Reading → Bool) (n : ℕ) :
    Keeps I d (repeatQuery ctx inside q expected n) := by
  induction n with
  | zero => exact fun s holds recorded => .refl holds recorded
  | succ n ih =>
    intro s holds recorded
    obtain ⟨o, s₁, hquery, later₁⟩ :=
      (Later.refl holds recorded).run (stable.quietly (stable.runQuery hin q))
    obtain ⟨unexpected, s₂, hrest, later₂⟩ := later₁.run ih
    simp only [Facade.repeatQuery, hquery, hrest]
    exact later₂

theorem race (hin : ∀ steps, Runs I (d + 1) (inside steps)) (q : Query) (threads calls : ℕ)
    (disposing : Bool) : Keeps I d (race ctx inside q threads calls disposing) := by
  intro s holds recorded
  obtain ⟨each, s₁, hquery, later₁⟩ :=
    (Later.refl holds recorded).run (stable.runQuery hin q)
  obtain ⟨unexpected, s₂, hrest, later₂⟩ := later₁.run (stable.repeatQuery hin q
    (fun o => o == each || (disposing && isRefusal o)) (threads * calls))
  simp only [Facade.race, hquery, hrest]
  split_ifs
  · have hdispose : Keeps I d fun s => ((), Facade.disposeStatement ctx s) :=
      fun s holds recorded => stable.disposeStatement (.refl holds recorded)
    exact later₂.trans (stable.quietly hdispose s₂ later₂.holds later₂.recorded)
  · exact later₂

theorem asStep {op : State → Result × State} (h : Keeps I d op) (holds : I d s)
    (recorded : s.Recorded) :
    Later I d s (asStep op s).2 ∧ Mark.answered (asStep op s).1 ∈ (asStep op s).2.trail := by
  have hempty : State.Recorded { s with nested := [] } := nofun
  obtain ⟨result, s₁, hop, later⟩ := (Later.refl (stable.nested [] holds) hempty).run h
  simp only [Facade.asStep, hop]
  have hanswered := stable.answered result later.holds later.recorded
  refine ⟨⟨stable.nested s.nested hanswered, later.grown.trans (List.prefix_append _ _), ?_⟩, ?_⟩
  · exact fun p hp a ha => List.mem_append_left _ (later.grown.subset (recorded p hp a ha))
  · exact List.mem_append_right _ List.mem_cons_self

end

theorem observe (r : State → Reading) : Keeps I d (observe r) :=
  fun _ holds recorded => .refl holds recorded

mutual

theorem runStep (stable : Stable ctx I) (hin : ∀ d steps, Runs I d (inside steps)) :
    ∀ (step : Step) (d : ℕ) (s : State), I d s → s.Recorded →
      Later I d s (runStep ctx inside step s).2 ∧
        Mark.answered (runStep ctx inside step s).1 ∈ (runStep ctx inside step s).2.trail
  | .query q, d, s, holds, recorded => by
    unfold Facade.runStep
    refine stable.asStep (fun s holds recorded => ?_) holds recorded
    exact stable.runQuery (hin (d + 1)) q s holds recorded
  | .fill side visits, d, s, holds, recorded => by
    unfold Facade.runStep
    refine stable.asStep (fun s holds recorded => ?_) holds recorded
    refine stable.fill (hin (d + 1)) side (fun index column seen => ?_) [] s holds recorded
    exact runVisit stable hin visits index (d + 1)
  | .race q threads calls disposing, d, s, holds, recorded => by
    unfold Facade.runStep
    exact stable.asStep (stable.race (hin (d + 1)) q threads calls disposing) holds recorded
  | .dispose, d, s, holds, recorded => by
    unfold Facade.runStep
    refine stable.asStep (fun s holds recorded => ?_) holds recorded
    exact stable.disposeStatement (.refl holds recorded)
  | .debug, d, s, holds, recorded => by
    unfold Facade.runStep
    exact stable.asStep (observe _) holds recorded
  | .call body panic result, d, s, holds, recorded => by
    unfold Facade.runStep
    refine stable.asStep (stable.guarded _ fun s holds recorded => ?_) holds recorded
    exact stable.collect (runSteps stable hin body (d + 1)) .body (.refl holds recorded)
  | .disposeGuard, d, s, holds, recorded => by
    unfold Facade.runStep
    refine stable.asStep (fun s holds recorded => ?_) holds recorded
    exact stable.dispose (.refl holds recorded)
  | .debugGuard, d, s, holds, recorded => by
    unfold Facade.runStep
    exact stable.asStep (observe _) holds recorded
  | .inFlight, d, s, holds, recorded => by
    unfold Facade.runStep
    exact stable.asStep (observe _) holds recorded
  | .isDisposed, d, s, holds, recorded => by
    unfold Facade.runStep
    exact stable.asStep (observe _) holds recorded
  | .origin, d, s, holds, recorded => by
    unfold Facade.runStep
    exact stable.asStep (observe _) holds recorded
  | .sinkPanics p step, d, s, holds, recorded => by
    have hsink : Later I d s { s with sink := some p } :=
      (Later.refl holds recorded).aside (stable.sink (some p) holds) rfl rfl
    obtain ⟨later, answered⟩ := runStep stable hin step d _ hsink.holds hsink.recorded
    have hrun := hsink.trans later
    unfold Facade.runStep
    exact ⟨hrun.aside (stable.sink s.sink hrun.holds) rfl rfl, answered⟩

theorem runSteps (stable : Stable ctx I) (hin : ∀ d steps, Runs I d (inside steps)) :
    ∀ (steps : List Step) (d : ℕ), Runs I d (runSteps ctx inside steps)
  | [], d => fun s holds recorded => ⟨.refl holds recorded, nofun⟩
  | step :: rest, d => fun s holds recorded => by
    obtain ⟨later₁, answered₁⟩ := runStep stable hin step d s holds recorded
    obtain ⟨later₂, answered₂⟩ := runSteps stable hin rest d _ later₁.holds later₁.recorded
    unfold Facade.runSteps
    refine ⟨later₁.trans later₂, fun a ha => ?_⟩
    rcases List.mem_cons.mp ha with rfl | ha
    · exact later₂.grown.subset answered₁
    · exact answered₂ a ha

theorem runVisit (stable : Stable ctx I) (hin : ∀ d steps, Runs I d (inside steps)) :
    ∀ (visits : List Visit) (index d : ℕ), Keeps I d (runVisit ctx inside visits index)
  | [], index, d => fun s holds recorded => .refl holds recorded
  | .mk column body panic :: rest, index, d => fun s holds recorded => by
    unfold Facade.runVisit
    split_ifs
    · exact stable.collect (runSteps stable hin body d) (.column index) (.refl holds recorded)
    · exact runVisit stable hin rest index d s holds recorded

end

section

variable (stable : Stable ctx I)

include stable

theorem reentry (depth d : ℕ) (steps : List Step) : Runs I d (reentry ctx depth steps) := by
  induction depth generalizing d steps with
  | zero => exact fun s holds recorded => ⟨.refl holds recorded, nofun⟩
  | succ depth ih => exact stable.runSteps ih steps d

theorem drop (sink : Option Payload) (session : Session) (holds : I 0 session.state)
    (recorded : session.state.Recorded) :
    Later I 0 session.state (session.drop ctx sink).state := by
  unfold Session.drop
  have hsink : Later I 0 session.state { session.state with sink := sink } :=
    (Later.refl holds recorded).aside (stable.sink sink holds) rfl rfl
  have hdispose := stable.dispose hsink
  split_ifs
  · exact hdispose.aside (stable.sink none hdispose.holds) rfl rfl
  · exact .refl holds recorded

theorem run (depth : ℕ) (command : Command) (session : Session) (holds : I 0 session.state)
    (recorded : session.state.Recorded) :
    Later I 0 session.state (session.run ctx depth command).2.state ∧
      ∀ a, (session.run ctx depth command).1 = .step a →
        Mark.answered a ∈ (session.run ctx depth command).2.state.trail := by
  cases command with
  | step step =>
    have hstep := stable.runStep (stable.reentry depth) step 0 session.state holds recorded
    unfold Session.run
    dsimp only
    split_ifs
    · refine ⟨hstep.1, fun a ha => ?_⟩
      cases ha
      exact hstep.2
    · exact ⟨.refl holds recorded, nofun⟩
  | drop sink => exact ⟨stable.drop sink session holds recorded, nofun⟩

theorem runAll (depth : ℕ) (commands : List Command) (session : Session)
    (holds : I 0 session.state) (recorded : session.state.Recorded) :
    Later I 0 session.state (session.runAll ctx depth commands).2.state ∧
      ∀ a, .step a ∈ (session.runAll ctx depth commands).1 →
        Mark.answered a ∈ (session.runAll ctx depth commands).2.state.trail := by
  induction commands generalizing session with
  | nil => exact ⟨.refl holds recorded, nofun⟩
  | cons command rest ih =>
    obtain ⟨later₁, answered₁⟩ := stable.run depth command session holds recorded
    obtain ⟨later₂, answered₂⟩ := ih _ later₁.holds later₁.recorded
    refine ⟨later₁.trans later₂, fun a ha => ?_⟩
    rcases List.mem_cons.mp ha with ha | ha
    · exact later₂.grown.subset (answered₁ a ha.symm)
    · exact answered₂ a ha

end

end Stable

end EngineBridge.Facade
