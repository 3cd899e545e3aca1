import EngineBridge.Proofs.Facade.Refinement

/-!
How steps are answered inside one another. What an answer has to tell is said over the tree of
steps alone: the depth at which a step stands is the number of operations that are open around it,
and a disposal counts from its own answer on. The word of the guard, which is all that the facade
looks at, comes to the same.
-/

namespace EngineBridge.Engine.Table

open Abi (Export)

def reenter (t : Table) : Export → ℕ → List Facade.Step
  | .isLwt, n => (t.isLwt n).reenter
  | .count side, n => (t.count side n).reenter
  | .fill side, n => (t.fill side n).reenter
  | .id, n => (t.id n).reenter
  | _, _ => []

end EngineBridge.Engine.Table

namespace EngineBridge.Facade

open Abi (Export Side)
open Engine (Delivery Reply Table)
open Guard (Word)

abbrev Nested := List (Place × List Answer)

/-- The answer of a step that stands inside `d` open operations, when a disposal has been made by
then or not. -/
def Answer.inside (d : ℕ) (disposed : Bool) (result : Result) (nested : Nested) : Answer :=
  .mk result disposed d (if disposed = true ∧ d = 0 then 1 else 0) nested

/-- How steps are answered that stand inside a number of open operations. The two flags tell whether
a disposal had been made before the first of them and has been made after the last one. -/
abbrev Account := ℕ → Bool → List Step → List Answer → Bool → Prop

inductive Asked (t : Table) (inner : Account) (e : Export) (d : ℕ) : Bool → Nested → Bool → Prop
  | silent {b : Bool} : Asked t inner e d b [] b
  | called {b b' : Bool} {n : ℕ} {steps : List Step} {answers : List Answer} :
      t.reenter e n = steps → inner d b steps answers b' →
      Asked t inner e d b [(.engine e, answers)] b'

/-- An operation that is refused after a disposal. Else it is open around all that it answers. -/
inductive Through (inner : Bool → Nested → Bool → Prop) : Bool → Nested → Bool → Prop
  | refused : Through inner true [] true
  | admitted {nested : Nested} {b : Bool} : inner false nested b → Through inner false nested b

abbrev Queried (ctx : Context) (inner : Account) (q : Query) (d : ℕ) :=
  Through (Asked ctx.table inner q.entry (d + 1))

inductive Repeated (ctx : Context) (inner : Account) (q : Query) (d : ℕ) : ℕ → Bool → Bool → Prop
  | zero {b : Bool} : Repeated ctx inner q d 0 b b
  | succ {n : ℕ} {b b' b'' : Bool} {nested : Nested} : Queried ctx inner q d b nested b' →
      Repeated ctx inner q d n b' b'' → Repeated ctx inner q d (n + 1) b b''

def bodyAt? (visits : List Visit) (index : ℕ) : Option (List Step) :=
  (visits.find? fun | .mk column _ _ => column == index).map fun | .mk _ body _ => body

mutual

/-- A step that stands inside `d` open operations is answered by `a`. -/
inductive Gives (ctx : Context) (inner : Account) : ℕ → Bool → Step → Answer → Bool → Prop
  | query {d : ℕ} {b b' : Bool} {q : Query} {r : Result} {nested : Nested} :
      Queried ctx inner q d b nested b' →
      Gives ctx inner d b (.query q) (.inside d b' r nested) b'
  | fillRefused {d : ℕ} {side : Side} {visits : List Visit} {r : Result} :
      Gives ctx inner d true (.fill side visits) (.inside d true r []) true
  | fill {d : ℕ} {b b' : Bool} {side : Side} {visits : List Visit} {r : Result}
      {asked columns : Nested} :
      Asked ctx.table inner (.fill side) (d + 1) false asked b →
      Visited ctx inner (d + 1) visits b columns b' →
      Gives ctx inner d false (.fill side visits) (.inside d b' r (asked ++ columns)) b'
  | callRefused {d : ℕ} {body : List Step} {panic : Option Payload}
      {result : Except Error String} {r : Result} :
      Gives ctx inner d true (.call body panic result) (.inside d true r []) true
  | call {d : ℕ} {b : Bool} {body : List Step} {panic : Option Payload}
      {result : Except Error String} {r : Result} {answers : List Answer} :
      GivesAll ctx inner (d + 1) false body answers b →
      Gives ctx inner d false (.call body panic result) (.inside d b r [(.body, answers)]) b
  | race {d threads calls : ℕ} {b b' b'' disposing : Bool} {q : Query} {r : Result}
      {nested : Nested} :
      Queried ctx inner q d b nested b' → Repeated ctx inner q d (threads * calls) b' b'' →
      Gives ctx inner d b (.race q threads calls disposing)
        (.inside d (b'' || disposing) r nested) (b'' || disposing)
  | dispose {d : ℕ} {b : Bool} :
      Gives ctx inner d b .dispose (.inside d true (.plain (.value .unit)) []) true
  | disposeGuard {d : ℕ} {b : Bool} :
      Gives ctx inner d b .disposeGuard (.inside d true (.plain (.value (.flag !b))) []) true
  | inFlight {d : ℕ} {b : Bool} :
      Gives ctx inner d b .inFlight (.inside d b (.plain (.value (.count d))) []) b
  | isDisposed {d : ℕ} {b : Bool} :
      Gives ctx inner d b .isDisposed (.inside d b (.plain (.value (.flag b))) []) b
  | debug {d : ℕ} {b : Bool} {r : Result} : Gives ctx inner d b .debug (.inside d b r []) b
  | debugGuard {d : ℕ} {b : Bool} {r : Result} :
      Gives ctx inner d b .debugGuard (.inside d b r []) b
  | origin {d : ℕ} {b : Bool} {r : Result} : Gives ctx inner d b .origin (.inside d b r []) b
  | sinkPanics {d : ℕ} {b b' : Bool} {p : Payload} {step : Step} {a : Answer} :
      Gives ctx inner d b step a b' → Gives ctx inner d b (.sinkPanics p step) a b'

inductive Visited (ctx : Context) (inner : Account) :
    ℕ → List Visit → Bool → Nested → Bool → Prop
  | nil {d : ℕ} {visits : List Visit} {b : Bool} : Visited ctx inner d visits b [] b
  | cons {d index : ℕ} {visits : List Visit} {b b' b'' : Bool} {body : List Step}
      {answers : List Answer} {rest : Nested} : bodyAt? visits index = some body →
      GivesAll ctx inner d b body answers b' → Visited ctx inner d visits b' rest b'' →
      Visited ctx inner d visits b ((.column index, answers) :: rest) b''

inductive GivesAll (ctx : Context) (inner : Account) :
    ℕ → Bool → List Step → List Answer → Bool → Prop
  | nil {d : ℕ} {b : Bool} : GivesAll ctx inner d b [] [] b
  | cons {d : ℕ} {b b' b'' : Bool} {step : Step} {steps : List Step} {a : Answer}
      {answers : List Answer} : Gives ctx inner d b step a b' →
      GivesAll ctx inner d b' steps answers b'' →
      GivesAll ctx inner d b (step :: steps) (a :: answers) b''

end

/-- How steps are answered that an engine asks for: those that it asks for at depth zero are not
run. -/
def account (ctx : Context) : ℕ → Account
  | 0 => fun _ b _ answers b' => answers = [] ∧ b' = b
  | depth + 1 => GivesAll ctx (account ctx depth)

/-- How a session is answered. Its owner holds the resource at first or not; whoever has dropped it
has disposed of it. -/
inductive Conducts (ctx : Context) (inner : Account) :
    Bool → Bool → List Command → List CommandAnswer → Prop
  | nil {held b : Bool} : Conducts ctx inner held b [] []
  | step {b b' : Bool} {step : Step} {a : Answer} {commands : List Command}
      {answers : List CommandAnswer} : Gives ctx inner 0 b step a b' →
      Conducts ctx inner true b' commands answers →
      Conducts ctx inner true b (.step step :: commands) (.step a :: answers)
  | gone {step : Step} {commands : List Command} {answers : List CommandAnswer} :
      Conducts ctx inner false true commands answers →
      Conducts ctx inner false true (.step step :: commands) (.gone 1 :: answers)
  | dropped {held b : Bool} {sink : Option Payload} {commands : List Command}
      {answers : List CommandAnswer} : Conducts ctx inner false true commands answers →
      Conducts ctx inner held b (.drop sink :: commands) (.dropped 1 :: answers)

variable {α β μ : Type} {ctx : Context} {inside : Reentry} {inner : Account} {d : ℕ} {s s' : State}
  {R V : Bool → Nested → Bool → Prop}

def Between (R : Bool → Nested → Bool → Prop) (s s' : State) : Prop :=
  ∃ nested, s'.nested = s.nested ++ nested ∧ R s.word.isDisposed nested s'.word.isDisposed

structure Recounts (d : ℕ) (R : Bool → Nested → Bool → Prop) (op : State → α × State) : Prop where
  keeps : Keeps Sane d op
  between : ∀ s, Sane d s → s.Recorded → Shallow (op s).2.trail → Between R s (op s).2

structure Accounts (d : ℕ) (R : Bool → List Answer → Bool → Prop)
    (run : State → List Answer × State) : Prop where
  runs : Runs Sane d run
  gives : ∀ s, Sane d s → s.Recorded → Shallow (run s).2.trail →
    (run s).2.nested = s.nested ∧ R s.word.isDisposed (run s).1 (run s).2.word.isDisposed

def Meets (inside : Reentry) (inner : Account) : Prop :=
  ∀ d steps, Accounts d (fun b => inner d b steps) (inside steps)

theorem conclude_frame (ctx : Context) (entryPoint : String) (reply : Reply α) (s : State) :
    ∃ returned s₁ checked l es, endCall reply s = (returned, s₁) ∧
      check ctx entryPoint returned s₁ = (checked, { s with ledger := l, events := es }) := by
  obtain ⟨l, hend⟩ := endCall_frame reply s
  obtain ⟨returned, s₁, hreturned⟩ : ∃ returned s₁, endCall reply s = (returned, s₁) :=
    ⟨_, _, rfl⟩
  rw [hreturned] at hend
  obtain rfl : s₁ = { s with ledger := l } := hend
  obtain ⟨l', es, hcheck⟩ := check_frame ctx entryPoint returned { s with ledger := l }
  exact ⟨_, _, _, _, _, hreturned, Prod.ext rfl hcheck⟩

def Trails (s s' : State) : Prop :=
  ∃ l es v r, s' = { s with ledger := l, events := es, variableCount := v, resultCount := r }

def Nothing : Bool → Nested → Bool → Prop := fun b nested b' => nested = [] ∧ b' = b

def Then (R V : Bool → Nested → Bool → Prop) : Bool → Nested → Bool → Prop :=
  fun b nested b'' => ∃ first second b', nested = first ++ second ∧ R b first b' ∧ V b' second b''

namespace Recounts

theorem guarded {op : State → α × State} (refused : Error → α) (h : Recounts (d + 1) R op) :
    Recounts d (Through R) (guarded ctx refused op) where
  keeps := (stable_sane ctx).guarded refused h.keeps
  between s sane recorded shallow := by
    cases hdisposed : s.word.isDisposed with
    | true =>
      rw [guarded_of_disposed hdisposed]
      refine ⟨[], (List.append_nil _).symm, ?_⟩
      rw [hdisposed]
      exact .refused
    | false =>
      have admitted := (stable_sane ctx).admitted hdisposed sane recorded
      have later := h.keeps _ admitted.holds admitted.recorded
      obtain ⟨a, s₁, hop⟩ : ∃ a s₁, op (s.admitted ctx) = (a, s₁) := ⟨_, _, rfl⟩
      have hbetween := h.between _ admitted.holds admitted.recorded
      rw [guarded_of_live hdisposed hop] at shallow ⊢
      rw [hop] at later hbetween
      dsimp only at shallow later hbetween ⊢
      rw [leave_trail] at shallow
      have hshallow := shallow.of_concat
      obtain ⟨nested, hnested, hR⟩ := hbetween hshallow
      have hlive := sane.admitted_live ctx hdisposed (hshallow.of_prefix later.grown)
      have hcount := (later.holds hshallow).counted
      rw [hlive] at hR
      obtain ⟨l, es, p, hleave⟩ := leave_frame ctx s₁
      refine ⟨nested, ?_, ?_⟩
      · rw [hleave]
        exact hnested
      · rw [hdisposed, leave_isDisposed ctx (by omega)]
        exact .admitted hR

theorem of_forall {op : State → α × State}
    (h : ∀ s, Sane d s → s.Recorded → Later Sane d s (op s).2 ∧
      (Shallow (op s).2.trail → Between R s (op s).2)) : Recounts d R op :=
  ⟨fun s sane recorded => (h s sane recorded).1, fun s sane recorded => (h s sane recorded).2⟩

theorem mono {R' : Bool → Nested → Bool → Prop} {op : State → α × State} (h : Recounts d R op)
    (hR : ∀ {b nested b'}, R b nested b' → R' b nested b') : Recounts d R' op where
  keeps := h.keeps
  between s sane recorded shallow := by
    obtain ⟨nested, hnested, hb⟩ := h.between s sane recorded shallow
    exact ⟨nested, hnested, hR hb⟩

theorem andThen {op : State → α × State} {next : α → State → β × State} (h : Recounts d R op)
    (hnext : ∀ a, Recounts d V (next a)) : Recounts d (Then R V) (andThen op next) where
  keeps := h.keeps.andThen fun a => (hnext a).keeps
  between s sane recorded shallow := by
    have later := h.keeps s sane recorded
    have hgrown := ((hnext (op s).1).keeps _ later.holds later.recorded).grown
    obtain ⟨first, hfirst, hR⟩ := h.between s sane recorded (shallow.of_prefix hgrown)
    obtain ⟨second, hsecond, hV⟩ :=
      (hnext (op s).1).between _ later.holds later.recorded shallow
    refine ⟨first ++ second, ?_, first, second, _, rfl, hR, hV⟩
    rw [← List.append_assoc, ← hfirst]
    exact hsecond

theorem follow {first : State → α × State} (h : Recounts d R first) (sane : Sane d s)
    (recorded : s.Recorded) (trails : Trails (first s).2 s') :
    Later Sane d s s' ∧ (Shallow s'.trail → Between R s s') := by
  obtain ⟨l, es, v, r, rfl⟩ := trails
  have later := h.keeps s sane recorded
  exact ⟨later.aside (later.holds.of_eq rfl rfl rfl) rfl rfl, h.between s sane recorded⟩

theorem trails {first : State → α × State} {op : State → β × State} (h : Recounts d R first)
    (hop : ∀ s, Trails (first s).2 (op s).2) : Recounts d R op :=
  .of_forall fun s sane recorded => h.follow sane recorded (hop s)

theorem pure (a : α) : Recounts d Nothing fun s => (a, s) where
  keeps _ sane recorded := .refl sane recorded
  between _ _ _ _ := ⟨[], (List.append_nil _).symm, rfl, rfl⟩

theorem quietly (ctx : Context) {op : State → α × State} (h : Recounts d R op) :
    Recounts d (fun b nested b' => nested = [] ∧ ∃ hidden, R b hidden b') (quietly op) where
  keeps := (stable_sane ctx).quietly h.keeps
  between s sane recorded shallow := by
    obtain ⟨hidden, -, hR⟩ := h.between s sane recorded shallow
    exact ⟨[], (List.append_nil _).symm, rfl, hidden, hR⟩

theorem beginCall (meets : Meets inside inner) {e : Export} (he : e ≠ .free) {f : ℕ → Reply α}
    (hf : ∀ n, (f n).reenter = ctx.table.reenter e n) :
    Recounts (d + 1) (Asked ctx.table inner e (d + 1)) (beginCall inside e f) where
  keeps := (stable_sane ctx).beginCall he (fun steps => (meets (d + 1) steps).runs) f
  between s sane recorded shallow := by
    have hsteps := hf (s.calls.count e)
    unfold Facade.beginCall at shallow ⊢
    generalize f (s.calls.count e) = reply at hsteps shallow ⊢
    obtain ⟨steps, es, written, result⟩ := reply
    dsimp only at hsteps
    cases steps with
    | nil => exact ⟨[], (List.append_nil _).symm, .silent⟩
    | cons step rest =>
      obtain ⟨hnested, hinner⟩ :=
        (meets (d + 1) (step :: rest)).gives _ (sane.called he) recorded shallow
      exact ⟨[(.engine e, _)], congrArg (· ++ _) hnested, .called hsteps.symm hinner⟩

theorem isLwt (meets : Meets inside inner) :
    Recounts d (Queried ctx inner .isLwt d) (isLwt ctx inside) := by
  refine guarded _ ((beginCall meets (e := .isLwt) nofun fun _ => rfl).trails fun s => ?_)
  generalize Facade.beginCall inside .isLwt ctx.table.isLwt s = begun
  obtain ⟨reply, s₁⟩ := begun
  obtain ⟨returned, s₂, checked, l, es, hend, hcheck⟩ :=
    conclude_frame ctx Export.isLwt.symbol reply s₁
  simp only [hend, hcheck]
  cases checked with
  | error e => exact ⟨_, _, _, _, rfl⟩
  | ok =>
    cases Abi.decodeBool (reply.written.getD 0) with
    | some b => exact ⟨_, _, _, _, rfl⟩
    | none => exact ⟨_, _, _, _, rfl⟩

theorem statementId (meets : Meets inside inner) :
    Recounts d (Queried ctx inner .id d) (statementId ctx inside) := by
  refine guarded _ ((beginCall meets (e := .id) nofun fun _ => rfl).trails fun s => ?_)
  generalize Facade.beginCall inside .id ctx.table.id s = begun
  obtain ⟨reply, s₁⟩ := begun
  obtain ⟨returned, s₂, checked, l, es, hend, hcheck⟩ :=
    conclude_frame ctx Export.id.symbol reply s₁
  simp only [hend, hcheck]
  cases checked with
  | error e => exact ⟨_, _, _, _, rfl⟩
  | ok =>
    dsimp only
    split_ifs
    · exact ⟨_, _, _, _, rfl⟩
    · exact ⟨_, _, _, _, rfl⟩

theorem columnCount (meets : Meets inside inner) (side : Side) :
    Recounts d (Queried ctx inner (.count side) d) (columnCount ctx inside side) := by
  have hcall : Recounts (d + 1) (Asked ctx.table inner (.count side) (d + 1))
      (Facade.beginCall inside (.count side) (ctx.table.count side)) :=
    beginCall meets (e := .count side) nofun fun _ => rfl
  refine guarded _ (.of_forall fun s sane recorded => ?_)
  cases hcached : s.cached side with
  | some n => exact ⟨.refl sane recorded, fun _ => ⟨[], (List.append_nil _).symm, .silent⟩⟩
  | none =>
    refine hcall.follow sane recorded ?_
    generalize Facade.beginCall inside (.count side) (ctx.table.count side) s = begun
    obtain ⟨reply, s₁⟩ := begun
    obtain ⟨returned, s₂, checked, l, es, hend, hcheck⟩ :=
      conclude_frame ctx (Export.count side).symbol reply s₁
    simp only [hend, hcheck]
    cases checked with
    | error e => exact ⟨_, _, _, _, rfl⟩
    | ok =>
      obtain ⟨v, r, hstore⟩ := store_frame _ side (reply.written.getD 0)
      dsimp only
      rw [hstore]
      exact ⟨_, _, _, _, rfl⟩

structure Additive (V : Bool → Nested → Bool → Prop) : Prop where
  nil : ∀ {b}, V b [] b
  append : ∀ {b b' b'' first second}, V b first b' → V b' second b'' → V b (first ++ second) b''

theorem accept {visitor : Visitor μ} (additive : Additive V)
    (hvisitor : ∀ index column memory, Recounts d V (visitor index column memory))
    (entryPoint : String) (delivery : Delivery) (got : Delivered μ) :
    Recounts d V (accept entryPoint visitor delivery got) := by
  refine .of_forall fun s sane recorded => ?_
  have skipped : Later Sane d s s ∧ (Shallow s.trail → Between V s s) :=
    ⟨.refl sane recorded, fun _ => ⟨[], (List.append_nil _).symm, additive.nil⟩⟩
  unfold Facade.accept
  split_ifs
  · exact skipped
  · cases examine got.next delivery with
    | error detail => exact skipped
    | ok column =>
      have h := hvisitor got.next column got.memory
      exact ⟨h.keeps s sane recorded, h.between s sane recorded⟩

theorem deliver {visitor : Visitor μ} (additive : Additive V)
    (hvisitor : ∀ index column memory, Recounts d V (visitor index column memory))
    (entryPoint : String) (deliveries : List Delivery) (got : Delivered μ) :
    Recounts d V (deliver entryPoint visitor deliveries got) := by
  induction deliveries generalizing got with
  | nil =>
    refine (pure got).mono ?_
    rintro b nested b' ⟨rfl, rfl⟩
    exact additive.nil
  | cons delivery rest ih =>
    have h := (accept additive hvisitor entryPoint delivery got).andThen ih
    refine h.mono ?_
    rintro b nested b'' ⟨first, second, b', rfl, hfirst, hsecond⟩
    exact additive.append hfirst hsecond

theorem fill {visitor : Visitor μ} (meets : Meets inside inner) (side : Side)
    (additive : Additive V)
    (hvisitor : ∀ index column memory, Recounts (d + 1) V (visitor index column memory))
    (memory : μ) :
    Recounts d (Through (Then (Asked ctx.table inner (.fill side) (d + 1)) V))
      (fill ctx inside side visitor memory) := by
  have hcall : Recounts (d + 1) (Asked ctx.table inner (.fill side) (d + 1))
      (Facade.beginCall inside (.fill side) (ctx.table.fill side)) :=
    beginCall meets (e := .fill side) nofun fun _ => rfl
  have hdeliver := hcall.andThen fun reply => deliver additive hvisitor (Export.fill side).symbol
    (reply.written.getD []) (.start memory)
  refine guarded _ (hdeliver.trails fun s => ?_)
  simp only [Facade.andThen]
  generalize Facade.beginCall inside (.fill side) (ctx.table.fill side) s = begun
  obtain ⟨reply, s₁⟩ := begun
  generalize Facade.deliver (Export.fill side).symbol visitor (reply.written.getD [])
    (.start memory) s₁ = delivered
  obtain ⟨got, s₂⟩ := delivered
  obtain ⟨returned, s₃, checked, l, es, hend, hcheck⟩ :=
    conclude_frame ctx (Export.fill side).symbol reply s₂
  simp only [hend, hcheck]
  exact ⟨_, _, _, _, rfl⟩

theorem columnSpecs (meets : Meets inside inner) (side : Side) :
    Recounts d (Queried ctx inner (.specs side) d) (columnSpecs ctx inside side) := by
  have additive : Additive Nothing :=
    ⟨⟨rfl, rfl⟩, by rintro b b' b'' first second ⟨rfl, rfl⟩ ⟨rfl, rfl⟩; exact ⟨rfl, rfl⟩⟩
  have hfill : Recounts d (Through (Then (Asked ctx.table inner (.fill side) (d + 1)) Nothing))
      (Facade.fill ctx inside side collector []) :=
    fill meets side additive (fun _ column columns => pure (none, columns ++ [column])) []
  have hspecs : Recounts d _ (Facade.columnSpecs ctx inside side) :=
    hfill.trails fun s => ⟨_, _, _, _, rfl⟩
  refine hspecs.mono fun h => ?_
  cases h with
  | refused => exact .refused
  | admitted h =>
    obtain ⟨first, second, b₁, rfl, hasked, rfl, rfl⟩ := h
    rw [List.append_nil]
    exact .admitted hasked

theorem runQuery (meets : Meets inside inner) (q : Query) :
    Recounts d (Queried ctx inner q d) (runQuery ctx inside q) := by
  cases q with
  | isLwt => exact (isLwt meets).trails fun s => ⟨_, _, _, _, rfl⟩
  | count side => exact (columnCount meets side).trails fun s => ⟨_, _, _, _, rfl⟩
  | specs side => exact (columnSpecs meets side).trails fun s => ⟨_, _, _, _, rfl⟩
  | id => exact (statementId meets).trails fun s => ⟨_, _, _, _, rfl⟩

theorem observe (r : State → Reading) : Recounts d Nothing (observe r) where
  keeps := Stable.observe r
  between _ _ _ _ := ⟨[], (List.append_nil _).symm, rfl, rfl⟩

theorem repeatQuery (meets : Meets inside inner) (q : Query)
    (expected : Outcome Reading → Bool) (n : ℕ) :
    Recounts d (fun b nested b' => nested = [] ∧ Repeated ctx inner q d n b b')
      (repeatQuery ctx inside q expected n) := by
  induction n with
  | zero =>
    refine (pure 0).mono ?_
    rintro b nested b' ⟨rfl, rfl⟩
    exact ⟨rfl, .zero⟩
  | succ n ih =>
    have hall : Recounts d _ (Facade.repeatQuery ctx inside q expected (n + 1)) :=
      (((runQuery meets q).quietly ctx).andThen fun _ => ih).trails fun s => ⟨_, _, _, _, rfl⟩
    refine hall.mono ?_
    rintro b nested b'' ⟨first, second, b', rfl, ⟨rfl, hidden, hfirst⟩, rfl, hrest⟩
    exact ⟨rfl, .succ hfirst hrest⟩

theorem dispose (ctx : Context) :
    Recounts d (fun _ nested b' => nested = [] ∧ b' = true) (dispose ctx) where
  keeps s sane recorded := (stable_sane ctx).dispose (.refl sane recorded)
  between s _ _ _ := by
    obtain ⟨l, es, p, hdispose⟩ := dispose_frame ctx s
    rw [hdispose]
    exact ⟨[], (List.append_nil _).symm, rfl, Word.isDisposed_disposed s.word⟩

theorem disposeStatement (ctx : Context) (a : α) :
    Recounts d (fun _ nested b' => nested = [] ∧ b' = true)
      fun s => (a, disposeStatement ctx s) := by
  refine (dispose ctx).trails fun s => ?_
  simp only [Facade.disposeStatement]
  generalize Facade.dispose ctx s = r
  obtain ⟨first, s₁⟩ := r
  cases first with
  | true => exact ⟨_, _, _, _, rfl⟩
  | false => exact ⟨_, _, _, _, rfl⟩

theorem race (meets : Meets inside inner) (q : Query) (threads calls : ℕ) (disposing : Bool) :
    Recounts d (fun b nested b'' => ∃ b₁ b', Queried ctx inner q d b nested b₁ ∧
        Repeated ctx inner q d (threads * calls) b₁ b' ∧ b'' = (b' || disposing))
      (race ctx inside q threads calls disposing) := by
  have hquery : Recounts d (Queried ctx inner q d) (Facade.runQuery ctx inside q) :=
    runQuery meets q
  have hrest (each : Outcome Reading) : Recounts d
      (fun b nested b' => nested = [] ∧ Repeated ctx inner q d (threads * calls) b b')
      (Facade.repeatQuery ctx inside q (fun o => o == each || (disposing && isRefusal o))
        (threads * calls)) := repeatQuery meets q _ _
  have hqueries := hquery.andThen hrest
  cases disposing with
  | false =>
    have hrace : Recounts d _ (Facade.race ctx inside q threads calls false) :=
      hqueries.trails fun s => ⟨_, _, _, _, rfl⟩
    refine hrace.mono ?_
    rintro b nested b' ⟨first, second, b₁, rfl, hfirst, rfl, hrest⟩
    rw [List.append_nil]
    exact ⟨b₁, b', hfirst, hrest, (Bool.or_false b').symm⟩
  | true =>
    have hrace : Recounts d _ (Facade.race ctx inside q threads calls true) :=
      (hqueries.andThen fun _ => (disposeStatement ctx ()).quietly ctx).trails
        fun s => ⟨_, _, _, _, rfl⟩
    refine hrace.mono ?_
    rintro b nested b'' ⟨both, third, b', rfl, ⟨first, second, b₁, rfl, hfirst, rfl, hrest⟩, rfl,
      hidden, rfl, rfl⟩
    rw [List.append_nil, List.append_nil]
    exact ⟨b₁, b', hfirst, hrest, (Bool.or_true b').symm⟩

theorem gives {first : State → α × State} {op : State → Result × State} {step : Step}
    (h : Recounts d R first) (hop : ∀ s, Trails (first s).2 (op s).2) (sane : Sane d s)
    (shallow : Shallow (asStep op s).2.trail)
    (hR : ∀ {nested b'}, R s.word.isDisposed nested b' → Gives ctx inner d s.word.isDisposed step
      (.inside d b' (op { s with nested := [] }).1 nested) b') :
    (asStep op s).2.nested = s.nested ∧ Gives ctx inner d s.word.isDisposed step (asStep op s).1
      (asStep op s).2.word.isDisposed := by
  have hempty : Sane d { s with nested := [] } := sane.of_eq rfl rfl rfl
  obtain ⟨later, hbetween⟩ := h.follow hempty nofun (hop { s with nested := [] })
  unfold asStep at shallow ⊢
  refine ⟨rfl, ?_⟩
  generalize op { s with nested := [] } = r at shallow later hbetween hR ⊢
  obtain ⟨result, s₁⟩ := r
  dsimp only at shallow later hbetween hR ⊢
  have hshallow : Shallow s₁.trail := shallow.of_concat
  obtain ⟨nested, hnested, hb⟩ := hbetween hshallow
  obtain rfl : s₁.nested = nested := hnested
  have sound := later.holds hshallow
  have hanswer : s₁.answer result = .inside d s₁.word.isDisposed result s₁.nested := by
    rw [State.answer, Answer.inside, ← sound.counted, sound.released]
    rfl
  rw [hanswer]
  exact hR hb

theorem looks {step : Step} {r : State → Reading} (sane : Sane d s)
    (shallow : Shallow (asStep (Facade.observe r) s).2.trail)
    (hR : Gives ctx inner d s.word.isDisposed step (.inside d s.word.isDisposed
      (.plain (.value (r { s with nested := [] }))) []) s.word.isDisposed) :
    (asStep (Facade.observe r) s).2.nested = s.nested ∧
      Gives ctx inner d s.word.isDisposed step (asStep (Facade.observe r) s).1
        (asStep (Facade.observe r) s).2.word.isDisposed := by
  refine (observe r).gives (fun s => ⟨_, _, _, _, rfl⟩) sane shallow ?_
  rintro nested b' ⟨rfl, rfl⟩
  exact hR

end Recounts

theorem Accounts.inPlace (ctx : Context) {A : Bool → List Answer → Bool → Prop}
    {run : State → List Answer × State} (h : Accounts d A run) (place : Place) (a : α) :
    Recounts d (fun b nested b' => ∃ answers, nested = [(place, answers)] ∧ A b answers b')
      fun s => (a, inPlace place run s) where
  keeps s sane recorded := (stable_sane ctx).collect h.runs place (.refl sane recorded)
  between s sane recorded shallow := by
    obtain ⟨hnested, hA⟩ := h.gives s sane recorded shallow
    exact ⟨[(place, _)], congrArg (· ++ _) hnested, _, rfl, hA⟩

theorem bodyAt?_cons (column : ℕ) (body : List Step) (panic : Option Payload) (rest : List Visit)
    (index : ℕ) : bodyAt? (.mk column body panic :: rest) index =
      if column = index then some body else bodyAt? rest index := by
  by_cases h : column = index
  · simp [bodyAt?, h]
  · simp [bodyAt?, h]

inductive AtColumn (ctx : Context) (inner : Account) (d : ℕ) (visits : List Visit) (index : ℕ) :
    Bool → Nested → Bool → Prop
  | skipped {b : Bool} : AtColumn ctx inner d visits index b [] b
  | visited {b b' : Bool} {body : List Step} {answers : List Answer} :
      bodyAt? visits index = some body → GivesAll ctx inner d b body answers b' →
      AtColumn ctx inner d visits index b [(.column index, answers)] b'

theorem Recounts.visited {visits : List Visit} {index : ℕ} {visit : State → Option Payload × State}
    (h : Recounts d (AtColumn ctx inner d visits index) visit) (seen : List Engine.Column)
    (column : Engine.Column) :
    Recounts d (Visited ctx inner d visits) fun s =>
      let (panic, s) := visit s
      ((panic, seen ++ [column]), s) := by
  have hvisit : Recounts d (AtColumn ctx inner d visits index) fun s =>
      let (panic, s) := visit s
      ((panic, seen ++ [column]), s) := h.trails fun s => ⟨_, _, _, _, rfl⟩
  refine hvisit.mono fun hat => ?_
  cases hat with
  | skipped => exact .nil
  | visited hbody hanswers => exact .cons hbody hanswers .nil

theorem additive_visited (ctx : Context) (inner : Account) (d : ℕ) (visits : List Visit) :
    Recounts.Additive (Visited ctx inner d visits) where
  nil := .nil
  append {b b' b'' first second} h h' := by
    induction first generalizing b with
    | nil => cases h; exact h'
    | cons entry first ih =>
      cases h with
      | cons hbody hanswers hrest => exact .cons hbody hanswers (ih hrest)

mutual

theorem runStep_gives (meets : Meets inside inner) :
    ∀ (step : Step) (d : ℕ) (s : State), Sane d s → s.Recorded →
      Shallow (runStep ctx inside step s).2.trail →
      (runStep ctx inside step s).2.nested = s.nested ∧
        Gives ctx inner d s.word.isDisposed step (runStep ctx inside step s).1
          (runStep ctx inside step s).2.word.isDisposed
  | .query q, d, s, sane, recorded, shallow => by
    unfold runStep at shallow ⊢
    exact (Recounts.runQuery meets q).gives (fun s => ⟨_, _, _, _, rfl⟩) sane shallow .query
  | .fill side visits, d, s, sane, recorded, shallow => by
    unfold runStep at shallow ⊢
    have hfill : Recounts d
        (Through (Then (Asked ctx.table inner (.fill side) (d + 1))
          (Visited ctx inner (d + 1) visits)))
        (fill ctx inside side _ []) :=
      .fill meets side (additive_visited ctx inner (d + 1) visits) (fun index column seen =>
        (runVisit_recounts meets visits index (d + 1)).visited seen column) []
    refine hfill.gives (fun s => ⟨_, _, _, _, rfl⟩) sane shallow fun h => ?_
    generalize s.word.isDisposed = b at h
    cases h with
    | refused => exact .fillRefused
    | admitted h =>
      obtain ⟨asked, columns, b₁, rfl, hasked, hvisited⟩ := h
      exact .fill hasked hvisited
  | .race q threads calls disposing, d, s, sane, recorded, shallow => by
    unfold runStep at shallow ⊢
    refine (Recounts.race meets q threads calls disposing).gives (fun s => ⟨_, _, _, _, rfl⟩) sane
      shallow ?_
    rintro nested b'' ⟨b₁, b', hquery, hrest, rfl⟩
    exact .race hquery hrest
  | .dispose, d, s, sane, recorded, shallow => by
    unfold runStep at shallow ⊢
    refine (Recounts.disposeStatement ctx ()).gives (fun s => ⟨_, _, _, _, rfl⟩) sane shallow ?_
    rintro nested b' ⟨rfl, rfl⟩
    exact .dispose
  | .debug, d, s, sane, recorded, shallow => by
    unfold runStep at shallow ⊢
    exact Recounts.looks sane shallow .debug
  | .call body panic result, d, s, sane, recorded, shallow => by
    unfold runStep at shallow ⊢
    have hbody :=
      (runSteps_accounts meets body (d + 1)).inPlace ctx .body (bodyOutcome panic result)
    have hcall : Recounts d _ (guarded ctx Outcome.error _) := hbody.guarded Outcome.error
    refine hcall.gives (fun s => ⟨_, _, _, _, rfl⟩) sane shallow fun h => ?_
    generalize s.word.isDisposed = b at h
    cases h with
    | refused => exact .callRefused
    | admitted h =>
      obtain ⟨answers, rfl, hanswers⟩ := h
      exact .call hanswers
  | .disposeGuard, d, s, sane, recorded, shallow => by
    unfold runStep at shallow ⊢
    refine (Recounts.dispose ctx).gives (fun s => ⟨_, _, _, _, rfl⟩) sane shallow ?_
    rintro nested b' ⟨rfl, rfl⟩
    obtain ⟨l, es, p, hdispose⟩ := dispose_frame ctx { s with nested := [] }
    rw [hdispose]
    exact .disposeGuard
  | .debugGuard, d, s, sane, recorded, shallow => by
    unfold runStep at shallow ⊢
    exact Recounts.looks sane shallow .debugGuard
  | .inFlight, d, s, sane, recorded, shallow => by
    unfold runStep at shallow ⊢
    have hcount : s.word.inFlight.toNat = d := (sane shallow.of_concat).counted
    refine Recounts.looks sane shallow ?_
    dsimp only
    rw [hcount]
    exact .inFlight
  | .isDisposed, d, s, sane, recorded, shallow => by
    unfold runStep at shallow ⊢
    exact Recounts.looks sane shallow .isDisposed
  | .origin, d, s, sane, recorded, shallow => by
    unfold runStep at shallow ⊢
    exact Recounts.looks sane shallow .origin
  | .sinkPanics p step, d, s, sane, recorded, shallow => by
    have hsane : Sane d { s with sink := some p } := sane.of_eq rfl rfl rfl
    unfold runStep at shallow ⊢
    obtain ⟨hnested, hgives⟩ := runStep_gives meets step d { s with sink := some p } hsane recorded
      shallow
    exact ⟨hnested, .sinkPanics hgives⟩

theorem runSteps_accounts (meets : Meets inside inner) :
    ∀ (steps : List Step) (d : ℕ),
      Accounts d (fun b => GivesAll ctx inner d b steps) (runSteps ctx inside steps)
  | [], d => ⟨(stable_sane ctx).runSteps (fun d steps => (meets d steps).runs) [] d,
      fun s _ _ _ => ⟨rfl, .nil⟩⟩
  | step :: rest, d => by
    have stable := stable_sane ctx
    have hruns (d : ℕ) (steps : List Step) : Runs Sane d (inside steps) := (meets d steps).runs
    refine ⟨stable.runSteps hruns (step :: rest) d, fun s sane recorded shallow => ?_⟩
    have later := (stable.runStep hruns step d s sane recorded).1
    have hrest := runSteps_accounts meets rest d
    unfold runSteps at shallow ⊢
    have hgrown := (hrest.runs _ later.holds later.recorded).1.grown
    obtain ⟨hnested, hgives⟩ :=
      runStep_gives meets step d s sane recorded (shallow.of_prefix hgrown)
    obtain ⟨hnested', hgives'⟩ := hrest.gives _ later.holds later.recorded shallow
    exact ⟨hnested'.trans hnested, .cons hgives hgives'⟩

theorem runVisit_recounts (meets : Meets inside inner) :
    ∀ (visits : List Visit) (index d : ℕ),
      Recounts d (AtColumn ctx inner d visits index) (runVisit ctx inside visits index)
  | [], index, d => by
    refine (Recounts.pure none).mono ?_
    rintro b nested b' ⟨rfl, rfl⟩
    exact .skipped
  | .mk column body panic :: rest, index, d => by
    have hbody := bodyAt?_cons column body panic rest index
    show Recounts d _ fun s => runVisit ctx inside (.mk column body panic :: rest) index s
    unfold runVisit
    by_cases h : column = index
    · simp only [if_pos h] at hbody ⊢
      refine ((runSteps_accounts meets body d).inPlace ctx (.column index) panic).mono ?_
      rintro b nested b' ⟨answers, rfl, hanswers⟩
      exact .visited hbody hanswers
    · simp only [if_neg h] at hbody ⊢
      refine (runVisit_recounts meets rest index d).mono fun hat => ?_
      cases hat with
      | skipped => exact .skipped
      | visited hvisit hanswers => exact .visited (hbody.trans hvisit) hanswers

end

theorem reentry_meets (ctx : Context) : ∀ depth, Meets (reentry ctx depth) (account ctx depth)
  | 0 => fun _ _ => ⟨fun _ sane recorded => ⟨.refl sane recorded, nofun⟩,
      fun _ _ _ _ => ⟨rfl, rfl, rfl⟩⟩
  | depth + 1 => fun d steps => runSteps_accounts (reentry_meets ctx depth) steps d

variable {session : Session}

theorem Session.held_drop (session : Session) (ctx : Context) (sink : Option Payload) :
    (session.drop ctx sink).held = false := by
  unfold Session.drop
  split_ifs with hheld
  · rfl
  · simpa using hheld

theorem Sane.conducts (ctx : Context) (depth : ℕ) (commands : List Command)
    (sane : Sane 0 session.state) (recorded : session.state.Recorded) (ended : session.Ended)
    (shallow : Shallow (session.runAll ctx depth commands).2.state.trail) :
    Conducts ctx (account ctx depth) session.held session.state.word.isDisposed commands
      (session.runAll ctx depth commands).1 := by
  induction commands generalizing session with
  | nil => exact .nil
  | cons command rest ih =>
    have later := ((stable_sane ctx).run depth command session sane recorded).1
    have hgrown := ((stable_sane ctx).runAll depth rest _ later.holds later.recorded).1.grown
    have hshallow : Shallow (session.run ctx depth command).2.state.trail :=
      shallow.of_prefix hgrown
    have hrest := ih later.holds later.recorded (ended.run ctx depth command) shallow
    have hbefore := hshallow.of_prefix later.grown
    have sound := sane hbefore
    cases command with
    | step step =>
      cases hheld : session.held with
      | true =>
        simp only [Session.runAll, Session.run, hheld, if_true] at hshallow hrest ⊢
        have meets := reentry_meets ctx depth
        exact .step (runStep_gives meets step 0 session.state sane recorded hshallow).2 hrest
      | false =>
        have hflag : session.state.word.isDisposed = true := sound.flag.mpr (ended hheld)
        have hreleases : session.state.releases = 1 := by
          rw [sound.released, Word.due, if_pos ⟨hflag, sound.counted⟩]
        simp only [Session.runAll, Session.run, hheld, Bool.false_eq_true, if_false, hflag,
          hreleases] at hrest ⊢
        exact .gone hrest
    | drop sink =>
      obtain ⟨-, hflag⟩ := sane.sound_drop ctx recorded ended hbefore sink
      have hreleases := (sane.drop ctx recorded ended hbefore sink).1
      simp only [Session.runAll, Session.run, session.held_drop, hflag, hreleases] at hrest ⊢
      exact .dropped hrest

/-- Every step is answered as its place in the tree demands, however it came to be run: with the
number of operations that are open around it, with the flag of the disposals so far, and with a
release exactly if there was a disposal and nothing is open. When the resource has been dropped, the
engine has released it once and has not been called after that. -/
theorem reentrant_release {events : List Log.Event} {depth : ℕ} {commands : List Command}
    {answers : List CommandAnswer} (adopted : adopt ctx (State.fresh.emitAll events) = (.ok (), s))
    (run : Session.runAll ctx depth commands ⟨s, true⟩ = (answers, session))
    (shallow : Shallow session.state.trail) :
    Conducts ctx (account ctx depth) true false commands answers ∧
      ∀ sink, (session.drop ctx sink).state.releases = 1 ∧
        (session.drop ctx sink).state.queriesAfterRelease = 0 := by
  obtain ⟨sane, recorded⟩ := Sane.fresh adopted
  have held : Session.Ended ⟨s, true⟩ := nofun
  have later := ((stable_sane ctx).runAll depth commands ⟨s, true⟩ sane recorded).1
  have ended := held.runAll ctx depth commands
  have live : s.word.isDisposed = false := by
    obtain ⟨es, rfl⟩ := adopt_frame adopted
    exact Word.isDisposed_fresh
  have hconducts := Sane.conducts ctx depth commands sane recorded held
  rw [run] at later ended hconducts
  refine ⟨live ▸ hconducts shallow, fun sink => ?_⟩
  exact later.holds.drop ctx later.recorded ended shallow sink

def curiousEngine : Context where
  table := { Engine.Script.silent.table with
    isLwt := fun _ => ⟨[.inFlight], [], some 1, .success⟩
    fillVariables := fun _ => ⟨[], [], some (Engine.deliveries
      [⟨"shop", "orders", "id", 2⟩, ⟨"shop", "orders", "day", 2⟩]), .success⟩ }
  origin := .custom
  resource := .preparedStatement
  handle := ⟨1⟩

def disposingVisit : List Command :=
  [.step (.fill .variables [.mk 0 [.query .isLwt, .dispose, .inFlight] none]), .step .inFlight]

def visitAnswers : List CommandAnswer :=
  let columns : List Engine.Column := [⟨"shop", "orders", "id", 2⟩, ⟨"shop", "orders", "day", 2⟩]
  let asked : Answer := .mk (.plain (.value (.count 2))) false 2 0 []
  let visited : List Answer :=
    [.mk (.plain (.value (.flag true))) false 1 0 [(.engine .isLwt, [asked])],
      .mk (.plain (.value .unit)) true 1 0 [],
      .mk (.plain (.value (.count 1))) true 1 0 []]
  [.step (.mk (.filled (.value (.count 2)) columns) true 0 1 [(.column 0, visited)]),
    .step (.mk (.plain (.value (.count 0))) true 0 1 [])]

/-- The disposal in the visitor waits for the fill, which releases the statement on its way out. -/
theorem reentrant_release_deferred :
    ∃ s session, adopt curiousEngine (State.fresh.emitAll []) = (.ok (), s) ∧
      Session.runAll curiousEngine 1 disposingVisit ⟨s, true⟩ = (visitAnswers, session) ∧
      Conducts curiousEngine (account curiousEngine 1) true false disposingVisit visitAnswers ∧
      (session.drop curiousEngine none).state.releases = 1 := by
  have run : Session.runAll curiousEngine 1 disposingVisit
      ⟨(adopt curiousEngine (State.fresh.emitAll [])).2, true⟩ = (visitAnswers, _) :=
    Prod.ext (by with_unfolding_all rfl) rfl
  have shallow : Shallow (Session.runAll curiousEngine 1 disposingVisit
      ⟨(adopt curiousEngine (State.fresh.emitAll [])).2, true⟩).2.state.trail :=
    .of_length (by decide +kernel)
  obtain ⟨conducts, dropped⟩ := reentrant_release rfl run shallow
  exact ⟨_, _, rfl, run, conducts, (dropped none).1⟩

end EngineBridge.Facade
