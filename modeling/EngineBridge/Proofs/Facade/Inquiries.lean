import EngineBridge.Proofs.Facade.Refinement

/-!
The count queries of a run, whichever way they come about: asked by the owner, in a visitor or a
guarded body, or asked of the caller by the engine while one of its entry points is open. They are
listed in the order in which they are answered, each with what it met and what it left behind.
-/

namespace EngineBridge.Facade

open Abi (Export Side)
open Engine (Column Delivery Reply)

/-- A count query that was answered; the ones inside it were asked while it was open. -/
structure Inquiry where
  side : Side
  before : State
  inside : List Inquiry
  outcome : Outcome ℕ
  after : State

abbrev Inquirer := List Step → State → List Inquiry

section Collecting

variable {α μ : Type} (ctx : Context) (inside : Reentry) (asks : Inquirer)

def guardedAsks (body : State → List Inquiry) (s : State) : List Inquiry :=
  if s.word.isDisposed then [] else body (s.admitted ctx)

def callAsks (e : Export) (f : ℕ → Reply α) (s : State) : List Inquiry :=
  asks (f (s.calls.count e)).reenter { s with calls := s.calls ++ [e] }

def countAsks (side : Side) (s : State) : List Inquiry :=
  let within := guardedAsks ctx (fun s =>
    if (s.cached side).isSome then []
    else callAsks asks (.count side) (ctx.table.count side) s) s
  let (outcome, after) := columnCount ctx inside side s
  within ++ [⟨side, s, within, outcome, after⟩]

def acceptAsks (visits : ℕ → State → List Inquiry) (d : Delivery) (got : Delivered μ) (s : State) :
    List Inquiry :=
  if d.lost || got.problem.isSome then []
  else
    match examine got.next d with
    | .error _ => []
    | .ok _ => visits got.next s

def deliverAsks (entryPoint : String) (visitor : Visitor μ) (visits : ℕ → State → List Inquiry) :
    List Delivery → Delivered μ → State → List Inquiry
  | [], _, _ => []
  | d :: rest, got, s =>
    let (got', s') := accept entryPoint visitor d got s
    acceptAsks visits d got s ++ deliverAsks entryPoint visitor visits rest got' s'

def fillAsks (side : Side) (visitor : Visitor μ) (visits : ℕ → State → List Inquiry) (memory : μ) :
    State → List Inquiry :=
  guardedAsks ctx fun s =>
    let (reply, s') := beginCall inside (.fill side) (ctx.table.fill side) s
    callAsks asks (.fill side) (ctx.table.fill side) s ++
      deliverAsks (Export.fill side).symbol visitor visits (reply.written.getD []) (.start memory)
        s'

def queryAsks (q : Query) (s : State) : List Inquiry :=
  match q with
  | .isLwt => guardedAsks ctx (callAsks asks .isLwt ctx.table.isLwt) s
  | .count side => countAsks ctx inside asks side s
  | .specs side => fillAsks ctx inside asks side collector (fun _ _ => []) [] s
  | .id => guardedAsks ctx (callAsks asks .id ctx.table.id) s

def repeatAsks (q : Query) : ℕ → State → List Inquiry
  | 0, _ => []
  | n + 1, s =>
    queryAsks ctx inside asks q s ++ repeatAsks q n (quietly (runQuery ctx inside q) s).2

def raceAsks (q : Query) (n : ℕ) (s : State) : List Inquiry :=
  queryAsks ctx inside asks q s ++ repeatAsks ctx inside asks q n (runQuery ctx inside q s).2

mutual

def stepAsks : Step → State → List Inquiry
  | .query q, s => queryAsks ctx inside asks q { s with nested := [] }
  | .fill side visits, s =>
    fillAsks ctx inside asks side
      (fun index column seen s =>
        let (panic, s) := runVisit ctx inside visits index s
        ((panic, seen ++ [column]), s))
      (visitAsks visits) [] { s with nested := [] }
  | .race q threads calls _, s =>
    raceAsks ctx inside asks q (threads * calls) { s with nested := [] }
  | .call body _ _, s => guardedAsks ctx (stepsAsks body) { s with nested := [] }
  | .sinkPanics p step, s => stepAsks step { s with sink := some p }
  | _, _ => []

def stepsAsks : List Step → State → List Inquiry
  | [], _ => []
  | step :: rest, s => stepAsks step s ++ stepsAsks rest (runStep ctx inside step s).2

def visitAsks : List Visit → ℕ → State → List Inquiry
  | [], _, _ => []
  | .mk column body _ :: rest, index, s =>
    if column = index then stepsAsks body s else visitAsks rest index s

end

end Collecting

def reentryAsks (ctx : Context) : ℕ → Inquirer
  | 0, _, _ => []
  | depth + 1, steps, s => stepsAsks ctx (reentry ctx depth) (reentryAsks ctx depth) steps s

def Session.asks (ctx : Context) (depth : ℕ) : List Command → Session → List Inquiry
  | [], _ => []
  | .step step :: rest, s =>
    let here :=
      if s.held then stepAsks ctx (reentry ctx depth) (reentryAsks ctx depth) step s.state else []
    here ++ asks ctx depth rest (s.run ctx depth (.step step)).2
  | .drop sink :: rest, s => asks ctx depth rest (s.run ctx depth (.drop sink)).2

structure Alike (s s' : State) : Prop where
  cached : s'.cached = s.cached
  counts : ∀ side, s'.calls.count (.count side) = s.calls.count (.count side)
  grown : s.trail <+: s'.trail

inductive Ends (side : Side) (reply : Reply UInt64) (s : State) : Outcome ℕ → State → Prop
  | failed {e : Error} {s' : State} :
      reported (Export.count side).symbol reply.result = .error e → Alike s s' →
      Ends side reply s (.error e) s'
  | stored {s' : State} : reported (Export.count side).symbol reply.result = .ok () →
      Alike (s.store side (reply.written.getD 0)) s' →
      Ends side reply s
        (.value (((s.store side (reply.written.getD 0)).cached side).getD
          (reply.written.getD 0)).toNat) s'

/-- What happens to the counts between two states, inquiry by inquiry. -/
inductive Chronicle (ctx : Context) : State → List Inquiry → State → Prop
  | quiet {s s' : State} : Alike s s' → Chronicle ctx s [] s'
  | append {s s' s'' : State} {xs ys : List Inquiry} : Chronicle ctx s xs s' →
      Chronicle ctx s' ys s'' → Chronicle ctx s (xs ++ ys) s''
  | refused {side : Side} {d : ℕ} {s : State} (sane : Sane d s) (disposed : s.word.isDisposed) :
      Chronicle ctx s [⟨side, s, [], .error (.resourceDisposed ctx.resource.name), s⟩] s
  | known {side : Side} {d : ℕ} {n : UInt64} {s s' : State} (sane : Sane d s)
      (live : s.word.isDisposed = false) (cached : s.cached side = some n) (alike : Alike s s') :
      Chronicle ctx s [⟨side, s, [], .value n.toNat, s'⟩] s'
  | fetched {side : Side} {d : ℕ} {s s₁ s₂ s' : State} {within : List Inquiry}
      {outcome : Outcome ℕ} (sane : Sane d s) (live : s.word.isDisposed = false)
      (unknown : s.cached side = none)
      (called : Alike { s with calls := s.calls ++ [.count side] } s₁)
      (inner : Chronicle ctx s₁ within s₂)
      (ends : Ends side (ctx.table.count side (s.calls.count (.count side))) s₂ outcome s') :
      Chronicle ctx s (within ++ [⟨side, s, within, outcome, s'⟩]) s'

variable {α β μ : Type} {ctx : Context} {inside : Reentry} {asks : Inquirer} {d : ℕ}
  {s s' s'' : State} {xs : List Inquiry}

theorem store_cached (s : State) (side side' : Side) (n : UInt64) :
    (s.store side n).cached side' =
      if side' = side then (s.cached side).or (some n) else s.cached side' := by
  cases side <;> cases side' <;> rfl

namespace Alike

theorem of_eq (variableCount : s'.variableCount = s.variableCount)
    (resultCount : s'.resultCount = s.resultCount) (calls : s'.calls = s.calls)
    (trail : s'.trail = s.trail) : Alike s s' := by
  refine ⟨funext fun side => ?_, fun side => by rw [calls], trail ▸ List.prefix_rfl⟩
  cases side
  exacts [variableCount, resultCount]

theorem refl (s : State) : Alike s s := .of_eq rfl rfl rfl rfl

theorem trans (h : Alike s s') (h' : Alike s' s'') : Alike s s'' :=
  ⟨h'.cached.trans h.cached, fun side => (h'.counts side).trans (h.counts side),
    h.grown.trans h'.grown⟩

theorem admitted (ctx : Context) (s : State) : Alike s (s.admitted ctx) :=
  ⟨funext fun side => by cases side <;> rfl, fun _ => rfl, List.prefix_append _ _⟩

theorem leave (ctx : Context) (s : State) : Alike s (leave ctx s) := by
  refine ⟨leave_cached ctx s, ?_, ?_⟩
  · obtain ⟨l, es, p, hleave⟩ := leave_frame ctx s
    intro side
    rw [hleave, List.count_append]
    split_ifs <;> simp
  · rw [leave_trail]
    exact List.prefix_append _ _

theorem dispose (ctx : Context) (s : State) : Alike s (dispose ctx s).2 := by
  obtain ⟨l, es, p, hdispose⟩ := dispose_frame ctx s
  rw [hdispose]
  refine ⟨funext fun side => by cases side <;> rfl, fun side => ?_, List.prefix_append _ _⟩
  rw [List.count_append]
  split_ifs <;> simp

theorem disposeStatement (ctx : Context) (s : State) : Alike s (disposeStatement ctx s) := by
  have h := Alike.dispose ctx s
  unfold Facade.disposeStatement
  generalize Facade.dispose ctx s = r at h ⊢
  obtain ⟨first, s₁⟩ := r
  cases first with
  | true => exact h.trans (.of_eq rfl rfl rfl rfl)
  | false => exact h

theorem emit (s : State) (e : Log.Event) : Alike s (s.emit e) :=
  .of_eq rfl rfl rfl rfl

theorem store (h : Alike s s') (side : Side) (n : UInt64) :
    Alike (s.store side n) (s'.store side n) := by
  obtain ⟨cached, counts, grown⟩ := h
  refine ⟨funext fun side' => ?_, ?_, ?_⟩
  · rw [store_cached, store_cached, cached]
  · cases side <;> exact counts
  · rw [store_trail, store_trail]
    exact grown

theorem called {e : Export} (he : ∀ side, e ≠ .count side) (s : State) :
    Alike s { s with calls := s.calls ++ [e] } := by
  refine ⟨funext fun side => by cases side <;> rfl, fun side => ?_, List.prefix_rfl⟩
  simp [List.count_append, he side]

theorem inPlace (place : Place) (body : State → List Answer × State) (s : State) :
    Alike (body s).2 (inPlace place body s) :=
  .of_eq rfl rfl rfl rfl

theorem quietly (op : State → α × State) (s : State) : Alike (op s).2 (quietly op s).2 :=
  .of_eq rfl rfl rfl rfl

theorem asStep (op : State → Result × State) (s : State) :
    Alike (op { s with nested := [] }).2 (asStep op s).2 :=
  ⟨funext fun side => by cases side <;> rfl, fun _ => rfl, List.prefix_append _ _⟩

theorem conclude (ctx : Context) (entryPoint : String) (reply : Reply α) (s : State) :
    ∃ returned s₁ s₂, endCall reply s = (returned, s₁) ∧
      check ctx entryPoint returned s₁ = (reported entryPoint reply.result, s₂) ∧ Alike s s₂ := by
  obtain ⟨l, hend⟩ := endCall_frame reply s
  obtain ⟨returned, s₁, hreturned⟩ : ∃ returned s₁, endCall reply s = (returned, s₁) :=
    ⟨_, _, rfl⟩
  have hreported := check_endCall ctx entryPoint reply s s₁
  rw [hreturned] at hend hreported
  obtain rfl : s₁ = { s with ledger := l } := hend
  obtain ⟨l', es, hcheck⟩ := check_frame ctx entryPoint returned { s with ledger := l }
  refine ⟨returned, _, _, hreturned, Prod.ext hreported hcheck, ?_⟩
  exact .of_eq rfl rfl rfl rfl

end Alike

namespace Chronicle

theorem alike (h : Chronicle ctx s xs s') (h' : Alike s' s'') : Chronicle ctx s xs s'' := by
  simpa using h.append (.quiet h')

theorem of_alike (h : Alike s s') (h' : Chronicle ctx s' xs s'') : Chronicle ctx s xs s'' :=
  (Chronicle.quiet h).append h'

end Chronicle

def Tells (ctx : Context) (d : ℕ) (asks : State → List Inquiry) (op : State → α × State) : Prop :=
  ∀ s, Sane d s → s.Recorded → Chronicle ctx s (asks s) (op s).2

structure Inquires (ctx : Context) (inside : Reentry) (asks : Inquirer) : Prop where
  runs : ∀ d steps, Runs Sane d (inside steps)
  idle : ∀ s, asks [] s = []
  tells : ∀ d steps, Tells ctx d (asks steps) (inside steps)

namespace Tells

theorem quiet {op : State → α × State} (h : ∀ s, Alike s (op s).2) :
    Tells ctx d (fun _ => []) op :=
  fun s _ _ => .quiet (h s)

theorem guarded {op : State → α × State} {body : State → List Inquiry} (refused : Error → α)
    (h : Tells ctx (d + 1) body op) :
    Tells ctx d (guardedAsks ctx body) (guarded ctx refused op) := by
  intro s sane recorded
  by_cases hdisposed : s.word.isDisposed = true
  · rw [guardedAsks, if_pos hdisposed, guarded_of_disposed hdisposed]
    exact .quiet (.refl s)
  · have live : s.word.isDisposed = false := by simpa using hdisposed
    have later := (stable_sane ctx).admitted live sane recorded
    have hbody := h (s.admitted ctx) later.holds later.recorded
    obtain ⟨a, s₁, hop⟩ : ∃ a s₁, op (s.admitted ctx) = (a, s₁) := ⟨_, _, rfl⟩
    rw [hop] at hbody
    rw [guardedAsks, if_neg hdisposed, guarded_of_live live hop]
    exact (hbody.alike (.leave ctx s₁)).of_alike (.admitted ctx s)

section

variable (inquires : Inquires ctx inside asks)
include inquires

theorem beginCall_chronicle {e : Export} (he : e ≠ .free) (f : ℕ → Reply α) (sane : Sane (d + 1) s)
    (recorded : s.Recorded) :
    Chronicle ctx { s with calls := s.calls ++ [e] } (callAsks asks e f s)
      (beginCall inside e f s).2 := by
  unfold callAsks beginCall
  generalize f (s.calls.count e) = reply
  obtain ⟨steps, es, written, result⟩ := reply
  cases steps with
  | nil =>
    rw [inquires.idle]
    exact .quiet (.of_eq rfl rfl rfl rfl)
  | cons step rest =>
    have h := inquires.tells (d + 1) (step :: rest) _ (sane.called he) recorded
    exact h.alike (.of_eq rfl rfl rfl rfl)

theorem beginCall {e : Export} (he : e ≠ .free) (hcount : ∀ side, e ≠ .count side)
    (f : ℕ → Reply α) : Tells ctx (d + 1) (callAsks asks e f) (beginCall inside e f) :=
  fun s sane recorded =>
    (beginCall_chronicle inquires he f sane recorded).of_alike (.called hcount s)

theorem isLwt : Tells ctx d (guardedAsks ctx (callAsks asks .isLwt ctx.table.isLwt))
    (isLwt ctx inside) := by
  refine .guarded _ fun s sane recorded => ?_
  have h := beginCall inquires (e := .isLwt) nofun nofun ctx.table.isLwt s sane recorded
  generalize Facade.beginCall inside .isLwt ctx.table.isLwt s = begun at h
  obtain ⟨reply, s₁⟩ := begun
  obtain ⟨returned, s₂, s₃, hend, hcheck, alike⟩ := Alike.conclude ctx Export.isLwt.symbol reply s₁
  simp only [hend, hcheck]
  refine h.alike ?_
  cases reported Export.isLwt.symbol reply.result with
  | error e => exact alike
  | ok =>
    cases Abi.decodeBool (reply.written.getD 0) with
    | some b => exact alike
    | none => exact alike

theorem statementId : Tells ctx d (guardedAsks ctx (callAsks asks .id ctx.table.id))
    (statementId ctx inside) := by
  refine .guarded _ fun s sane recorded => ?_
  have h := beginCall inquires (e := .id) nofun nofun ctx.table.id s sane recorded
  generalize Facade.beginCall inside .id ctx.table.id s = begun at h
  obtain ⟨reply, s₁⟩ := begun
  obtain ⟨returned, s₂, s₃, hend, hcheck, alike⟩ := Alike.conclude ctx Export.id.symbol reply s₁
  simp only [hend, hcheck]
  refine h.alike ?_
  cases reported Export.id.symbol reply.result with
  | error e => exact alike
  | ok =>
    dsimp only
    split_ifs
    · exact alike
    · exact alike

theorem columnCount (side : Side) :
    Tells ctx d (countAsks ctx inside asks side) (columnCount ctx inside side) := by
  intro s sane recorded
  unfold countAsks
  by_cases hdisposed : s.word.isDisposed = true
  · have hrefused : Facade.columnCount ctx inside side s =
        (.error (.resourceDisposed ctx.resource.name), s) := guarded_of_disposed hdisposed
    rw [hrefused, guardedAsks, if_pos hdisposed]
    exact .refused sane hdisposed
  · have live : s.word.isDisposed = false := by simpa using hdisposed
    have later := (stable_sane ctx).admitted live sane recorded
    rw [guardedAsks, if_neg hdisposed]
    have hadmitted : (s.admitted ctx).cached side = s.cached side := by cases side <;> rfl
    cases hcached : s.cached side with
    | some n =>
      rw [hcached] at hadmitted
      have hcount : Facade.columnCount ctx inside side s =
          (.value n.toNat, leave ctx (s.admitted ctx)) :=
        guarded_of_live live (by simp only [hadmitted])
      rw [hcount, hadmitted]
      exact .known sane live hcached ((Alike.admitted ctx s).trans (.leave ctx _))
    | none =>
      rw [hcached] at hadmitted
      have hcall := beginCall_chronicle inquires (e := .count side) nofun (ctx.table.count side)
        later.holds later.recorded
      have hcalled : Alike { s with calls := s.calls ++ [.count side] }
          { s.admitted ctx with calls := s.calls ++ [.count side] } :=
        ⟨funext fun side => by cases side <;> rfl, fun _ => rfl, List.prefix_append _ _⟩
      obtain ⟨s₁, hbegin⟩ : ∃ s₁,
          Facade.beginCall inside (.count side) (ctx.table.count side) (s.admitted ctx) =
            (ctx.table.count side (s.calls.count (.count side)), s₁) := ⟨_, rfl⟩
      rw [hbegin] at hcall
      generalize hreply : ctx.table.count side (s.calls.count (.count side)) = reply at hbegin
      obtain ⟨returned, s₂, s₃, hend, hcheck, alike⟩ :=
        Alike.conclude ctx (Export.count side).symbol reply s₁
      cases hreported : reported (Export.count side).symbol reply.result with
      | error e =>
        have hcount : Facade.columnCount ctx inside side s = (.error e, leave ctx s₃) :=
          guarded_of_live live (by simp only [hadmitted, hbegin, hend, hcheck, hreported])
        rw [hcount, hadmitted]
        refine .fetched sane live hcached hcalled hcall (.failed ?_ (alike.trans (.leave ctx s₃)))
        rw [hreply, hreported]
      | ok =>
        obtain ⟨event, hcount⟩ : ∃ event, Facade.columnCount ctx inside side s =
            (.value ((((s₃.emit event).store side (reply.written.getD 0)).cached side).getD
              (reply.written.getD 0)).toNat,
              leave ctx ((s₃.emit event).store side (reply.written.getD 0))) :=
          ⟨_, guarded_of_live live (by
            simp only [hadmitted, hbegin, hend, hcheck, hreported]
            rfl)⟩
        have hstored := (alike.trans (.emit s₃ event)).store side (reply.written.getD 0)
        rw [hcount, hadmitted, hstored.cached]
        refine .fetched sane live hcached hcalled hcall ?_
        rw [hreply]
        exact .stored hreported (hstored.trans (.leave ctx _))

omit inquires in
theorem accept {visitor : Visitor μ} {visits : ℕ → State → List Inquiry}
    (hvisitor : ∀ index column memory, Tells ctx d (visits index) (visitor index column memory))
    (entryPoint : String) (delivery : Delivery) (got : Delivered μ) :
    Tells ctx d (acceptAsks visits delivery got) (accept entryPoint visitor delivery got) := by
  intro s sane recorded
  unfold acceptAsks Facade.accept
  split_ifs
  · exact .quiet (.refl s)
  · cases examine got.next delivery with
    | error detail => exact .quiet (.refl s)
    | ok column => exact hvisitor got.next column got.memory s sane recorded

omit inquires in
theorem deliver {visitor : Visitor μ} {visits : ℕ → State → List Inquiry}
    (keeps : ∀ index column memory, Keeps Sane d (visitor index column memory))
    (hvisitor : ∀ index column memory, Tells ctx d (visits index) (visitor index column memory))
    (entryPoint : String) (deliveries : List Delivery) (got : Delivered μ) :
    Tells ctx d (deliverAsks entryPoint visitor visits deliveries got)
      (deliver entryPoint visitor deliveries got) := by
  induction deliveries generalizing got with
  | nil => exact fun s _ _ => .quiet (.refl s)
  | cons delivery rest ih =>
    intro s sane recorded
    have later := Stable.accept keeps entryPoint delivery got s sane recorded
    have haccept := accept hvisitor entryPoint delivery got s sane recorded
    exact haccept.append (ih _ _ later.holds later.recorded)

theorem fill (side : Side) {visitor : Visitor μ} {visits : ℕ → State → List Inquiry}
    (keeps : ∀ index column memory, Keeps Sane (d + 1) (visitor index column memory))
    (hvisitor : ∀ index column memory,
      Tells ctx (d + 1) (visits index) (visitor index column memory)) (memory : μ) :
    Tells ctx d (fillAsks ctx inside asks side visitor visits memory)
      (fill ctx inside side visitor memory) := by
  refine .guarded _ fun s sane recorded => ?_
  have h := beginCall inquires (e := .fill side) nofun nofun (ctx.table.fill side) s sane recorded
  have later := (stable_sane ctx).beginCall (e := .fill side) nofun (inquires.runs (d + 1))
    (ctx.table.fill side) s sane recorded
  generalize Facade.beginCall inside (.fill side) (ctx.table.fill side) s = begun at h later
  obtain ⟨reply, s₁⟩ := begun
  have hdeliver := deliver keeps hvisitor (Export.fill side).symbol
    (reply.written.getD []) (.start memory) s₁ later.holds later.recorded
  obtain ⟨got, s₂, hgot⟩ : ∃ got s₂, Facade.deliver (Export.fill side).symbol visitor
      (reply.written.getD []) (.start memory) s₁ = (got, s₂) := ⟨_, _, rfl⟩
  rw [hgot] at hdeliver
  obtain ⟨returned, s₃, s₄, hend, hcheck, alike⟩ :=
    Alike.conclude ctx (Export.fill side).symbol reply s₂
  simp only [hgot, hend, hcheck]
  exact (h.append hdeliver).alike alike

theorem runQuery (q : Query) :
    Tells ctx d (queryAsks ctx inside asks q) (runQuery ctx inside q) := by
  cases q with
  | isLwt => exact isLwt inquires
  | count side => exact columnCount inquires side
  | specs side =>
    exact fill inquires side (fun _ _ _ _ => .refl) (fun _ _ _ s _ _ => .quiet (.refl s)) []
  | id => exact statementId inquires

theorem repeatQuery (q : Query) (expected : Outcome Reading → Bool) (n : ℕ) :
    Tells ctx d (repeatAsks ctx inside asks q n) (repeatQuery ctx inside q expected n) := by
  induction n with
  | zero => exact fun s _ _ => .quiet (.refl s)
  | succ n ih =>
    intro s sane recorded
    have later := (stable_sane ctx).quietly
      ((stable_sane ctx).runQuery (inquires.runs (d + 1)) q) s sane recorded
    have hquery := (runQuery inquires q s sane recorded).alike (.quietly _ s)
    exact hquery.append (ih _ later.holds later.recorded)

theorem race (q : Query) (threads calls : ℕ) (disposing : Bool) :
    Tells ctx d (raceAsks ctx inside asks q (threads * calls))
      (race ctx inside q threads calls disposing) := by
  intro s sane recorded
  have later := (stable_sane ctx).runQuery (inquires.runs (d + 1)) q s sane recorded
  have hquery := runQuery inquires q s sane recorded
  obtain ⟨each, s₁, heach⟩ : ∃ each s₁, Facade.runQuery ctx inside q s = (each, s₁) := ⟨_, _, rfl⟩
  rw [heach] at later hquery
  have hrest := repeatQuery inquires q (fun o => o == each || (disposing && isRefusal o))
    (threads * calls) s₁ later.holds later.recorded
  rw [raceAsks, heach]
  refine hquery.append ?_
  simp only [Facade.race, heach]
  split_ifs
  · exact hrest.alike ((Alike.disposeStatement ctx _).trans
      (.quietly (fun s => ((), Facade.disposeStatement ctx s)) _))
  · exact hrest

omit inquires in
theorem asStep {op : State → Result × State} {body : State → List Inquiry}
    (h : Tells ctx d body op) :
    Tells ctx d (fun s => body { s with nested := [] }) (asStep op) := by
  intro s sane recorded
  have hbody := h { s with nested := [] } (sane.of_eq rfl rfl rfl) nofun
  have hempty : Alike s { s with nested := [] } :=
    .of_eq rfl rfl rfl rfl
  exact (hbody.alike (.asStep op s)).of_alike hempty

omit inquires in
theorem silentStep {op : State → Result × State} (h : ∀ s, Alike s (op s).2) :
    Tells ctx d (fun _ => []) (Facade.asStep op) :=
  asStep (quiet h)

end

mutual

theorem runStep (inquires : Inquires ctx inside asks) : ∀ (step : Step) (d : ℕ),
    Tells ctx d (stepAsks ctx inside asks step) (runStep ctx inside step)
  | .query q, d => fun s sane recorded => by
    unfold stepAsks Facade.runStep
    exact asStep (runQuery inquires q) s sane recorded
  | .fill side visits, d => fun s sane recorded => by
    unfold stepAsks Facade.runStep
    refine asStep (fill inquires side (fun index column seen => ?_)
      (fun index column seen => ?_) []) s sane recorded
    · exact (stable_sane ctx).runVisit inquires.runs visits index (d + 1)
    · exact runVisit inquires visits index (d + 1)
  | .race q threads calls disposing, d => fun s sane recorded => by
    unfold stepAsks Facade.runStep
    exact asStep (race inquires q threads calls disposing) s sane recorded
  | .dispose, d => fun s sane recorded => by
    unfold stepAsks Facade.runStep
    exact silentStep (.disposeStatement ctx) s sane recorded
  | .debug, d => fun s sane recorded => by
    unfold stepAsks Facade.runStep
    exact silentStep .refl s sane recorded
  | .call body panic result, d => fun s sane recorded => by
    unfold stepAsks Facade.runStep
    refine asStep (fun s sane recorded => ?_) s sane recorded
    refine guarded _ (fun s sane recorded => ?_) s sane recorded
    exact (runSteps inquires body (d + 1) s sane recorded).alike (.inPlace .body _ s)
  | .disposeGuard, d => fun s sane recorded => by
    unfold stepAsks Facade.runStep
    exact silentStep (.dispose ctx) s sane recorded
  | .debugGuard, d => fun s sane recorded => by
    unfold stepAsks Facade.runStep
    exact silentStep .refl s sane recorded
  | .inFlight, d => fun s sane recorded => by
    unfold stepAsks Facade.runStep
    exact silentStep .refl s sane recorded
  | .isDisposed, d => fun s sane recorded => by
    unfold stepAsks Facade.runStep
    exact silentStep .refl s sane recorded
  | .origin, d => fun s sane recorded => by
    unfold stepAsks Facade.runStep
    exact silentStep .refl s sane recorded
  | .sinkPanics p step, d => fun s sane recorded => by
    have h := runStep inquires step d { s with sink := some p } (sane.of_eq rfl rfl rfl) recorded
    unfold stepAsks Facade.runStep
    refine (h.of_alike ?_).alike ?_
    · exact .of_eq rfl rfl rfl rfl
    · exact .of_eq rfl rfl rfl rfl

theorem runSteps (inquires : Inquires ctx inside asks) : ∀ (steps : List Step) (d : ℕ),
    Tells ctx d (stepsAsks ctx inside asks steps) (runSteps ctx inside steps)
  | [], d => fun s _ _ => .quiet (.refl s)
  | step :: rest, d => fun s sane recorded => by
    have later := ((stable_sane ctx).runStep inquires.runs step d s sane recorded).1
    unfold stepsAsks Facade.runSteps
    exact (runStep inquires step d s sane recorded).append
      (runSteps inquires rest d _ later.holds later.recorded)

theorem runVisit (inquires : Inquires ctx inside asks) : ∀ (visits : List Visit) (index d : ℕ),
    Tells ctx d (visitAsks ctx inside asks visits index) (runVisit ctx inside visits index)
  | [], index, d => fun s _ _ => .quiet (.refl s)
  | .mk column body panic :: rest, index, d => fun s sane recorded => by
    unfold visitAsks Facade.runVisit
    split_ifs
    · exact (runSteps inquires body d s sane recorded).alike (.inPlace (.column index) _ s)
    · exact runVisit inquires rest index d s sane recorded

end

end Tells

/-- A step that asks for a count is answered with the outcome of its inquiry, the last one of the
step. -/
theorem runStep_count (ctx : Context) (inside : Reentry) (asks : Inquirer) (side : Side)
    (s : State) :
    ∃ within x, stepAsks ctx inside asks (.query (.count side)) s = within ++ [x] ∧
      x.side = side ∧ (runStep ctx inside (.query (.count side)) s).1 =
        x.after.answer (.plain (x.outcome.map .count)) := by
  unfold stepAsks runStep
  exact ⟨_, _, rfl, rfl, rfl⟩

theorem inquires_reentry (ctx : Context) (depth : ℕ) :
    Inquires ctx (reentry ctx depth) (reentryAsks ctx depth) := by
  induction depth with
  | zero => exact ⟨(stable_sane ctx).reentry 0, fun _ => rfl, fun _ _ s _ _ => .quiet (.refl s)⟩
  | succ depth ih =>
    refine ⟨(stable_sane ctx).reentry (depth + 1), fun _ => ?_, fun d steps => ?_⟩
    · rw [reentryAsks, stepsAsks]
    · exact Tells.runSteps ih steps d

theorem Session.chronicle (ctx : Context) (depth : ℕ) (commands : List Command) (session : Session)
    (sane : Sane 0 session.state) (recorded : session.state.Recorded) :
    Chronicle ctx session.state (session.asks ctx depth commands)
      (session.runAll ctx depth commands).2.state := by
  induction commands generalizing session with
  | nil => exact .quiet (.refl _)
  | cons command rest ih =>
    have later := ((stable_sane ctx).run depth command session sane recorded).1
    have hrest := ih _ later.holds later.recorded
    cases command with
    | step step =>
      unfold asks
      refine .append ?_ hrest
      unfold Session.run
      dsimp only
      split_ifs
      · exact Tells.runStep (inquires_reentry ctx depth) step 0 _ sane recorded
      · exact .quiet (.refl _)
    | drop sink =>
      refine hrest.of_alike ?_
      simp only [Session.run, Session.drop]
      split_ifs
      · have hsink : Alike session.state { session.state with sink := sink } :=
          .of_eq rfl rfl rfl rfl
        exact (hsink.trans (.dispose ctx _)).trans (.of_eq rfl rfl rfl rfl)
      · exact .refl _

theorem Session.count_answered {ctx : Context} {depth k : ℕ} {side : Side} {a : Answer}
    {commands : List Command} {session : Session}
    (command : commands[k]? = some (.step (.query (.count side))))
    (answer : (session.runAll ctx depth commands).1[k]? = some (.step a)) :
    ∃ x ∈ session.asks ctx depth commands, x.side = side ∧
      a = x.after.answer (.plain (x.outcome.map .count)) := by
  induction commands generalizing session k with
  | nil => cases command
  | cons first rest ih =>
    cases k with
    | zero =>
      cases command
      cases hheld : session.held with
      | true =>
        obtain ⟨within, x, hasks, hside, hanswer⟩ := runStep_count ctx (reentry ctx depth)
          (reentryAsks ctx depth) side session.state
        simp only [runAll, run, hheld, if_true, List.getElem?_cons_zero, Option.some.injEq,
          CommandAnswer.step.injEq] at answer
        refine ⟨x, ?_, hside, answer.symm.trans hanswer⟩
        simp only [asks, hheld, if_true, hasks]
        simp
      | false =>
        simp only [runAll, run, hheld, Bool.false_eq_true, if_false, List.getElem?_cons_zero,
          Option.some.injEq] at answer
        cases answer
    | succ k =>
      have hrest : ((session.run ctx depth first).2.runAll ctx depth rest).1[k]? =
          some (.step a) := answer
      obtain ⟨x, hx, h⟩ := ih command hrest
      refine ⟨x, ?_, h⟩
      cases first with
      | step step => exact List.mem_append_right _ hx
      | drop sink => exact hx

end EngineBridge.Facade
