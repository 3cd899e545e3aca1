import EngineBridge.Proofs.Facade.Client
import EngineBridge.Proofs.Facade.Reentry

/-!
The whole bridge over the in-tree engine. What the builder was told arrives at the caller as it was
told: every client gets the answers of a plain record with one flag for the disposal, on which no
engine, no handle and no encoding leave a trace.
-/

namespace EngineBridge.Facade

open Abi (Export Handle Side)
open Engine (BuildStep Column Delivery Reply Statement Table deliveries)
open Guard (Word)

theorem build_id (st : Statement) (steps : List BuildStep) :
    (st.build steps).id = (steps.filterMap setId?).getLastD st.id := by
  induction steps generalizing st with
  | nil => rfl
  | cons step steps ih =>
    rw [Statement.build, List.foldl_cons, ← Statement.build, ih]
    cases step with
    | id bytes => exact (List.getLastD_cons ..).symm
    | _ => rfl

theorem build_lwt (st : Statement) (steps : List BuildStep) :
    (st.build steps).confirmedLwt = (steps.filterMap setLwt?).getLastD st.confirmedLwt := by
  induction steps generalizing st with
  | nil => rfl
  | cons step steps ih =>
    rw [Statement.build, List.foldl_cons, ← Statement.build, ih]
    cases step with
    | lwt confirmed => exact (List.getLastD_cons ..).symm
    | _ => rfl

theorem build_columns (st : Statement) (steps : List BuildStep) (side : Side) :
    (st.build steps).columns side = st.columns side ++ steps.filterMap (addedColumn? side) := by
  induction steps generalizing st with
  | nil => exact (List.append_nil _).symm
  | cons step steps ih =>
    have happly : (step.apply st).columns side =
        st.columns side ++ (addedColumn? side step).toList := by
      cases side <;> cases step <;> simp [BuildStep.apply, Statement.columns, addedColumn?]
    rw [Statement.build, List.foldl_cons, ← Statement.build, ih, happly, List.append_assoc,
      List.filterMap_cons]
    cases addedColumn? side step <;> rfl

def mirror (st : Statement) (s : State) : Record :=
  ⟨st.id, st.confirmedLwt, st.variableColumns, st.resultColumns, s.word.isDisposed⟩

theorem columns_mirror (st : Statement) (s : State) (side : Side) :
    (mirror st s).columns side = st.columns side := by
  cases side <;> rfl

theorem mirror_build (query : String) (steps : List BuildStep) {s : State}
    (live : s.word.isDisposed = false) :
    mirror ((Statement.ofQuery query).build steps) s = .ofSteps steps := by
  have hvariables := build_columns (.ofQuery query) steps .variables
  have hresults := build_columns (.ofQuery query) steps .results
  simp only [Statement.columns, Statement.ofQuery, List.nil_append] at hvariables hresults
  rw [mirror, build_id, build_lwt, live, Record.ofSteps, Record.mk.injEq]
  exact ⟨rfl, rfl, hvariables, hresults, rfl⟩

theorem carries_raw (c : Column) {index : UInt64} {expected : ℕ} (h : index.toNat = expected) :
    Carries ⟨index, c.raw, false⟩ expected c :=
  ⟨h, rfl, rfl, rfl, rfl⟩

theorem delivers_mapIdx (columns : List Column) (first : ℕ)
    (fits : first + columns.length ≤ UInt64.size) :
    Delivers first (columns.mapIdx fun i c => ⟨(first + i).toUInt64, c.raw, false⟩) columns [] := by
  induction columns generalizing first with
  | nil => exact .nil
  | cons c columns ih =>
    rw [List.length_cons] at fits
    have hindex : (first + 0).toUInt64.toNat = first := by
      rw [Nat.add_zero, Nat.toUInt64_eq, UInt64.toNat_ofNat_of_lt' (by omega)]
    rw [List.mapIdx_cons]
    refine .cons rfl (carries_raw c hindex) ?_
    have hrest := ih (first + 1) (by omega)
    simpa [Nat.add_assoc, Nat.add_comm 1] using hrest

theorem delivers_deliveries {columns : List Column} (fits : columns.length < UInt64.size) :
    Delivers 0 (deliveries columns) columns [] := by
  have h := delivers_mapIdx columns 0 (by omega)
  simpa [deliveries] using h

def Cached (st : Statement) (s : State) : Prop :=
  ∀ side n, s.cached side = some n → n.toNat = (st.columns side).length

variable {α β μ : Type} {st : Statement} {ctx : Context} {inside : Reentry} {d : ℕ} {s s' : State}

theorem Cached.of_eq (cached : Cached st s) (h : s'.cached = s.cached) : Cached st s' := by
  intro side n hn
  rw [h] at hn
  exact cached side n hn

theorem Cached.store (cached : Cached st s) {side : Side} {n : UInt64}
    (h : n.toNat = (st.columns side).length) : Cached st (s.store side n) := by
  intro side' m hm
  have hor : s.cached side' = some m ∨ side' = side ∧ n = m := by
    cases side <;> cases side' <;>
      simp only [State.store, State.cached, Option.or_eq_some_iff, Option.some.injEq] at hm ⊢ <;>
      grind
  rcases hor with hold | ⟨rfl, rfl⟩
  · exact cached side' m hold
  · exact h

theorem cached_store {side : Side} {n : UInt64} (h : s.cached side = none) :
    (s.store side n).cached side = some n := by
  cases side <;> simp only [State.cached] at h <;> simp [State.store, State.cached, h]

theorem store_word (s : State) (side : Side) (n : UInt64) : (s.store side n).word = s.word := by
  cases side <;> rfl

theorem store_trail (s : State) (side : Side) (n : UInt64) : (s.store side n).trail = s.trail := by
  cases side <;> rfl

theorem Shallow.of_prefix {t t' : List Mark} (shallow : Shallow t') (h : t <+: t') : Shallow t :=
  fun before hbefore => shallow before (hbefore.trans h)

theorem leave_cached (ctx : Context) (s : State) : (leave ctx s).cached = s.cached := by
  obtain ⟨l, es, p, hleave⟩ := leave_frame ctx s
  rw [hleave]
  funext side
  cases side <;> rfl

theorem leave_trail (ctx : Context) (s : State) : (leave ctx s).trail = s.trail ++ [.closed] := by
  obtain ⟨l, es, p, hleave⟩ := leave_frame ctx s
  rw [hleave]

theorem leave_isDisposed (ctx : Context) (counted : 0 < s.word.count) :
    (leave ctx s).word.isDisposed = s.word.isDisposed := by
  obtain ⟨l, es, p, hleave⟩ := leave_frame ctx s
  rw [hleave]
  exact (Word.left_of_counted counted).1

theorem disposeStatement_effect (ctx : Context) (s : State) :
    (disposeStatement ctx s).word = s.word.disposed ∧
      (disposeStatement ctx s).cached = s.cached := by
  obtain ⟨l, es, p, hdispose⟩ := dispose_frame ctx s
  rw [disposeStatement, hdispose]
  cases s.word.isDisposed with
  | true => exact ⟨rfl, funext fun side => by cases side <;> rfl⟩
  | false => exact ⟨rfl, funext fun side => by cases side <;> rfl⟩

theorem Stable.admitted {I : ℕ → State → Prop} (stable : Stable ctx I)
    (live : s.word.isDisposed = false) (holds : I d s) (recorded : s.Recorded) :
    Later I (d + 1) s (s.admitted ctx) :=
  stable.emit (stable.enter (enter?_of_live live) (.refl holds recorded)) _

theorem Sane.admitted (ctx : Context) (live : s.word.isDisposed = false) (sane : Sane d s) :
    Sane (d + 1) (s.admitted ctx) :=
  (sane.opened (enter?_of_live live)).of_eq rfl rfl rfl

theorem Sane.admitted_live (ctx : Context) (live : s.word.isDisposed = false) (sane : Sane d s)
    (shallow : Shallow (s.admitted ctx).trail) : (s.admitted ctx).word.isDisposed = false := by
  have hflag := (sane shallow.of_concat).flag
  have hflag' := (sane.admitted ctx live shallow).flag
  have htrail : (s.admitted ctx).trail = s.trail ++ [.opened] := rfl
  simp only [htrail, List.mem_append, List.mem_singleton, reduceCtorEq, or_false, ← hflag,
    live] at hflag'
  simpa using hflag'

theorem Keeps.andThen {I : ℕ → State → Prop} {op : State → α × State}
    {next : α → State → β × State} (h : Keeps I d op) (hnext : ∀ a, Keeps I d (next a)) :
    Keeps I d (andThen op next) := by
  intro s holds recorded
  have later := h s holds recorded
  exact later.trans (hnext _ _ later.holds later.recorded)

/-- An operation over the statement `st` that starts with `d` operations open does to the state and
answers what `spec` does to the record and answers. -/
structure Refines (st : Statement) (d : ℕ) (op : State → α × State) (spec : Record → α × Record) :
    Prop where
  keeps : Keeps Sane d op
  agrees : ∀ s, Sane d s → s.Recorded → Cached st s → Shallow (op s).2.trail →
    spec (mirror st s) = ((op s).1, mirror st (op s).2) ∧ Cached st (op s).2

namespace Refines

variable {op : State → α × State} {spec : Record → α × Record}

theorem done (a : α) : Refines st d (fun s => (a, s)) fun r => (a, r) where
  keeps _ sane recorded := .refl sane recorded
  agrees _ _ _ cached _ := ⟨rfl, cached⟩

theorem andThen {next : α → State → β × State} {specNext : α → Record → β × Record}
    (h : Refines st d op spec) (hnext : ∀ a, Refines st d (next a) (specNext a)) :
    Refines st d (andThen op next) (andThen spec specNext) where
  keeps := h.keeps.andThen fun a => (hnext a).keeps
  agrees s sane recorded cached shallow := by
    have later := h.keeps s sane recorded
    have hgrown := ((hnext (op s).1).keeps _ later.holds later.recorded).grown
    obtain ⟨hspec, hcached⟩ := h.agrees s sane recorded cached (shallow.of_prefix hgrown)
    obtain ⟨hspec', hcached'⟩ :=
      (hnext (op s).1).agrees _ later.holds later.recorded hcached shallow
    refine ⟨?_, hcached'⟩
    rw [Facade.andThen, hspec]
    exact hspec'

theorem visitEach {visitor : Visitor μ}
    {specVisitor : ℕ → Column → μ → Record → (Option Payload × μ) × Record}
    (h : ∀ i c m, Refines st d (visitor i c m) (specVisitor i c m)) (columns : List Column)
    (index : ℕ) (memory : μ) :
    Refines st d (visitEach visitor index columns memory)
      (visitEach specVisitor index columns memory) := by
  induction columns generalizing index memory with
  | nil => exact done (none, memory)
  | cons c columns ih =>
    rw [visitEach_cons, visitEach_cons]
    refine (h index c memory).andThen ?_
    rintro ⟨_ | p, memory'⟩
    · exact ih (index + 1) memory'
    · exact done (some p, memory')

theorem congr {spec' : Record → α × Record} (h : Refines st d op spec)
    (hspec : ∀ s, spec' (mirror st s) = spec (mirror st s)) : Refines st d op spec' where
  keeps := h.keeps
  agrees s := by
    rw [hspec]
    exact h.agrees s

theorem map {op : State → Outcome α × State} {e : Error} {a : α} (f : α → β)
    (h : Refines st d op fun r => (if r.disposed then .error e else .value a, r)) :
    Refines st d (fun s => let (o, s) := op s; (o.map f, s))
      fun r => (if r.disposed then .error e else .value (f a), r) := by
  refine (h.andThen fun o => done (o.map f)).congr fun s => ?_
  rw [Facade.andThen]
  split_ifs
  · rfl
  · rfl

theorem disposeStatement (ctx : Context) :
    Refines st d (fun s => ((), disposeStatement ctx s))
      fun r => ((), { r with disposed := true }) where
  keeps s sane recorded := (stable_sane ctx).disposeStatement (.refl sane recorded)
  agrees s _ _ cached _ := by
    obtain ⟨hword, hcached⟩ := disposeStatement_effect ctx s
    refine ⟨?_, cached.of_eq hcached⟩
    rw [mirror, mirror, hword, Word.isDisposed_disposed]

theorem isDisposed :
    Refines st d (fun s => (s.word.isDisposed, s)) fun r => (r.disposed, r) where
  keeps _ sane recorded := .refl sane recorded
  agrees _ _ _ cached _ := ⟨rfl, cached⟩

theorem guarded {refused : Error → α} {a : α} (keeps : Keeps Sane d (guarded ctx refused op))
    (run : ∀ s, Cached st s → (op s).1 = a ∧ (op s).2.word = s.word ∧ (op s).2.trail = s.trail ∧
      Cached st (op s).2) :
    Refines st d (Facade.guarded ctx refused op) fun r =>
      (if r.disposed then refused (.resourceDisposed ctx.resource.name) else a, r) where
  keeps := keeps
  agrees s sane recorded cached shallow := by
    by_cases hdisposed : s.word.isDisposed = true
    · rw [guarded_of_disposed hdisposed]
      refine ⟨?_, cached⟩
      simp [mirror, hdisposed]
    · rw [Bool.not_eq_true] at hdisposed
      obtain ⟨hop, hword, htrail, hcached⟩ := run (s.admitted ctx) (cached.of_eq rfl)
      generalize hrun : op (s.admitted ctx) = r at hop hword htrail hcached
      obtain ⟨a', s'⟩ := r
      obtain rfl : a' = a := hop
      rw [guarded_of_live hdisposed hrun] at shallow ⊢
      dsimp only at shallow hword htrail hcached ⊢
      rw [leave_trail, htrail] at shallow
      have hshallow := shallow.of_concat
      have hcount := (sane.admitted ctx hdisposed hshallow).counted
      have hlive := sane.admitted_live ctx hdisposed hshallow
      have hleft : (leave ctx s').word.isDisposed = false := by
        rw [leave_isDisposed ctx (by rw [hword]; omega), hword, hlive]
      refine ⟨?_, hcached.of_eq (leave_cached ctx s')⟩
      simp [mirror, hdisposed, hleft]

end Refines

def State.called (e : Export) (s : State) : State := { s with calls := s.calls ++ [e] }

theorem beginCall_success {e : Export} {f : ℕ → Reply α} {written : Option α}
    (hf : ∀ n, f n = ⟨[], [], written, .success⟩) (inside : Reentry) (s : State) :
    beginCall inside e f s = (⟨[], [], written, .success⟩, s.called e) := by
  simp only [beginCall, hf, State.emitAll, List.append_nil]
  rfl

theorem endCall_success (written : Option α) (s : State) :
    endCall ⟨[], [], written, .success⟩ s = (⟨0, none⟩, s) :=
  rfl

theorem check_success (ctx : Context) (entryPoint : String) (s : State) :
    check ctx entryPoint ⟨0, none⟩ s = (.ok (), s) :=
  rfl

section

variable (st : Statement) (origin : Origin) (handle : Handle)

theorem isLwt_reply (n : ℕ) : (Context.ofStatement st origin handle).table.isLwt n =
    ⟨[], [], some (Abi.encodeBool st.confirmedLwt), .success⟩ :=
  rfl

theorem id_reply (n : ℕ) : (Context.ofStatement st origin handle).table.id n =
    ⟨[], [], some (.bytes st.id), .success⟩ :=
  rfl

theorem count_reply (side : Side) (n : ℕ) :
    (Context.ofStatement st origin handle).table.count side n =
      ⟨[], [], some (st.columns side).length.toUInt64, .success⟩ := by
  cases side <;> rfl

theorem fill_reply (side : Side) (n : ℕ) :
    (Context.ofStatement st origin handle).table.fill side n =
      ⟨[], [], some (deliveries (st.columns side)), .success⟩ := by
  cases side <;> rfl

end

theorem Verdict.of_success {entryPoint : String} {count : ℕ} {panic : Option Payload}
    {outcome : Outcome ℕ} (h : Verdict entryPoint count (.ok ()) panic [] outcome) :
    outcome = panic.elim (.value count) .panic := by
  cases h with
  | panicked => rfl
  | delivered => rfl
  | failed hfailed => cases hfailed

theorem visitEach_collect {σ : Type} (columns : List Column) (index : ℕ) (seen : List Column)
    (s : σ) :
    visitEach (fun _ c seen s => ((none, seen ++ [c]), s)) index columns seen s =
      ((none, seen ++ columns), s) := by
  induction columns generalizing index seen with
  | nil => rw [visitEach, List.append_nil]
  | cons c columns ih =>
    have hrest := ih (index + 1) (seen ++ [c])
    rwa [List.append_assoc, List.singleton_append] at hrest

theorem fill_success {origin : Origin} {handle : Handle} {side : Side} {visitor : Visitor μ}
    {memory memory' : μ} {panic : Option Payload} (live : s.word.isDisposed = false)
    (fits : (st.columns side).length < UInt64.size)
    (visited : visitEach visitor 0 (st.columns side) memory
      ((s.admitted (.ofStatement st origin handle)).called (.fill side)) = ((panic, memory'), s')) :
    fill (.ofStatement st origin handle) inside side visitor memory s =
      ((panic.elim (.value (st.columns side).length) .panic, memory'),
        leave (.ofStatement st origin handle) s') := by
  have hbegin := beginCall_success (e := .fill side) (fill_reply st origin handle side) inside
    (s.admitted (.ofStatement st origin handle))
  obtain ⟨outcome, verdict, hfill⟩ :=
    fill_of_live live hbegin (delivers_deliveries fits) visited
  rw [reported_success] at verdict
  rw [hfill, verdict.of_success, endCall_success, check_success]

namespace Refines

variable {origin : Origin} {handle : Handle} (hin : ∀ d steps, Runs Sane d (inside steps))
  (fits : ∀ side, (st.columns side).length < UInt64.size)

include hin

theorem isLwt : Refines st d (isLwt (.ofStatement st origin handle) inside) fun r =>
    (if r.disposed then .error Record.refusal else .value st.confirmedLwt, r) := by
  refine guarded ((stable_sane _).isLwt (hin (d + 1))) fun s cached => ?_
  simp only [beginCall_success (isLwt_reply st origin handle), endCall_success, check_success,
    Option.getD_some, Abi.decodeBool_encodeBool]
  exact ⟨trivial, rfl, rfl, cached.of_eq rfl⟩

theorem statementId : Refines st d (statementId (.ofStatement st origin handle) inside) fun r =>
    (if r.disposed then .error Record.refusal else .value st.id, r) := by
  refine guarded ((stable_sane _).statementId (hin (d + 1))) fun s cached => ?_
  simp only [beginCall_success (id_reply st origin handle), endCall_success, check_success,
    Option.getD_some, Abi.View.isDangling, Abi.View.content, Bool.false_eq_true, if_false]
  exact ⟨trivial, rfl, rfl, cached.of_eq rfl⟩

include fits

theorem columnCount (side : Side) :
    Refines st d (columnCount (.ofStatement st origin handle) inside side) fun r =>
      (if r.disposed then .error Record.refusal else .value (st.columns side).length, r) := by
  refine guarded ((stable_sane _).columnCount (hin (d + 1)) side) fun s cached => ?_
  cases hcached : s.cached side with
  | some n => exact ⟨congrArg Outcome.value (cached side n hcached), rfl, rfl, cached⟩
  | none =>
    have hlength : (st.columns side).length.toUInt64.toNat = (st.columns side).length := by
      rw [Nat.toUInt64_eq, UInt64.toNat_ofNat_of_lt' (fits side)]
    simp only [beginCall_success (count_reply st origin handle side), endCall_success,
      check_success, Option.getD_some]
    refine ⟨?_, ?_, ?_, ?_⟩
    · rw [cached_store, Option.getD_some, hlength]
      exact hcached
    · rw [store_word]
      rfl
    · rw [store_trail]
      rfl
    · refine Cached.store ?_ hlength
      exact cached.of_eq rfl

theorem fill {visitor : Visitor μ}
    {specVisitor : ℕ → Column → μ → Record → (Option Payload × μ) × Record}
    (h : ∀ i c m, Refines st (d + 1) (visitor i c m) (specVisitor i c m)) (side : Side)
    (memory : μ) :
    Refines st d (Facade.fill (.ofStatement st origin handle) inside side visitor memory)
      (Record.fill side specVisitor memory) where
  keeps := (stable_sane _).fill (hin (d + 1)) side (fun i c m => (h i c m).keeps) memory
  agrees s sane recorded cached shallow := by
    by_cases hdisposed : s.word.isDisposed = true
    · rw [Facade.fill, guarded_of_disposed hdisposed]
      refine ⟨?_, cached⟩
      simp only [Record.fill, mirror, hdisposed, if_true]
      rfl
    · rw [Bool.not_eq_true] at hdisposed
      have stable := stable_sane (.ofStatement st origin handle)
      have hadmitted := stable.admitted hdisposed sane recorded
      have later₁ : Later Sane (d + 1) s
          ((s.admitted (.ofStatement st origin handle)).called (.fill side)) :=
        hadmitted.aside (hadmitted.holds.called nofun) rfl rfl
      have hvisits := visitEach h (st.columns side) 0 memory
      have later₂ := hvisits.keeps _ later₁.holds later₁.recorded
      have hagrees := hvisits.agrees _ later₁.holds later₁.recorded (cached.of_eq rfl)
      obtain ⟨panic, memory', s₂, hvisit⟩ : ∃ panic memory' s₂,
        Facade.visitEach visitor 0 (st.columns side) memory
          ((s.admitted (.ofStatement st origin handle)).called (.fill side)) =
            ((panic, memory'), s₂) := ⟨_, _, _, rfl⟩
      rw [hvisit] at later₂ hagrees
      rw [fill_success hdisposed (fits side) hvisit] at shallow ⊢
      dsimp only at shallow later₂ hagrees ⊢
      rw [leave_trail] at shallow
      have hshallow := shallow.of_concat
      have hcounted := (later₂.holds hshallow).counted
      have hlive : (s.admitted (.ofStatement st origin handle)).word.isDisposed = false :=
        sane.admitted_live _ hdisposed (hshallow.of_prefix later₂.grown)
      obtain ⟨hspec, hcached⟩ := hagrees hshallow
      refine ⟨?_, hcached.of_eq (leave_cached _ s₂)⟩
      have hmirror : mirror st ((s.admitted (.ofStatement st origin handle)).called (.fill side)) =
          mirror st s := by
        rw [mirror, mirror, hdisposed]
        exact congrArg (Record.mk _ _ _ _) hlive
      have hrecord : (mirror st s).disposed = false := hdisposed
      rw [hmirror] at hspec
      simp only [Record.fill, hrecord, Bool.false_eq_true, if_false, columns_mirror, hspec]
      rw [mirror, mirror, leave_isDisposed _ (by omega)]

theorem columnSpecs (side : Side) :
    Refines st d (columnSpecs (.ofStatement st origin handle) inside side) fun r =>
      (if r.disposed then .error Record.refusal else .value (st.columns side), r) := by
  have hfill : Refines st d
      (Facade.fill (.ofStatement st origin handle) inside side collector [])
      (Record.fill side (fun _ c columns r => ((none, columns ++ [c]), r)) []) :=
    fill hin fits (fun _ c columns => done (none, columns ++ [c])) side []
  refine (hfill.andThen fun a => done (a.1.map fun _ => a.2)).congr fun s => ?_
  by_cases hdisposed : (mirror st s).disposed = true
  · simp only [Facade.andThen, Record.fill, hdisposed, if_true, Outcome.map]
  · simp only [Facade.andThen, Record.fill, hdisposed, visitEach_collect, Outcome.map,
      Option.elim_none, columns_mirror, List.nil_append]
    rfl

theorem runQuery (q : Query) :
    Refines st d (runQuery (.ofStatement st origin handle) inside q) (Record.query q) := by
  cases q with
  | isLwt => exact (map Reading.flag (isLwt hin)).congr fun s => rfl
  | count side =>
    refine (map Reading.count (columnCount hin fits side)).congr fun s => ?_
    rw [Record.query, Record.reading, columns_mirror]
  | specs side =>
    refine (map Reading.columns (columnSpecs hin fits side)).congr fun s => ?_
    rw [Record.query, Record.reading, columns_mirror]
  | id => exact (map Reading.bytes (statementId hin)).congr fun s => rfl

theorem client (client : Client α) :
    Refines st d (client.run (.ofStatement st origin handle) inside) client.onRecord := by
  induction client generalizing d with
  | done a => exact done a
  | query q next ih => exact (runQuery hin fits q).andThen fun o => ih o
  | fill side visitor memory next hvisitor ih =>
    exact (fill hin fits (fun i c m => hvisitor i c m) side memory).andThen fun a => ih a
  | isDisposed next ih => exact isDisposed.andThen fun b => ih b
  | dispose next ih => exact (disposeStatement _).andThen fun u => ih u

end Refines

/-- A client that uses a statement through the bridge is answered as by the plain record of the
steps from which the statement was built: the last identifier, the last flag, the columns in order,
and whether the statement has been disposed of. There may be as many columns as can be counted, and
operations may stand inside one another as deep as the guard can count. -/
theorem bridge_refines_record (client : Client α) {query : String} {steps : List BuildStep}
    {origin : Origin} {handle : Handle} {events : List Log.Event} {depth : ℕ}
    (prepared : ctx = .ofStatement ((Statement.ofQuery query).build steps) origin handle)
    (fits : ∀ side, ((Record.ofSteps steps).columns side).length < UInt64.size)
    (adopted : adopt ctx (State.fresh.emitAll events) = (.ok (), s))
    (shallow : Shallow (client.run ctx (reentry ctx depth) s).2.trail) :
    (client.run ctx (reentry ctx depth) s).1 = (client.onRecord (.ofSteps steps)).1 := by
  subst prepared
  obtain ⟨sane, recorded⟩ := Sane.fresh adopted
  obtain ⟨es, rfl⟩ := adopt_frame adopted
  have hmirror := mirror_build query steps (s := { State.fresh.emitAll events with events := es })
    Word.isDisposed_fresh
  have hfits : ∀ side,
      (((Statement.ofQuery query).build steps).columns side).length < UInt64.size := by
    intro side
    rw [← columns_mirror, hmirror]
    exact fits side
  have stable :=
    stable_sane (.ofStatement ((Statement.ofQuery query).build steps) origin handle)
  have cached : Cached ((Statement.ofQuery query).build steps)
      { State.fresh.emitAll events with events := es } := by
    intro side n hn
    cases side <;> cases hn
  obtain ⟨hspec, -⟩ := (Refines.client (stable.reentry depth) hfits client).agrees _ sane
    recorded cached shallow
  rw [hmirror] at hspec
  rw [hspec]

def sampleSteps : List BuildStep :=
  [.id [1], .variable ⟨"ks", "t", "v", 3⟩, .lwt true, .result ⟨"ks", "t", "é", 9⟩, .id [2, 0],
    .variable ⟨"ks", "t", "w", 4⟩]

def sampleContext : Context :=
  .ofStatement ((Statement.ofQuery "SELECT 1").build sampleSteps) .linked ⟨1⟩

def hastyClient : Client (Outcome ℕ × List Column × Outcome Reading × Outcome Reading) :=
  .query .id fun id =>
    .fill .variables (fun i c seen => .dispose fun _ =>
      .done (if i = 1 then some .other else none, seen ++ [c])) [] fun (filled, seen) =>
      .query .isLwt fun refused => .done (filled, seen, id, refused)

theorem bridge_refines_record_hasty :
    ∃ s, adopt sampleContext (State.fresh.emitAll []) = (.ok (), s) ∧
      (hastyClient.run sampleContext (reentry sampleContext 0) s).1 =
        (.panic .other, [⟨"ks", "t", "v", 3⟩, ⟨"ks", "t", "w", 4⟩], .value (.bytes [2, 0]),
          .error Record.refusal) := by
  have prepared : sampleContext =
    .ofStatement ((Statement.ofQuery "SELECT 1").build sampleSteps) .linked ⟨1⟩ := rfl
  have fits : ∀ side, ((Record.ofSteps sampleSteps).columns side).length < UInt64.size := by
    intro side
    cases side <;> decide
  have adopted : adopt sampleContext (State.fresh.emitAll []) =
    (.ok (), (adopt sampleContext (State.fresh.emitAll [])).2) := rfl
  have shallow : Shallow (hastyClient.run sampleContext (reentry sampleContext 0)
    (adopt sampleContext (State.fresh.emitAll [])).2).2.trail := .of_length (by decide +kernel)
  exact ⟨_, adopted, bridge_refines_record hastyClient prepared fits adopted shallow⟩

end EngineBridge.Facade
