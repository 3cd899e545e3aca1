import EngineBridge.Engine.Body

/-!
What the entry points of the in-tree engine come to, once each has been run to its end.
-/

namespace EngineBridge.Engine

open Abi (Export Handle Side)

namespace Memory

theorem behind_null {m : Memory} {h : Handle} (null : h.isNull) : m.behind h = none := if_pos null

theorem behind_live {m : Memory} {h : Handle} (live : ¬h.isNull) :
    m.behind h = some m.statement := if_neg live

end Memory

section

variable {σ α β : Type} {x : ExceptT Stop (StateM σ) α} {k : α → ExceptT Stop (StateM σ) β}
  {s s' : σ}

theorem run_bind_of_ok {a : α} (hx : x.run s = (.ok a, s')) :
    (x >>= k).run s = (k a).run s' := by
  simp only [ExceptT.run, bind, ExceptT.bind, ExceptT.mk, StateT.bind] at hx ⊢
  rw [hx]
  rfl

theorem run_bind_of_error {stop : Stop} (hx : x.run s = (.error stop, s')) :
    (x >>= k).run s = (.error stop, s') := by
  simp only [ExceptT.run, bind, ExceptT.bind, ExceptT.mk, StateT.bind] at hx ⊢
  rw [hx]
  rfl

end

namespace Body

section

variable {κ τ α : Type} {f f' : Frame κ} {h : Handle}

theorem get_run : (get : Body κ (Frame κ)).run f = (.ok f, f) := rfl

theorem onMemory_run {change : Memory → Memory} :
    (onMemory change).run f = (.ok (), { f with memory := change f.memory }) := rfl

theorem borrow_null (null : h.isNull) :
    (borrow h).run f = (.error (.refused noStatement), f) := by
  rw [borrow, run_bind_of_ok get_run, if_pos null]
  rfl

theorem borrow_live (live : ¬h.isNull) (alive : 0 < f.memory.references) :
    (borrow h).run f = (.ok f.memory.statement, f) := by
  rw [borrow, run_bind_of_ok get_run, if_neg live, if_neg (Nat.ne_of_gt alive)]
  rfl

theorem log_quiet {e : Log.Event} (quiet : e.announcesRelease = false ∨ f.memory.sink = none) :
    (log e).run f = (.ok (), { f with memory := f.memory.logging [e] }) := by
  rw [log, run_bind_of_ok onMemory_run, run_bind_of_ok get_run]
  cases hsink : f.memory.sink with
  | none =>
    simp only [Memory.logging, hsink]
    rfl
  | some p =>
    have hother : e.announcesRelease = false := quiet.resolve_right (by simp [hsink])
    simp only [Memory.logging, hsink, hother, Bool.false_eq_true, if_false]
    rfl

theorem log_armed {e : Log.Event} {p : Payload} (release : e.announcesRelease)
    (armed : f.memory.sink = some p) :
    (log e).run f =
      (.error (.panicked p),
        { f with memory := { f.memory.logging [e] with sink := none } }) := by
  rw [log, run_bind_of_ok onMemory_run, run_bind_of_ok get_run]
  simp only [Memory.logging, armed, if_pos release]
  rfl

theorem forM_log {events : List Log.Event} (quiet : ∀ e ∈ events, e.announcesRelease = false) :
    (forM events log).run f = (.ok (), { f with memory := f.memory.logging events }) := by
  induction events generalizing f with
  | nil =>
    simp only [Memory.logging, List.append_nil]
    rfl
  | cons e events ih =>
    have hfirst := quiet e List.mem_cons_self
    rw [List.forM_cons, run_bind_of_ok (log_quiet (.inl hfirst)),
      ih fun e he => quiet e (List.mem_cons_of_mem _ he)]
    simp [Memory.logging]

theorem checkOut_none {what : String} {f : Frame (Option α)} (missing : f.cell = none) :
    (checkOut what).run f = (.error (.refused (.nullArgument what)), f) := by
  rw [checkOut, run_bind_of_ok get_run, missing, if_pos Option.isNone_none]
  rfl

theorem checkOut_some {what : String} {f : Frame (Option α)} {before : α}
    (present : f.cell = some before) : (checkOut what).run f = (.ok (), f) := by
  rw [checkOut, run_bind_of_ok get_run, present, if_neg nofun]
  rfl

theorem write_some {a : α} {f : Frame (Option α)} {before : α}
    (present : f.cell = some before) :
    (write a).run f = (.ok (), { f with cell := some a }) := by
  rw [write, run_bind_of_ok get_run, present, if_neg nofun]
  rfl

theorem owning_run {use : Statement → Body κ Unit} {r : Except Stop Unit}
    (alive : 0 < f.memory.references) (used : (use f.memory.statement).run f = (r, f')) :
    (owning use).run f = (r, { f' with memory := f'.memory.giveUp }) := by
  rw [owning, run_bind_of_ok get_run, if_neg (Nat.ne_of_gt alive)]
  simp only [tryFinally, tryFinally', ExceptT.run, ExceptT.mk, StateT.bind, bind, pure,
    Functor.map, ExceptT.map] at used ⊢
  rw [used]
  cases r <;> rfl

theorem free_null (null : h.isNull) : (free h).run f = (.error (.refused noStatement), f) := by
  rw [free, if_pos null]
  rfl

/-- How a body that was stopped, or was not, ends for its caller. A fault is no ending. -/
inductive Ends : Except Stop Unit → Ending → Prop
  | done : Ends (.ok ()) .done
  | refused (r : Refusal) : Ends (.error (.refused r)) (.refused r)
  | panicked (p : Payload) : Ends (.error (.panicked p)) (.panicked p)

theorem announcesRelease_eq_false {e : Log.Event} (h : e.text.toList.head? ≠ some 'r') :
    e.announcesRelease = false := by
  rw [Log.Event.announcesRelease, beq_eq_false_iff_ne]
  rintro htext
  rw [htext] at h
  exact h rfl

theorem conclude_quiet (entryPoint : String) (ending : Ending) :
    ∀ e ∈ (conclude entryPoint ending).events, e.announcesRelease = false := by
  cases ending with
  | done => exact nofun
  | refused r =>
    rintro e he
    rw [List.mem_singleton.mp he]
    refine announcesRelease_eq_false ?_
    simp
  | panicked p =>
    rintro e he
    rw [List.mem_singleton.mp he]
    refine announcesRelease_eq_false ?_
    simp

theorem enter_run {e : Export} {body : Body κ Unit} {r : Except Stop Unit} {ending : Ending}
    (ends : Ends r ending) (h : body.run f = (r, f')) :
    (enter e body).run f =
      (.ok (conclude e.symbol ending).result,
        { f' with memory := f'.memory.logging (conclude e.symbol ending).events }) := by
  have hlog := forM_log (f := f') (conclude_quiet e.symbol ending)
  have hcaught : (tryCatch (do body; return Ending.done) caught : Body κ Ending).run f =
      (.ok ending, f') := by
    simp only [tryCatch, tryCatchThe, MonadExceptOf.tryCatch, ExceptT.tryCatch, ExceptT.run,
      ExceptT.mk, bind, ExceptT.bind, StateT.bind] at h ⊢
    rw [h]
    cases ends <;> rfl
  rw [enter, run_bind_of_ok hcaught, run_bind_of_ok hlog]
  rfl

/-- Step by step, a query with an out-parameter does what it does as a whole. -/
theorem enter_report (e : Export) (what : String) (value : Statement → α) (h : Handle)
    {m : Memory} (alive : 0 < m.references) (out : Option α) :
    (enter e (report what value h)).run ⟨m, out⟩ =
      let (c, out') := Engine.report e what value (m.behind h) out
      (.ok c.result, ⟨m.logging c.events, out'⟩) := by
  by_cases hnull : h.isNull
  · rw [Memory.behind_null hnull]
    exact enter_run (.refused noStatement) (run_bind_of_error (borrow_null hnull))
  · rw [Memory.behind_live hnull]
    have hborrow := borrow_live (f := ⟨m, out⟩) hnull alive
    cases out with
    | none =>
      have hbody : (report what value h).run ⟨m, none⟩ =
          (.error (.refused (.nullArgument what)), ⟨m, none⟩) :=
        (run_bind_of_ok hborrow).trans (run_bind_of_error (checkOut_none rfl))
      exact enter_run (.refused _) hbody
    | some before =>
      have hbody : (report what value h).run ⟨m, some before⟩ =
          (.ok (), ⟨m, some (value m.statement)⟩) :=
        (run_bind_of_ok hborrow).trans ((run_bind_of_ok (checkOut_some rfl)).trans (write_some rfl))
      exact enter_run .done hbody

theorem hand_run {setter : τ → Delivery → τ} {c : Column} {i : Nat} {f : Frame τ} :
    (hand setter c i).run f =
      (.ok (), { f with cell := setter f.cell ⟨i.toUInt64, c.raw, false⟩ }) := rfl

theorem forM_hand (setter : τ → Delivery → τ) (m : Memory) (columns : List Column) (start : Nat)
    (target : τ) :
    (forM (columns.zipIdx start) fun (c, i) => hand setter c i : Body τ PUnit).run ⟨m, target⟩ =
      (.ok (), ⟨m, (columns.mapIdx fun i c => ⟨(i + start).toUInt64, c.raw, false⟩).foldl setter
        target⟩) := by
  induction columns generalizing start target with
  | nil => rfl
  | cons c columns ih =>
    rw [List.zipIdx_cons, List.forM_cons, run_bind_of_ok hand_run, ih, List.mapIdx_cons,
      List.foldl_cons, Nat.zero_add]
    simp only [Nat.add_assoc, Nat.add_comm 1]

theorem enter_fill (side : Side) (h : Handle) (setter : Option (τ → Delivery → τ)) {m : Memory}
    (alive : 0 < m.references) (target : τ) :
    (enter (.fill side) (fill side h setter)).run ⟨m, target⟩ =
      let (c, deliveries) := Engine.fill side (m.behind h) setter.isSome
      (.ok c.result, ⟨m.logging c.events, setter.elim target (deliveries.foldl · target)⟩) := by
  by_cases hnull : h.isNull
  · have hbody : (fill side h setter).run ⟨m, target⟩ =
        (.error (.refused noStatement), ⟨m, target⟩) := run_bind_of_error (borrow_null hnull)
    rw [Memory.behind_null hnull, enter_run (.refused _) hbody]
    cases setter <;> rfl
  · rw [Memory.behind_live hnull]
    have hborrow := borrow_live (f := ⟨m, target⟩) hnull alive
    cases setter with
    | none =>
      have hbody : (fill side h (none : Option (τ → Delivery → τ))).run ⟨m, target⟩ =
          (.error (.refused (.nullArgument "column spec setter")), ⟨m, target⟩) :=
        run_bind_of_ok hborrow
      exact enter_run (.refused _) hbody
    | some setter =>
      have hbody : (fill side h (some setter)).run ⟨m, target⟩ =
          (.ok (), ⟨m, (deliveries (m.statement.columns side)).foldl setter target⟩) :=
        (run_bind_of_ok hborrow).trans (forM_hand setter m _ 0 target)
      exact enter_run .done hbody

theorem enter_free (h : Handle) {m : Memory} (single : m.references = 1) (cell : κ) :
    (enter .free (free h)).run ⟨m, cell⟩ =
      let r := Engine.free (m.behind h) m.sink
      (.ok r.result,
        ⟨{ m with
            references := 1 - r.drops
            drops := m.drops + r.drops
            events := m.events ++ r.events
            sink := r.sink }, cell⟩) := by
  by_cases hnull : h.isNull
  · rw [Memory.behind_null hnull, enter_run (.refused _) (free_null hnull)]
    cases m
    cases single
    rfl
  · rw [Memory.behind_live hnull]
    have alive : 0 < m.references := by omega
    have hfree : free h = (owning fun st => log st.releasing : Body κ Unit) := if_neg hnull
    cases hsink : m.sink with
    | none =>
      have hlog := log_quiet (f := ⟨m, cell⟩) (e := m.statement.releasing) (.inr hsink)
      rw [hfree, enter_run .done (owning_run alive hlog)]
      simp [Engine.free, conclude, Memory.logging, Memory.giveUp, single, hsink]
    | some p =>
      have hlog := log_armed (f := ⟨m, cell⟩) (e := m.statement.releasing) rfl hsink
      rw [hfree, enter_run (.panicked p) (owning_run alive hlog)]
      simp [Engine.free, conclude, Memory.logging, Memory.giveUp, single]

end

end Body

end EngineBridge.Engine
