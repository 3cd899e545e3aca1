import EngineBridge.Proofs.Engine.Release
import EngineBridge.Proofs.Facade.Reports

/-!
Panics in the release of a statement. The engine drops the statement whether or not the log event
that announces this is logged, and tells the facade about a panic as about any failure; the guard
takes notice of neither. So a statement is dropped once, and its callers go on as if nothing had
happened, even if the release is made while another panic is on its way out.
-/

namespace EngineBridge.Facade

open Abi (ErrorCode Export Handle RawResult)
open Engine (Call Memory Statement)
open Guard (Word)
open Text (Utf8.encode)

variable {st : Statement} {h : Handle} {s : State} {d : ℕ}

/-- The raw call behind an engine call of the facade, whose pointers are never null. -/
def rawCall? (h : Handle) : Export → Option (Call Unit)
  | .layout | .freeString => none
  | .free => some (.release h)
  | .isLwt => some ⟨h, .flag (some 0)⟩
  | .count side => some ⟨h, .count side (some 0)⟩
  | .fill side => some ⟨h, .fill side (some fun _ _ => ()) ()⟩
  | .id => some ⟨h, .id (some .empty)⟩

theorem keeps_of_rawCall? {e : Export} {c : Call Unit} (he : e ≠ .free)
    (hc : rawCall? h e = some c) : c.Keeps := by
  cases e with
  | free => exact absurd rfl he
  | layout | freeString => cases hc
  | isLwt | count | fill | id =>
    cases hc
    exact nofun

theorem calls_eq_append (entered : s.queriesAfterRelease = 0) :
    ∃ queries, .free ∉ queries ∧ s.calls = queries ++ List.replicate s.releases .free := by
  have hlater : ∀ e ∈ s.calls.dropWhile (· != .free), e = .free := by
    simpa [State.queriesAfterRelease] using entered
  have hqueries : .free ∉ s.calls.takeWhile (· != .free) := fun hmem => by
    simpa using List.mem_takeWhile_imp hmem
  have hreleases : s.releases = (s.calls.dropWhile (· != .free)).length := by
    conv_lhs => rw [State.releases, ← List.takeWhile_append_dropWhile (l := s.calls)
      (p := (· != .free))]
    rw [List.count_append, List.count_eq_zero.mpr hqueries, Nat.zero_add,
      List.count_eq_length.mpr fun e he => (hlater e he).symm]
  refine ⟨_, hqueries, ?_⟩
  rw [← List.eq_replicate_iff.mpr ⟨hreleases.symm, hlater⟩, List.takeWhile_append_dropWhile]

theorem Sound.raw_calls (sound : Sound d s) (live : ¬h.isNull) (sink : Option Payload) :
    ∃ answers m, ((s.calls.filterMap (rawCall? h)).mapM Call.run).run (.allocate st sink) =
        (.ok answers, m) ∧ m.drops = s.releases ∧ m.references = 1 - s.releases := by
  obtain ⟨queries, hfree, hcalls⟩ := calls_eq_append sound.entered
  have keeps : ∀ c ∈ queries.filterMap (rawCall? h), c.Keeps := by
    intro c hc
    obtain ⟨e, he, hec⟩ := List.mem_filterMap.mp hc
    exact keeps_of_rawCall? (fun heq => hfree (heq ▸ he)) hec
  have once : s.releases ≤ 1 := sound.released ▸ Word.due_le_one _
  rw [hcalls, List.filterMap_append]
  rcases Nat.le_one_iff_eq_zero_or_eq_one.mp once with hnone | hone
  · rw [hnone, List.replicate_zero, List.filterMap_nil, List.append_nil]
    exact ⟨_, _, Call.mapM_run Nat.zero_lt_one keeps, rfl, rfl⟩
  · rw [hone]
    obtain ⟨earlier, logged, hrun⟩ :=
      Call.mapM_release (m := .allocate st sink) live rfl keeps
    exact ⟨_, _, hrun, rfl, rfl⟩

variable {origin : Origin} {events : List Log.Event} {depth : ℕ} {commands : List Command}
  {answers : List CommandAnswer} {session : Session}

theorem live_of_adopt {ctx : Context} {s s' : State} (adopted : adopt ctx s = (.ok (), s')) :
    ¬ctx.handle.isNull := by
  intro hnull
  rw [adopt, if_pos hnull] at adopted
  cases adopted

/-- However the logging in it ends, the release drops the statement, no panic leaves it, and it
succeeds exactly if the event was logged; otherwise it reports an internal error with the text of
the panic. The guard tells the log of that report and goes on: the answers of a session are those of
a session in which the event is always logged, and what is answered to a step, or unwinds out of
it, stays what it was. The statement counts as disposed, is released once, by the drop at the
latest, and never again, and in the memory of the engine it has been dropped once by then. -/
theorem release_panic_contained
    (adopted : adopt (.ofStatement st origin h) (State.fresh.emitAll events) = (.ok (), s))
    (run : Session.runAll (.ofStatement st origin h) depth commands ⟨s, true⟩ = (answers, session))
    (shallow : Shallow session.state.trail) :
    let ctx := Context.ofStatement st origin h
    let calm := ctx.releasing fun _ _ => Engine.free (some st) none
    (∀ (τ : Type) (sink : Option Payload) (calls : List (Call τ)), (∀ c ∈ calls, c.Keeps) →
        ∃ earlier r m, ((calls ++ [Call.release h]).mapM Call.run).run (.allocate st sink) =
            (.ok (earlier ++ [(r, Engine.Argument.release)]), m) ∧
          m.references = 0 ∧ m.drops = 1 ∧ Engine.Told sink r ∧ (r.code = 0 ↔ sink = none) ∧
          r = (Engine.free (some st) sink).result) ∧
      (∀ t : State, ∃ es e, (release ctx t).events =
          t.events ++ (Engine.free (some st) t.sink).events ++ es ++ [e] ∧
        ReportOf ctx (Engine.free (some st) t.sink).result e) ∧
      (∃ session', Session.runAll calm depth commands ⟨s, true⟩ = (answers, session') ∧
        session.Related Peers session' ∧
        ∀ sink, (session.drop ctx sink).Related Peers (session'.drop calm sink)) ∧
      (∀ (k : ℕ) (a : Answer), session.state.trail[k]? = some (.answered a) →
        AnsweredAfter (session.state.trail.take k) a) ∧
      session.state.releases = (if session.state.word.isDisposed then 1 else 0) ∧
      ∀ sink, let dropped := (session.drop ctx sink).state
        dropped.word.isDisposed = true ∧ dropped.releases = 1 ∧ dropped.queriesAfterRelease = 0 ∧
          ∀ stored, ∃ answers m,
            ((dropped.calls.filterMap (rawCall? h)).mapM Call.run).run (.allocate st stored) =
              (.ok answers, m) ∧ m.references = 0 ∧ m.drops = 1 := by
  intro ctx calm
  have live : ¬h.isNull := live_of_adopt adopted
  have unseen : (Session.runAll ctx depth commands ⟨s, true⟩).1 =
        (Session.runAll calm depth commands ⟨s, true⟩).1 ∧
      (Session.runAll ctx depth commands ⟨s, true⟩).2.Related Peers
        (Session.runAll calm depth commands ⟨s, true⟩).2 :=
    @releases_unseen ctx ctx.table.free _ depth commands ⟨s, true⟩
  have coupling : Coupling .full ctx calm Peers := Peers.coupling ctx ctx.table.free _
  obtain ⟨sane, recorded⟩ := Sane.fresh adopted
  have held : Session.Ended ⟨s, true⟩ := nofun
  have ended := held.runAll ctx depth commands
  obtain ⟨later, -⟩ := (stable_sane ctx).runAll depth commands ⟨s, true⟩ sane recorded
  rw [run] at unseen later ended
  have sound := later.holds shallow
  generalize Session.runAll calm depth commands ⟨s, true⟩ = other at unseen ⊢
  obtain ⟨answers', session'⟩ := other
  obtain ⟨rfl, related⟩ := unseen
  refine ⟨fun τ sink calls keeps => ?_, fun t => ?_,
    ⟨session', rfl, related, fun sink => coupling.drop sink related⟩, sound.truthful, ?_,
    fun sink => ?_⟩
  · obtain ⟨earlier, logged, hrun⟩ := Call.mapM_release (m := .allocate st sink) live rfl keeps
    have told := Engine.told_free st sink
    exact ⟨earlier, _, _, hrun, rfl, rfl, told, told.code_eq_zero_iff, rfl⟩
  · obtain ⟨es, -, hevents⟩ := release_events ctx t
    exact ⟨es, _, hevents, reportOf_releaseReport ctx _⟩
  · rw [sound.released, Word.due]
    simp [sound.counted]
  · obtain ⟨soundDropped, disposed⟩ := later.holds.sound_drop ctx later.recorded ended shallow sink
    have once : (session.drop ctx sink).state.releases = 1 := by
      rw [soundDropped.released, Word.due, if_pos ⟨disposed, soundDropped.counted⟩]
    refine ⟨disposed, once, soundDropped.entered, fun stored => ?_⟩
    obtain ⟨given, m, hrun, hdrops, hreferences⟩ := soundDropped.raw_calls live stored
    rw [once] at hdrops hreferences
    exact ⟨given, m, hrun, hreferences, hdrops⟩

def keyedStatement : Context := .ofStatement Engine.keyed .linked ⟨8⟩

/-- A guarded call that disposes and panics, so that the release is made on its way out; and the
release panics as well. -/
def unwindingTwice : List CommandAnswer × Session :=
  Session.runAll keyedStatement 0
    [.step (.sinkPanics (.text "log is full") (.call [.dispose] (some .other) (.ok "")))]
    ⟨(adopt keyedStatement .fresh).2, true⟩

theorem release_panic_contained_unwinding :
    (∃ disposed inFlight releases nested, unwindingTwice.1 =
        [.step (.mk (.plain (.panic .other)) disposed inFlight releases nested)]) ∧
      unwindingTwice.2.state.releases = 1 ∧
      (∃ earlier m, (([⟨⟨8⟩, .id (some .empty)⟩, Call.release ⟨8⟩] : List (Call Unit)).mapM
          Call.run).run (.allocate Engine.keyed (some (.text "log is full"))) =
        (.ok (earlier ++ [(⟨12, some (Utf8.encode
          "engine panicked in prepared_statement_free: log is full")⟩, .release)]), m) ∧
        m.references = 0 ∧ m.drops = 1) ∧
      (unwindingTwice.2.drop keyedStatement none).state.releases = 1 := by
  have adopted : adopt keyedStatement (State.fresh.emitAll []) =
    (.ok (), (adopt keyedStatement .fresh).2) := rfl
  have run : Session.runAll keyedStatement 0
      [.step (.sinkPanics (.text "log is full") (.call [.dispose] (some .other) (.ok "")))]
      ⟨(adopt keyedStatement .fresh).2, true⟩ = (unwindingTwice.1, unwindingTwice.2) := rfl
  have shallow : Shallow unwindingTwice.2.state.trail := .of_length (by decide +kernel)
  obtain ⟨contained, -, -, -, released, dropped⟩ := release_panic_contained adopted run shallow
  have disposed : unwindingTwice.2.state.word.isDisposed = true := by decide +kernel
  rw [if_pos disposed] at released
  have keeps : ∀ c ∈ ([⟨⟨8⟩, .id (some .empty)⟩] : List (Call Unit)), c.Keeps := by
    simp [Call.Keeps]
  obtain ⟨earlier, r, m, hrun, hreferences, hdrops, told, -⟩ :=
    contained Unit (some (.text "log is full")) _ keeps
  refine ⟨⟨_, _, _, _, rfl⟩, released, ⟨earlier, m, ?_, hreferences, hdrops⟩, (dropped none).2.1⟩
  have hplain : '\x00' ∉ "engine panicked in prepared_statement_free: log is full".toList := by
    decide +kernel
  rw [← Engine.scrub_eq_self hplain]
  cases told
  exact hrun

end EngineBridge.Facade
