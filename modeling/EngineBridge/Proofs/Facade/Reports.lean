import EngineBridge.Proofs.Facade.Coupling
import EngineBridge.Proofs.Facade.Reentry

/-!
What a release reports. Whatever the engine answers to the release, callers go on as if nothing had
been said: the answers, the flag, the counts and the calls are those of a release that went well.
The report is told to the log and to nobody else, in one event that names the kind of outcome.
-/

namespace EngineBridge.Facade

open Abi (ErrorCode Export RawResult)
open Engine (Ledger Release Reply Returned Table)

variable {ctx ctx' : Context} {s t s' t' : State}

def Peers (s t : State) : Prop := ∃ l es p, t = { s with ledger := l, events := es, sink := p }

def Context.releasing (ctx : Context) (free : ℕ → Option Payload → Release) : Context :=
  { ctx with table := { ctx.table with free := free } }

theorem matching_releasing {scope : Scope} (within : ctx.table.Within scope)
    (free free' : ℕ → Option Payload → Release) :
    (ctx.releasing free).table.Matching scope (ctx.releasing free').table where
  isLwt := .refl within.isLwt
  count side := by
    match side with
    | .variables => exact .refl (within.count .variables)
    | .results => exact .refl (within.count .results)
  fill side := by
    match side with
    | .variables => exact .refl (within.fill .variables)
    | .results => exact .refl (within.fill .results)
  delivered side := by cases side <;> rfl
  id := .refl within.id

theorem Peers.coupling (ctx : Context) (free free' : ℕ → Option Payload → Release) :
    Coupling .full (ctx.releasing free) (ctx.releasing free') Peers where
  resource := rfl
  handle := rfl
  origin _ := rfl
  own _ := rfl
  seen := by
    rintro s _ ⟨l, es, p, rfl⟩
    exact ⟨rfl, rfl, rfl, rfl, rfl⟩
  logged := by
    rintro s _ es - ⟨l, es', p, rfl⟩
    exact ⟨_, _, _, rfl⟩
  nested := by
    rintro s _ n ⟨l, es, p, rfl⟩
    exact ⟨_, _, _, rfl⟩
  sink := by
    rintro s _ p ⟨l, es, p', rfl⟩
    exact ⟨_, _, _, rfl⟩
  word := by
    rintro s _ w ⟨l, es, p, rfl⟩
    exact ⟨_, _, _, rfl⟩
  marked := by
    rintro s _ m ⟨l, es, p, rfl⟩
    exact ⟨_, _, _, rfl⟩
  stored := by
    rintro s _ side n ⟨l, es, p, rfl⟩
    cases side <;> exact ⟨_, _, _, rfl⟩
  called := by
    rintro s _ e - ⟨l, es, p, rfl⟩
    exact ⟨_, _, _, rfl⟩
  concluded := by
    rintro s _ α entryPoint r r' - ⟨l, es, p, rfl⟩
    obtain ⟨l₁, es₁, h⟩ := check_frame (ctx.releasing free) entryPoint (endCall r s).1
      (endCall r s).2
    obtain ⟨l₂, es₂, h'⟩ := check_frame (ctx.releasing free') entryPoint
      (endCall r' { s with ledger := l, events := es, sink := p }).1
      (endCall r' { s with ledger := l, events := es, sink := p }).2
    rw [h, h']
    exact ⟨_, _, _, rfl⟩
  left := by
    rintro s _ ⟨l, es, p, rfl⟩
    obtain ⟨l₁, es₁, p₁, h⟩ := leave_frame (ctx.releasing free) s
    obtain ⟨l₂, es₂, p₂, h'⟩ :=
      leave_frame (ctx.releasing free') { s with ledger := l, events := es, sink := p }
    rw [h, h']
    exact ⟨_, _, _, rfl⟩
  disposed := by
    rintro s _ ⟨l, es, p, rfl⟩
    obtain ⟨l₁, es₁, p₁, h⟩ := dispose_frame (ctx.releasing free) s
    obtain ⟨l₂, es₂, p₂, h'⟩ :=
      dispose_frame (ctx.releasing free') { s with ledger := l, events := es, sink := p }
    rw [h, h']
    exact ⟨_, _, _, rfl⟩
  unlogged := by
    rintro s _ s' _ - ⟨l, es, p, rfl⟩ ⟨l', es', p', rfl⟩
    exact ⟨_, _, _, rfl⟩
  restored := by
    rintro s _ s' _ ⟨l, es, p, rfl⟩ ⟨l', es', p', rfl⟩
    exact ⟨_, _, _, rfl⟩

def reports (es : List Log.Event) : List Log.Event := es.filter (·.isReport)

theorem reports_append_of_logs {es : List Log.Event} (h : ∀ e ∈ es, e.isReport = false)
    (before : List Log.Event) : reports (before ++ es) = reports before := by
  have hnone : es.filter (·.isReport) = [] :=
    List.filter_eq_nil_iff.mpr fun e he => by simp [h e he]
  rw [reports, List.filter_append, hnone, List.append_nil, reports]

theorem reports_concat {e : Log.Event} (h : e.isReport = true) (before : List Log.Event) :
    reports (before ++ [e]) = reports before ++ [e] := by
  rw [reports, List.filter_append, List.filter_singleton, h]
  rfl

theorem decode_events (ctx : Context) (entryPoint : String) (r : Returned) (s : State) :
    ∃ es, (decode ctx entryPoint r s).2.events = s.events ++ es ∧
      ∀ e ∈ es, e.isReport = false := by
  obtain ⟨l, hl⟩ := takeMessage_frame ctx r s
  unfold decode
  simp only [hl]
  split_ifs
  · exact ⟨[], (List.append_nil _).symm, nofun⟩
  · cases ErrorCode.ofRaw? r.code with
    | none => exact ⟨[], (List.append_nil _).symm, nofun⟩
    | some code => exact ⟨_, rfl, fun e he => List.mem_singleton.mp he ▸ rfl⟩

/-- The event by which the guard tells the log what a release reported. It is the only trace of
the status number and the message. -/
inductive ReportOf (ctx : Context) (r : RawResult) : Log.Event → Prop
  | released : r.code = 0 →
      ReportOf ctx r
        (guardEvent ctx .debug "released native handle" [("handle", .handle ctx.handle)])
  | failed {code : ErrorCode} : code ≠ .ok → code.raw = r.code →
      ReportOf ctx r (guardEvent ctx .warn "native release failed"
        [("code", .shown code.display),
          ("message", .quoted ((r.message.map readMessage).getD ""))])
  | garbage : (∀ code : ErrorCode, code.raw ≠ r.code) →
      ReportOf ctx r (guardEvent ctx .warn "native release returned garbage"
        [("error", .shown (Error.marshalingMismatch ctx.resource.release
          ("unknown native error code " ++ toString r.code.toInt)).message)])

theorem ReportOf.isReport {r : RawResult} {e : Log.Event} (report : ReportOf ctx r e) :
    e.isReport = true := by
  cases report <;> rfl

def releaseReport (ctx : Context) (r : RawResult) : Log.Event :=
  releaseEvent ctx (meaning ctx.resource.release r.code r.message)

theorem reportOf_releaseReport (ctx : Context) (r : RawResult) :
    ReportOf ctx r (releaseReport ctx r) := by
  unfold releaseReport
  cases hmeaning : meaning ctx.resource.release r.code r.message with
  | error e =>
    obtain ⟨unknown, rfl⟩ := meaning_eq_error_iff.mp hmeaning
    exact .garbage unknown
  | ok result =>
    cases result with
    | success => exact .released (meaning_eq_success_iff.mp hmeaning)
    | failure code message =>
      obtain ⟨hcode, hraw, rfl⟩ := meaning_eq_failure_iff.mp hmeaning
      exact .failed hcode hraw

theorem release_events (ctx : Context) (s : State) :
    ∃ es, (∀ e ∈ es, e.isReport = false) ∧ (release ctx s).events =
      s.events ++ (ctx.table.free (s.calls.count .free) s.sink).events ++ es ++
        [releaseReport ctx (ctx.table.free (s.calls.count .free) s.sink).result] := by
  generalize hfree : ctx.table.free (s.calls.count .free) s.sink = r
  obtain ⟨es, hevents, hquiet⟩ := decode_events ctx ctx.resource.release (s.ledger.lend r.result).1
    { s with
      calls := s.calls ++ [.free]
      sink := r.sink
      events := s.events ++ r.events
      ledger := (s.ledger.lend r.result).2 }
  refine ⟨es, hquiet, ?_⟩
  unfold release
  simp only [hfree, State.emitAll, State.emit, hevents, decode_meaning, lend_code, lend_content]
  rfl

def Context.reporting (ctx : Context) (report : ℕ → RawResult) : Context :=
  ctx.releasing fun n sink => ⟨report n, [], sink, 1⟩

theorem release_reports (ctx : Context) (report : ℕ → RawResult) (s : State) :
    ∃ es, (∀ e ∈ es, e.isReport = false) ∧ (release (ctx.reporting report) s).events =
      s.events ++ es ++ [releaseReport ctx (report s.releases)] := by
  obtain ⟨es, quiet, hevents⟩ := release_events (ctx.reporting report) s
  change (release (ctx.reporting report) s).events =
    s.events ++ [] ++ es ++ [releaseReport ctx (report s.releases)] at hevents
  rw [List.append_nil] at hevents
  exact ⟨es, quiet, hevents⟩

/-- No race, of which no log is kept, and no engine that passes its own events for reports. -/
def Scope.logged : Scope where
  permits
    | .race .. => false
    | _ => true
  logs e := !e.isReport

def Reported (ctx : Context) (report : ℕ → RawResult) (base : List Log.Event) (s : State) : Prop :=
  reports s.events = base ++ (List.range s.releases).map fun n => releaseReport ctx (report n)

namespace Reported

variable {report : ℕ → RawResult} {base : List Log.Event}

theorem logged {es : List Log.Event} (reported : Reported ctx report base s)
    (quiet : ∀ e ∈ es, e.isReport = false) (calls : s'.calls.count .free = s.releases)
    (events : s'.events = s.events ++ es) : Reported ctx report base s' := by
  rw [Reported, events, reports_append_of_logs quiet, State.releases, calls]
  exact reported

theorem of_eq (reported : Reported ctx report base s) (calls : s'.calls = s.calls)
    (events : s'.events = s.events) : Reported ctx report base s' :=
  reported.logged (fun _ h => absurd h List.not_mem_nil) (congrArg (List.count _) calls)
    (events.trans (List.append_nil _).symm)

theorem release (reported : Reported ctx report base s) :
    Reported ctx report base (release (ctx.reporting report) s) := by
  obtain ⟨es, quiet, hevents⟩ := release_reports ctx report s
  obtain ⟨l, es', p, hframe⟩ := release_frame (ctx.reporting report) s
  have hcalls : (Facade.release (ctx.reporting report) s).calls = s.calls ++ [.free] := by
    rw [hframe]
  have hlast := (reportOf_releaseReport ctx (report s.releases)).isReport
  have hreleases : (s.calls ++ [Export.free]).count .free = s.releases + 1 := by
    rw [List.count_append]
    rfl
  rw [Reported, State.releases, hcalls, hreleases, hevents, reports_concat hlast,
    reports_append_of_logs quiet, reported, List.range_succ, List.map_append, List.append_assoc,
    List.map_singleton]

theorem leave (reported : Reported ctx report base s) :
    Reported ctx report base (leave (ctx.reporting report) s) := by
  have hleft : Reported ctx report base ({ s with word := s.word.left }.mark .closed) :=
    reported.of_eq rfl rfl
  unfold Facade.leave
  dsimp only
  split_ifs
  · exact hleft.release.of_eq rfl rfl
  · exact hleft.of_eq rfl rfl

theorem dispose (reported : Reported ctx report base s) :
    Reported ctx report base (dispose (ctx.reporting report) s).2 := by
  have hdisposed : Reported ctx report base ({ s with word := s.word.disposed }.mark .disposal) :=
    reported.of_eq rfl rfl
  unfold Facade.dispose
  dsimp only
  split_ifs
  · exact hdisposed.logged (fun e he => List.mem_singleton.mp he ▸ rfl) rfl rfl
  · exact hdisposed.release.of_eq rfl rfl
  · exact hdisposed.logged (fun e he => List.mem_singleton.mp he ▸ rfl) rfl rfl

theorem coupling (ctx : Context) (report : ℕ → RawResult) (base : List Log.Event) :
    Coupling .logged (ctx.reporting report) (ctx.reporting report)
      fun s t => s = t ∧ Reported ctx report base s where
  resource := rfl
  handle := rfl
  origin _ := rfl
  own h := by simp [Scope.logged, h]
  seen h := h.1 ▸ ⟨rfl, rfl, rfl, rfl, rfl⟩
  logged := by
    rintro s _ es quiet ⟨rfl, reported⟩
    refine ⟨rfl, reported.logged (fun e he => ?_) rfl rfl⟩
    simpa [Scope.logged] using quiet e he
  nested := by
    rintro s _ n ⟨rfl, reported⟩
    exact ⟨rfl, reported.of_eq rfl rfl⟩
  sink := by
    rintro s _ p ⟨rfl, reported⟩
    exact ⟨rfl, reported.of_eq rfl rfl⟩
  word := by
    rintro s _ w ⟨rfl, reported⟩
    exact ⟨rfl, reported.of_eq rfl rfl⟩
  marked := by
    rintro s _ m ⟨rfl, reported⟩
    exact ⟨rfl, reported.of_eq rfl rfl⟩
  stored := by
    rintro s _ side n ⟨rfl, reported⟩
    obtain ⟨v, r, h⟩ := store_frame s side n
    rw [h]
    exact ⟨rfl, reported.of_eq rfl rfl⟩
  called := by
    rintro s _ e he ⟨rfl, reported⟩
    exact ⟨rfl, reported.logged (fun _ h => absurd h List.not_mem_nil) (releases_concat he s)
      (List.append_nil _).symm⟩
  concluded := by
    rintro s _ α entryPoint r r' result ⟨rfl, reported⟩
    obtain ⟨l, es, hcheck⟩ := check_frame (ctx.reporting report) entryPoint (endCall r s).1
      (endCall r s).2
    obtain ⟨es', hevents, quiet⟩ := decode_events (ctx.reporting report) entryPoint
      (endCall r s).1 (endCall r s).2
    refine ⟨by rw [endCall_congr result], reported.logged quiet ?_ hevents⟩
    rw [hcheck]
    rfl
  left := by
    rintro s _ ⟨rfl, reported⟩
    exact ⟨rfl, reported.leave⟩
  disposed := by
    rintro s _ ⟨rfl, reported⟩
    exact ⟨rfl, reported.dispose⟩
  unlogged := by
    -- A race forgets the log of a release that it has made, so none is permitted.
    rintro s _ s' _ ⟨q, threads, calls, disposing, permitted⟩
    cases permitted
  restored := by
    rintro s _ s' _ ⟨rfl, -⟩ ⟨rfl, reported⟩
    exact ⟨rfl, reported.of_eq rfl rfl⟩

end Reported

variable {events : List Log.Event} {depth : ℕ} {commands : List Command}
  {answers : List CommandAnswer} {session : Session}

theorem released_once (adopted : adopt ctx (State.fresh.emitAll events) = (.ok (), s))
    (run : Session.runAll ctx depth commands ⟨s, true⟩ = (answers, session))
    (shallow : Shallow session.state.trail) :
    session.state.releases ≤ 1 ∧ ∀ sink, (session.drop ctx sink).state.releases = 1 := by
  obtain ⟨sane, recorded⟩ := Sane.fresh adopted
  have held : Session.Ended ⟨s, true⟩ := nofun
  have ended := held.runAll ctx depth commands
  obtain ⟨later, -⟩ := (stable_sane ctx).runAll depth commands ⟨s, true⟩ sane recorded
  rw [run] at later ended
  refine ⟨?_, fun sink => (later.holds.drop ctx later.recorded ended shallow sink).1⟩
  rw [(later.holds shallow).released]
  exact Guard.Word.due_le_one _

theorem releases_unseen (free free' : ℕ → Option Payload → Release) (depth : ℕ)
    (commands : List Command) (session : Session) :
    (session.runAll (ctx.releasing free) depth commands).1 =
        (session.runAll (ctx.releasing free') depth commands).1 ∧
      (session.runAll (ctx.releasing free) depth commands).2.Related Peers
        (session.runAll (ctx.releasing free') depth commands).2 :=
  (Peers.coupling ctx free free').runAll (matching_releasing (.full ctx.table) free free') depth
    commands (fun command _ => command.within_true) ⟨rfl, _, _, _, rfl⟩

section

variable {report : ℕ → RawResult}

theorem Reported.adopted
    (adopted : adopt (ctx.reporting report) (State.fresh.emitAll events) = (.ok (), s)) :
    Reported ctx report (reports s.events) s := by
  obtain ⟨es, rfl⟩ := adopt_frame adopted
  exact (List.append_nil _).symm

theorem Reported.runAll (quiet : ctx.table.Within .logged)
    (logged : ∀ c ∈ commands, c.within Scope.logged.permits = true) {base : List Log.Event}
    (reported : Reported ctx report base s) (depth : ℕ) (held : Bool) :
    Reported ctx report base
      (Session.runAll (ctx.reporting report) depth commands ⟨s, held⟩).2.state :=
  ((Reported.coupling ctx report base).runAll (matching_releasing quiet _ _) depth commands logged
    ⟨rfl, rfl, reported⟩).2.state.2

theorem Reported.drop {base : List Log.Event} (reported : Reported ctx report base session.state)
    (sink : Option Payload) :
    Reported ctx report base (session.drop (ctx.reporting report) sink).state :=
  ((Reported.coupling ctx report base).drop sink ⟨rfl, rfl, reported⟩).state.2

theorem Reported.of_le_one {base : List Log.Event} (reported : Reported ctx report base s)
    (once : s.releases ≤ 1) :
    reports s.events = base ++ if s.releases = 1 then [releaseReport ctx (report 0)] else [] := by
  rw [reported]
  rcases Nat.le_one_iff_eq_zero_or_eq_one.mp once with h | h
  · rw [h]
    rfl
  · rw [h]
    rfl

end

/-- The answers, the flag, the counts and the calls of a run do not depend on what the release
reports, and the release is made at most once, by the drop at the latest. It ends with one report,
wherever it is made, and a log that is kept holds that report alone as soon as it has been made. -/
theorem release_report_unseen {report : ℕ → RawResult} (report' : ℕ → RawResult)
    (adopted : adopt (ctx.reporting report) (State.fresh.emitAll events) = (.ok (), s))
    (run : Session.runAll (ctx.reporting report) depth commands ⟨s, true⟩ = (answers, session))
    (shallow : Shallow session.state.trail) :
    adopt (ctx.reporting report') (State.fresh.emitAll events) = (.ok (), s) ∧
      (∃ session',
        Session.runAll (ctx.reporting report') depth commands ⟨s, true⟩ = (answers, session') ∧
        session.Related Peers session' ∧
        ∀ sink, (session.drop (ctx.reporting report) sink).Related Peers
          (session'.drop (ctx.reporting report') sink)) ∧
      session.state.releases ≤ 1 ∧
      (∀ sink, (session.drop (ctx.reporting report) sink).state.releases = 1) ∧
      (∀ t : State, ∃ es e, (release (ctx.reporting report) t).events = t.events ++ es ++ [e] ∧
        ReportOf ctx (report t.releases) e ∧ ∀ e' ∈ es, e'.isReport = false) ∧
      ∃ e, ReportOf ctx (report 0) e ∧
        ((∀ c ∈ commands, c.within Scope.logged.permits = true) → ctx.table.Within .logged →
          reports session.state.events =
              reports s.events ++ (if session.state.releases = 1 then [e] else []) ∧
            ∀ sink, reports (session.drop (ctx.reporting report) sink).state.events =
              reports s.events ++ [e]) := by
  obtain ⟨once, dropped⟩ := released_once adopted run shallow
  have coupling : Coupling .full (ctx.reporting report) (ctx.reporting report') Peers :=
    Peers.coupling ctx _ _
  have unseen : (Session.runAll (ctx.reporting report) depth commands ⟨s, true⟩).1 =
        (Session.runAll (ctx.reporting report') depth commands ⟨s, true⟩).1 ∧
      (Session.runAll (ctx.reporting report) depth commands ⟨s, true⟩).2.Related Peers
        (Session.runAll (ctx.reporting report') depth commands ⟨s, true⟩).2 :=
    releases_unseen _ _ depth commands ⟨s, true⟩
  generalize Session.runAll (ctx.reporting report') depth commands ⟨s, true⟩ = other at unseen ⊢
  obtain ⟨answers', session'⟩ := other
  rw [run] at unseen
  obtain ⟨rfl, related⟩ := unseen
  refine ⟨adopted, ⟨session', rfl, related, fun sink => coupling.drop sink related⟩, once,
    dropped, fun t => ?_, _, reportOf_releaseReport ctx (report 0), fun logged quiet => ?_⟩
  · obtain ⟨es, quiet, hevents⟩ := release_reports ctx report t
    exact ⟨es, _, hevents, reportOf_releaseReport ctx _, quiet⟩
  · have reported := (Reported.adopted adopted).runAll quiet logged depth true
    rw [run] at reported
    refine ⟨reported.of_le_one once, fun sink => ?_⟩
    rw [(reported.drop sink).of_le_one (dropped sink).le, dropped sink, if_pos rfl]

def refusedRelease : RawResult := ⟨12, some [120]⟩

def unknownRelease : RawResult := ⟨77, none⟩

def disposingEngine : Context where
  table := { Engine.Script.silent.table with isLwt := fun _ => ⟨[.dispose], [], some 1, .success⟩ }
  origin := .custom
  resource := .preparedStatement
  handle := ⟨1⟩

/-- A guarded call whose engine disposes and whose body panics, so that it releases on its way
out. -/
def unwinding (r : RawResult) : List CommandAnswer × Session :=
  Session.runAll (disposingEngine.reporting fun _ => r) 1
    [.step (.call [.query .isLwt] (some .other) (.ok ""))]
    ⟨(adopt disposingEngine .fresh).2, true⟩

theorem disposingEngine_within : disposingEngine.table.Within .logged where
  isLwt _ := ⟨rfl, nofun⟩
  count side n := by cases side <;> exact ⟨rfl, nofun⟩
  fill side n := by cases side <;> exact ⟨rfl, nofun⟩
  id n := ⟨rfl, nofun⟩

theorem release_report_unseen_unwinding :
    (unwinding refusedRelease).1 = (unwinding unknownRelease).1 ∧
      (unwinding refusedRelease).2.state.releases = 1 ∧
      ∃ e, ReportOf disposingEngine refusedRelease e ∧
        reports (unwinding refusedRelease).2.state.events = [e] := by
  have adopted : adopt (disposingEngine.reporting fun _ => refusedRelease)
    (State.fresh.emitAll []) = (.ok (), (adopt disposingEngine .fresh).2) := rfl
  have run : Session.runAll (disposingEngine.reporting fun _ => refusedRelease) 1
      [.step (.call [.query .isLwt] (some .other) (.ok ""))]
      ⟨(adopt disposingEngine .fresh).2, true⟩ =
    ((unwinding refusedRelease).1, (unwinding refusedRelease).2) := rfl
  have shallow : Shallow (unwinding refusedRelease).2.state.trail := .of_length (by decide)
  obtain ⟨-, ⟨session', run', -⟩, -, -, -, e, report, told⟩ :=
    release_report_unseen (fun _ => unknownRelease) adopted run shallow
  have released : (unwinding refusedRelease).2.state.releases = 1 := by decide
  have logged : ∀ c ∈ [Command.step (.call [.query .isLwt] (some .other) (.ok ""))],
      c.within Scope.logged.permits = true := by
    simp [Command.within, Step.within, stepsWithin, Scope.logged]
  refine ⟨(congrArg Prod.fst run').symm, released, e, report, ?_⟩
  rw [(told logged disposingEngine_within).1, if_pos released]
  rfl

end EngineBridge.Facade
