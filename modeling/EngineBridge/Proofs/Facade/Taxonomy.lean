import EngineBridge.Proofs.Facade.Solitary

/-!
What a query of a prepared statement ends in, and what it leaves behind. A query that is let in
makes one call, of its own entry point, and is settled by four things in a fixed order: a panic of
the caller's visitor, a faulty column, the status number, and what stands in the out-parameter. A
query that does not end well leaves the flag, the count of open operations and the cached counts as
they were.
-/

namespace EngineBridge

@[grind]
def Error.entryPoint? : Error → Option String
  | .nativeCallFailed entryPoint .. | .marshalingMismatch entryPoint _ => some entryPoint
  | _ => none

attribute [grind] Error.nativeCode?

theorem Error.isDisposed_of_entryPoint? {e : Error} {entryPoint : String}
    (h : e.entryPoint? = some entryPoint) : e.isDisposed = false := by
  cases e with
  | nativeCallFailed => rfl
  | marshalingMismatch => rfl
  | _ => cases h

end EngineBridge

namespace EngineBridge.Facade

open Abi (ErrorCode Export RawResult Side View)
open Engine (Column Delivery Reply Table)

variable {α β μ : Type} {ctx : Context} {inside : Reentry} {s after : State}

/-- How a call ends that is reported as `r`. The first that applies of a panic, a faulty column, the
status number and a garbled out-parameter decides. -/
inductive Course (entry : Export) (r : RawResult) (panic : Option Payload)
    (faulty garbled : Prop) : Outcome α → Prop
  | panicked {p : Payload} : panic = some p → Course entry r panic faulty garbled (.panic p)
  | faulty {detail : String} : panic = none → faulty →
      Course entry r panic faulty garbled (.error (.marshalingMismatch entry.symbol detail))
  | failed {code : ErrorCode} : panic = none → ¬faulty → code ≠ .ok → code.raw = r.code →
      Course entry r panic faulty garbled (.error (.nativeCallFailed entry.symbol code
        ((r.message.map readMessage).getD "")))
  | unknown {detail : String} : panic = none → ¬faulty → (∀ code : ErrorCode, code.raw ≠ r.code) →
      Course entry r panic faulty garbled (.error (.marshalingMismatch entry.symbol detail))
  | garbled {detail : String} : panic = none → ¬faulty → r.code = 0 → garbled →
      Course entry r panic faulty garbled (.error (.marshalingMismatch entry.symbol detail))
  | answered {a : α} : panic = none → ¬faulty → r.code = 0 → ¬garbled →
      Course entry r panic faulty garbled (.value a)

/-- Each class of outcomes with the one condition under which it occurs. -/
structure Classified (entry : Export) (r : RawResult) (panic : Option Payload)
    (faulty garbled : Prop) (o : Outcome α) : Prop where
  panicked : ∀ p, o = .panic p ↔ panic = some p
  failed : ∀ code message, o = .error (.nativeCallFailed entry.symbol code message) ↔
    panic = none ∧ ¬faulty ∧ code ≠ .ok ∧ code.raw = r.code ∧
      message = (r.message.map readMessage).getD ""
  mismatch : (∃ detail, o = .error (.marshalingMismatch entry.symbol detail)) ↔
    panic = none ∧ (faulty ∨ (∀ code : ErrorCode, code.raw ≠ r.code) ∨ r.code = 0 ∧ garbled)
  answered : (∃ a, o = .value a) ↔ panic = none ∧ ¬faulty ∧ r.code = 0 ∧ ¬garbled
  named : ∀ e, o = .error e → e.entryPoint? = some entry.symbol
  disclosed : ∀ e, o = .error e → e.nativeCode? ≠ some .ok

namespace Course

variable {entry : Export} {r : RawResult} {panic : Option Payload} {faulty garbled : Prop}
  {o : Outcome α}

theorem map (f : α → β) (course : Course entry r panic faulty garbled o) :
    Course entry r panic faulty garbled (o.map f) := by
  cases course with
  | panicked h => exact .panicked h
  | faulty h h' => exact .faulty h h'
  | failed h h' hcode hraw => exact .failed h h' hcode hraw
  | unknown h h' hcode => exact .unknown h h' hcode
  | garbled h h' hcode hgarbled => exact .garbled h h' hcode hgarbled
  | answered h h' hcode hgarbled => exact .answered h h' hcode hgarbled

theorem of_reported (h : panic = none) (h' : ¬faulty)
    (hok : r.code = 0 → Course entry r panic faulty garbled o)
    (herror : ∀ e, reported entry.symbol r = .error e → o = .error e) :
    Course entry r panic faulty garbled o := by
  cases hmeaning : meaning entry.symbol r.code r.message with
  | error e =>
    obtain ⟨hunknown, rfl⟩ := meaning_eq_error_iff.mp hmeaning
    rw [herror _ (by rw [reported, hmeaning]; rfl)]
    exact .unknown h h' hunknown
  | ok result =>
    cases result with
    | success => exact hok (meaning_eq_success_iff.mp hmeaning)
    | failure code message =>
      obtain ⟨hcode, hraw, rfl⟩ := meaning_eq_failure_iff.mp hmeaning
      rw [herror _ (by rw [reported, hmeaning]; rfl)]
      exact .failed h h' hcode hraw

theorem classified (course : Course entry r panic faulty garbled o) :
    Classified entry r panic faulty garbled o := by
  have hzero : ∀ code : ErrorCode, code.raw = 0 ↔ code = .ok := fun code => raw_eq_ok_iff
  have hunknown : (∀ code : ErrorCode, code.raw ≠ r.code) → r.code ≠ 0 :=
    fun h hcode => h .ok hcode.symm
  have hraw : ∀ code code' : ErrorCode, code.raw = code'.raw → code = code' := by
    intro code code' h
    rw [← ErrorCode.ofRaw?_eq_some_iff, ErrorCode.ofRaw?_raw] at h
    exact (Option.some.inj h).symm
  cases course with
  | panicked h => constructor <;> grind
  | faulty h h' => constructor <;> grind
  | failed h h' hcode hraw => constructor <;> grind
  | unknown h h' hcode => constructor <;> grind
  | garbled h h' hcode hgarbled => constructor <;> grind
  | answered h h' hcode hgarbled => constructor <;> grind

end Course

structure State.Untouched (s s' : State) : Prop where
  word : s'.word = s.word
  cached : s'.cached = s.cached
  calls : s'.calls = s.calls

inductive Demand (μ : Type)
  | query (q : Query)
  | fill (side : Side) (visitor : Visitor μ) (memory : μ)

def Reply.blank (r : Reply α) : Reply Unit := ⟨r.reenter, r.events, none, r.result⟩

def NoBoolean (r : Reply UInt8) : Prop := r.written.getD 0 ≠ 0 ∧ r.written.getD 0 ≠ 1

def Dangling (r : Reply View) : Prop :=
  ∃ length, length ≠ 0 ∧ r.written.getD .empty = .null length

namespace Demand

def entry : Demand μ → Export
  | query q => q.entry
  | fill side _ _ => .fill side

def meet (ctx : Context) (inside : Reentry) : Demand μ → State → Outcome Reading × State
  | query q, s => runQuery ctx inside q s
  | fill side visitor memory, s =>
    let ((o, _), s) := Facade.fill ctx inside side visitor memory s
    (o.map .count, s)

def reply (t : Table) : Demand μ → ℕ → Reply Unit
  | query .isLwt, n => Reply.blank (t.isLwt n)
  | query (.count side), n => Reply.blank (t.count side n)
  | query (.specs side), n | fill side _ _, n => Reply.blank (t.fill side n)
  | query .id, n => Reply.blank (t.id n)

def deliveries (t : Table) : Demand μ → ℕ → List Delivery
  | query (.specs side), n | fill side _ _, n => (t.fill side n).written.getD []
  | _, _ => []

def Garbled (t : Table) : Demand μ → ℕ → Prop
  | query .isLwt, n => NoBoolean (t.isLwt n)
  | query .id, n => Dangling (t.id n)
  | _, _ => False

def cached? : Demand μ → State → Option UInt64
  | query (.count side), s => s.cached side
  | _, _ => none

def visit : Demand μ → List Column → State → Option Payload × State
  | fill _ visitor memory, columns, s =>
    let ((panic, _), s) := visitEach visitor 0 columns memory s
    (panic, s)
  | query _, _, s => (none, s)

def Inert : Demand μ → Prop
  | fill _ visitor _ => ∀ index column memory (s : State),
    s.Untouched (visitor index column memory s).2
  | query _ => True

/-- The state in which the engine function hands over its columns: its call has been made, and so
have the steps that the engine asked for. -/
def begun (ctx : Context) (inside : Reentry) (d : Demand μ) (s : State) : State :=
  (beginCall inside d.entry (d.reply ctx.table) (s.admitted ctx)).2

end Demand

/-- What a finished call still does to the state before the operation leaves. A count may be kept,
but only if the call ended well. -/
structure Follows (o : Outcome α) (s s' : State) : Prop where
  word : s'.word = s.word
  calls : s'.calls = s.calls
  cached : (∀ a, o ≠ .value a) → s'.cached = s.cached

theorem Follows.of_eq {o : Outcome α} {s' : State} {l : Engine.Ledger} {es : List Log.Event}
    (h : s' = { s with ledger := l, events := es }) : Follows o s s' := by
  subst h
  exact ⟨rfl, rfl, fun _ => funext fun side => by cases side <;> rfl⟩

theorem Follows.map {o : Outcome α} {s' : State} (follows : Follows o s s') (f : α → β) :
    Follows (o.map f) s s' := by
  refine ⟨follows.word, follows.calls, fun h => follows.cached fun a ha => ?_⟩
  subst ha
  exact h (f a) rfl

theorem calling_state (ctx : Context) (inside : Reentry) (e : Export) (f : ℕ → Reply α)
    (answer : Reply α → Except Error Unit → β) (s : State) :
    ∃ l es, (calling ctx inside e f answer s).2 =
      { (beginCall inside e f s).2 with ledger := l, events := es } :=
  check_frame ctx e.symbol _ _

theorem noBoolean_iff {r : Reply UInt8} :
    NoBoolean r ↔ Abi.decodeBool (r.written.getD 0) = none := by
  unfold NoBoolean Abi.decodeBool
  split <;> simp_all

theorem dangling_iff {r : Reply View} :
    Dangling r ↔ (r.written.getD .empty).isDangling = true := by
  unfold Dangling
  cases r.written.getD .empty with
  | null length => simp [View.isDangling]
  | bytes content => simp [View.isDangling]

theorem guarded_eq_of_live {refused : Error → α} {op : State → α × State}
    (live : s.word.isDisposed = false) :
    guarded ctx refused op s =
      ((op (s.admitted ctx)).1, leave ctx (op (s.admitted ctx)).2) :=
  guarded_of_live live rfl

section

variable {faulty : Prop} (carried : ¬faulty)

include carried

theorem calling_course {e : Export} {f : ℕ → Reply α}
    {answer : Reply α → Except Error Unit → Outcome β} (garbled : Reply α → Prop)
    (refused : ∀ r error, answer r (.error error) = .error error)
    (mistaken : ∀ r, garbled r →
      ∃ detail, answer r (.ok ()) = .error (.marshalingMismatch e.symbol detail))
    (sound : ∀ r, ¬garbled r → ∃ b, answer r (.ok ()) = .value b) (inside : Reentry) (s : State) :
    Course e (f (s.calls.count e)).result none faulty (garbled (f (s.calls.count e)))
      (calling ctx inside e f answer s).1 := by
  rw [calling_answer]
  generalize f (s.calls.count e) = r
  refine .of_reported rfl carried (fun hcode => ?_) fun error he => ?_
  · rw [reported_eq_ok_iff.mpr hcode]
    by_cases hgarbled : garbled r
    · obtain ⟨detail, h⟩ := mistaken r hgarbled
      rw [h]
      exact .garbled rfl carried hcode hgarbled
    · obtain ⟨b, h⟩ := sound r hgarbled
      rw [h]
      exact .answered rfl carried hcode hgarbled
  · rw [he, refused]

theorem isLwt_course (inside : Reentry) (s : State) :
    Course .isLwt (ctx.table.isLwt (s.calls.count .isLwt)).result none faulty
      (NoBoolean (ctx.table.isLwt (s.calls.count .isLwt)))
      (calling ctx inside .isLwt ctx.table.isLwt lwtAnswer s).1 := by
  refine calling_course carried NoBoolean (fun _ _ => rfl) (fun r h => ?_) (fun r h => ?_) inside s
  · rw [noBoolean_iff] at h
    simp only [lwtAnswer, h]
    exact ⟨_, rfl⟩
  · obtain ⟨b, hb⟩ := Option.ne_none_iff_exists'.mp (mt noBoolean_iff.mpr h)
    simp only [lwtAnswer, hb]
    exact ⟨_, rfl⟩

theorem statementId_course (inside : Reentry) (s : State) :
    Course .id (ctx.table.id (s.calls.count .id)).result none faulty
      (Dangling (ctx.table.id (s.calls.count .id)))
      (calling ctx inside .id ctx.table.id idAnswer s).1 := by
  refine calling_course carried Dangling (fun _ _ => rfl) (fun r h => ?_) (fun r h => ?_) inside s
  · simp only [idAnswer, dangling_iff.mp h, if_true]
    exact ⟨_, rfl⟩
  · simp only [idAnswer, mt dangling_iff.mpr h]
    exact ⟨_, rfl⟩

theorem columnCount_course (ctx : Context) (inside : Reentry) {side : Side}
    (live : s.word.isDisposed = false) (unknown : s.cached side = none) :
    ∃ s', Course (.count side) (ctx.table.count side (s.calls.count (.count side))).result none
        faulty False (columnCount ctx inside side s).1 ∧
      (columnCount ctx inside side s).2 = leave ctx s' ∧
      Follows (columnCount ctx inside side s).1
        (beginCall inside (.count side) (ctx.table.count side) (s.admitted ctx)).2 s' := by
  have hunknown : (s.admitted ctx).cached side = none := by cases side <;> exact unknown
  have hreply : (beginCall inside (.count side) (ctx.table.count side) (s.admitted ctx)).1 =
    ctx.table.count side (s.calls.count (.count side)) := rfl
  unfold columnCount
  rw [guarded_eq_of_live live]
  simp only [hunknown]
  generalize beginCall inside (.count side) (ctx.table.count side) (s.admitted ctx) = begun
    at hreply ⊢
  obtain ⟨reply, s₁⟩ := begun
  obtain rfl : reply = _ := hreply
  generalize ctx.table.count side (s.calls.count (.count side)) = reply
  obtain ⟨l, es, hstate⟩ := check_frame ctx (Export.count side).symbol (endCall reply s₁).1
    (endCall reply s₁).2
  have hchecked := check_endCall ctx (Export.count side).symbol reply s₁ (endCall reply s₁).2
  generalize check ctx (Export.count side).symbol (endCall reply s₁).1 (endCall reply s₁).2 = c
    at hstate hchecked ⊢
  obtain ⟨checked, s₂⟩ := c
  obtain rfl : checked = _ := hchecked
  cases hreported : reported (Export.count side).symbol reply.result with
  | error e =>
    refine ⟨s₂, .of_reported rfl carried (fun hcode => ?_) fun e' he => ?_, rfl, .of_eq hstate⟩
    · rw [reported_eq_ok_iff.mpr hcode] at hreported
      cases hreported
    · rw [hreported] at he
      cases he
      rfl
  | ok =>
    refine ⟨_, .answered rfl carried (reported_eq_ok_iff.mp hreported) not_false, rfl, ?_⟩
    obtain rfl : s₂ = _ := hstate
    refine ⟨store_word _ _ _, ?_, fun h => absurd rfl (h _)⟩
    cases side <;> rfl

end

theorem Verdict.course {e : Export} {r : RawResult} {count : ℕ} {panic : Option Payload}
    {rest : List Delivery} {o : Outcome ℕ}
    (verdict : Verdict e.symbol count (reported e.symbol r) panic rest o) :
    Course e r panic (rest ≠ []) False o := by
  have hnone : ¬([] : List Delivery) ≠ [] := not_not_intro rfl
  cases verdict with
  | panicked => exact .panicked rfl
  | flawed hflawed => exact .faulty rfl (List.cons_ne_nil _ _)
  | failed hreported =>
    refine .of_reported rfl hnone (fun hcode => ?_) fun e' he => ?_
    · rw [reported_eq_ok_iff.mpr hcode] at hreported
      cases hreported
    · rw [hreported] at he
      cases he
      rfl
  | delivered hreported => exact .answered rfl hnone (reported_eq_ok_iff.mp hreported) not_false

theorem fill_course (ctx : Context) (inside : Reentry) (side : Side) (visitor : Visitor μ)
    (memory : μ) (live : s.word.isDisposed = false) :
    ∃ columns rest s', Delivers 0
        ((ctx.table.fill side (s.calls.count (.fill side))).written.getD []) columns rest ∧
      Course (.fill side) (ctx.table.fill side (s.calls.count (.fill side))).result
        (visitEach visitor 0 columns memory
          (beginCall inside (.fill side) (ctx.table.fill side) (s.admitted ctx)).2).1.1
        (rest ≠ []) False (fill ctx inside side visitor memory s).1.1 ∧
      (fill ctx inside side visitor memory s).2 = leave ctx s' ∧
      ∀ o : Outcome α, Follows o
        (visitEach visitor 0 columns memory
          (beginCall inside (.fill side) (ctx.table.fill side) (s.admitted ctx)).2).2 s' := by
  obtain ⟨columns, rest, delivers⟩ :=
    exists_delivers 0 ((ctx.table.fill side (s.calls.count (.fill side))).written.getD [])
  have begun : beginCall inside (.fill side) (ctx.table.fill side) (s.admitted ctx) =
    (ctx.table.fill side (s.calls.count (.fill side)),
      (beginCall inside (.fill side) (ctx.table.fill side) (s.admitted ctx)).2) := rfl
  refine ⟨columns, rest, ?_⟩
  generalize (beginCall inside (.fill side) (ctx.table.fill side) (s.admitted ctx)).2 = s₁
    at begun ⊢
  generalize hvisit : visitEach visitor 0 columns memory s₁ = visited
  obtain ⟨⟨panic, memory'⟩, s₂⟩ := visited
  generalize ctx.table.fill side (s.calls.count (.fill side)) = reply at begun delivers ⊢
  obtain ⟨o, verdict, hfill⟩ := fill_of_live live begun delivers hvisit
  obtain ⟨l, es, hstate⟩ := check_frame ctx (Export.fill side).symbol (endCall reply s₂).1
    (endCall reply s₂).2
  rw [hfill]
  exact ⟨_, delivers, verdict.course, rfl, fun _ => .of_eq hstate⟩

namespace Demand

theorem meet_of_live (ctx : Context) (inside : Reentry) (d : Demand μ)
    (live : s.word.isDisposed = false)
    (unknown : d.cached? s = none) :
    ∃ columns rest s', Delivers 0 (d.deliveries ctx.table (s.calls.count d.entry)) columns rest ∧
      Course d.entry (d.reply ctx.table (s.calls.count d.entry)).result
        (d.visit columns (d.begun ctx inside s)).1 (rest ≠ [])
        (d.Garbled ctx.table (s.calls.count d.entry)) (d.meet ctx inside s).1 ∧
      (d.meet ctx inside s).2 = leave ctx s' ∧
      Follows (d.meet ctx inside s).1 (d.visit columns (d.begun ctx inside s)).2 s' := by
  -- Only fills have columns; of any other query none can be missing.
  have hnone : ¬([] : List Delivery) ≠ [] := not_not_intro rfl
  cases d with
  | query q =>
    cases q with
    | isLwt =>
      obtain ⟨l, es, hstate⟩ :=
        calling_state ctx inside .isLwt ctx.table.isLwt lwtAnswer (s.admitted ctx)
      have hmeet : meet ctx inside (.query .isLwt : Demand μ) s =
          ((isLwt ctx inside s).1.map .flag, (isLwt ctx inside s).2) := rfl
      rw [hmeet, isLwt_eq, guarded_eq_of_live live]
      exact ⟨[], [], _, .nil, (isLwt_course hnone inside (s.admitted ctx)).map _, rfl,
        .of_eq hstate⟩
    | count side =>
      obtain ⟨s', course, hleave, follows⟩ := columnCount_course hnone ctx inside live unknown
      exact ⟨[], [], s', .nil, course.map Reading.count, hleave, follows.map Reading.count⟩
    | specs side =>
      obtain ⟨columns, rest, s', delivers, course, hleave, follows⟩ :=
        fill_course ctx inside side collector [] live
      have hvisit := visitEach_collect columns 0 []
        (beginCall inside (.fill side) (ctx.table.fill side) (s.admitted ctx)).2
      change visitEach collector 0 columns [] _ = _ at hvisit
      rw [hvisit] at course follows
      have hmap := (course.map fun _ => (Facade.fill ctx inside side collector [] s).1.2).map
        Reading.columns
      exact ⟨columns, rest, s', delivers, hmap, hleave, follows _⟩
    | id =>
      obtain ⟨l, es, hstate⟩ :=
        calling_state ctx inside .id ctx.table.id idAnswer (s.admitted ctx)
      have hmeet : meet ctx inside (.query .id : Demand μ) s =
          ((statementId ctx inside s).1.map .bytes, (statementId ctx inside s).2) := rfl
      rw [hmeet, statementId_eq, guarded_eq_of_live live]
      exact ⟨[], [], _, .nil, (statementId_course hnone inside (s.admitted ctx)).map _, rfl,
        .of_eq hstate⟩
  | fill side visitor memory =>
    obtain ⟨columns, rest, s', delivers, course, hleave, follows⟩ :=
      fill_course ctx inside side visitor memory live
    exact ⟨columns, rest, s', delivers, course.map Reading.count, hleave, follows _⟩

theorem meet_of_disposed (d : Demand μ) (disposed : s.word.isDisposed = true) :
    d.meet ctx inside s = (.error (.resourceDisposed ctx.resource.name), s) := by
  cases d with
  | query q =>
    cases q with
    | isLwt =>
      simp only [meet, runQuery, isLwt, guarded_of_disposed disposed]
      rfl
    | count side =>
      simp only [meet, runQuery, columnCount, guarded_of_disposed disposed]
      rfl
    | specs side =>
      simp only [meet, runQuery, columnSpecs, Facade.fill, guarded_of_disposed disposed]
      rfl
    | id =>
      simp only [meet, runQuery, statementId, guarded_of_disposed disposed]
      rfl
  | fill side visitor memory =>
    simp only [meet, Facade.fill, guarded_of_disposed disposed]
    rfl

end Demand

namespace State.Untouched

variable {s' s'' : State}

theorem refl (s : State) : s.Untouched s := ⟨rfl, rfl, rfl⟩

theorem trans (h : s.Untouched s') (h' : s'.Untouched s'') : s.Untouched s'' :=
  ⟨h'.word.trans h.word, h'.cached.trans h.cached, h'.calls.trans h.calls⟩

theorem visitEach {visitor : Visitor μ}
    (inert : ∀ index column memory (s : State), s.Untouched (visitor index column memory s).2)
    (columns : List Column) (index : ℕ) (memory : μ) (s : State) :
    s.Untouched (visitEach visitor index columns memory s).2 := by
  induction columns generalizing index memory s with
  | nil => exact .refl s
  | cons c columns ih =>
    have hvisit := inert index c memory s
    rw [Facade.visitEach]
    generalize visitor index c memory s = visit at hvisit ⊢
    obtain ⟨⟨_ | p, memory'⟩, s'⟩ := visit
    · exact hvisit.trans (ih (index + 1) memory' s')
    · exact hvisit

end State.Untouched

theorem Demand.Inert.visit {d : Demand μ} (inert : d.Inert) (columns : List Column) (s : State) :
    s.Untouched (d.visit columns s).2 := by
  cases d with
  | query q => exact .refl s
  | fill side visitor memory => exact .visitEach inert columns 0 memory s

theorem Demand.begun_of_quiet (inside : Reentry) {d : Demand μ}
    (quiet : (d.reply ctx.table (s.calls.count d.entry)).reenter = []) :
    (d.begun ctx inside s).word = s.word.entered ∧ (d.begun ctx inside s).cached = s.cached ∧
      (d.begun ctx inside s).calls = s.calls ++ [d.entry] := by
  have hquiet : (d.reply ctx.table ((s.admitted ctx).calls.count d.entry)).reenter = [] := quiet
  unfold Demand.begun beginCall
  simp only [hquiet]
  exact ⟨rfl, funext fun side => by cases side <;> rfl, rfl⟩

theorem leave_calls (ctx : Context) (s : State) :
    (leave ctx s).calls = s.calls ++ if s.word.isLastOut then [.free] else [] := by
  obtain ⟨l, es, p, hleave⟩ := leave_frame ctx s
  rw [hleave]

theorem leave_word (ctx : Context) (s : State) : (leave ctx s).word = s.word.left := by
  obtain ⟨l, es, p, hleave⟩ := leave_frame ctx s
  rw [hleave]

theorem State.Untouched.admitted (live : s.word.isDisposed = false) :
    s.Untouched (leave ctx (s.admitted ctx)) := by
  have hlast : (s.admitted ctx).word.isLastOut = false := Guard.Word.isLastOut_entered live
  refine ⟨?_, ?_, ?_⟩
  · rw [leave_word]
    exact Guard.Word.left_entered s.word
  · rw [leave_cached]
    exact funext fun side => by cases side <;> rfl
  · rw [leave_calls, hlast, if_neg Bool.false_ne_true, List.append_nil]
    rfl

theorem Demand.meet_of_cached {d : Demand μ} {n : UInt64} (live : s.word.isDisposed = false)
    (known : d.cached? s = some n) :
    d.meet ctx inside s = (.value (.count n.toNat), leave ctx (s.admitted ctx)) := by
  cases d with
  | fill side visitor memory => cases known
  | query q =>
    cases q with
    | count side =>
      have hknown : (s.admitted ctx).cached side = some n := by cases side <;> exact known
      simp only [meet, runQuery, columnCount, guarded_eq_of_live live, hknown]
      rfl
    | _ => cases known

theorem Demand.error_of_live {d : Demand μ} {e : Error} (live : s.word.isDisposed = false)
    (failed : (d.meet ctx inside s).1 = .error e) : e.entryPoint? = some d.entry.symbol := by
  cases hcached : d.cached? s with
  | some n =>
    rw [d.meet_of_cached live hcached] at failed
    cases failed
  | none =>
    obtain ⟨columns, rest, s', -, course, -⟩ := d.meet_of_live ctx inside live hcached
    exact course.classified.named e failed

theorem Demand.meet_of_quiet (inside : Reentry) {d : Demand μ} (live : s.word.isDisposed = false)
    (unknown : d.cached? s = none)
    (quiet : (d.reply ctx.table (s.calls.count d.entry)).reenter = []) (inert : d.Inert) :
    (d.meet ctx inside s).2.word = s.word ∧
      (d.meet ctx inside s).2.calls = s.calls ++ [d.entry] ∧
      ((∀ a, (d.meet ctx inside s).1 ≠ .value a) →
        (d.meet ctx inside s).2.cached = s.cached) := by
  obtain ⟨columns, rest, s', -, -, hleave, follows⟩ := d.meet_of_live ctx inside live unknown
  obtain ⟨hword, hcached, hcalls⟩ := Demand.begun_of_quiet inside quiet
  have hvisit := inert.visit columns (d.begun ctx inside s)
  have hentered : s'.word = s.word.entered := by rw [follows.word, hvisit.word, hword]
  rw [hleave, leave_word, leave_calls, leave_cached, hentered, Guard.Word.left_entered,
    Guard.Word.isLastOut_entered live, if_neg Bool.false_ne_true, List.append_nil, follows.calls,
    hvisit.calls, hcalls]
  refine ⟨rfl, rfl, fun h => ?_⟩
  rw [follows.cached h, hvisit.cached, hcached]

/-- A query is refused exactly if the statement is disposed, and then nothing happens. A count that
is kept is answered without the engine. Any other query makes one call under its own name, before
the steps that the engine asks for and the columns that the visitor is shown; nothing but a release
that has become due follows, so a call is never repeated. It ends in the class of outcomes that the
visitor, the columns, the status number and the out-parameter settle, in this order. If neither
engine nor visitor does anything to the statement meanwhile, the call is the only one, the flag and
the count of open operations are as before, and so are the cached counts unless it ends well. -/
theorem errors_exact_and_atomic (ctx : Context) (inside : Reentry) (d : Demand μ) {s after : State}
    {o : Outcome Reading} (met : d.meet ctx inside s = (o, after)) :
    ((∃ e, o = .error e ∧ e.isDisposed = true) ↔ s.word.isDisposed = true) ∧
      (s.word.isDisposed = true →
        o = .error (.resourceDisposed ctx.resource.name) ∧ after = s) ∧
      (s.word.isDisposed = false → ∀ n, d.cached? s = some n →
        o = .value (.count n.toNat) ∧ s.Untouched after) ∧
      (s.word.isDisposed = false → d.cached? s = none →
        let reply := d.reply ctx.table (s.calls.count d.entry)
        (∃ columns rest panic s',
          Delivers 0 (d.deliveries ctx.table (s.calls.count d.entry)) columns rest ∧
          d.visit columns (d.begun ctx inside s) = (panic, s') ∧
          Classified d.entry reply.result panic (rest ≠ [])
            (d.Garbled ctx.table (s.calls.count d.entry)) o ∧
          after.calls = s'.calls ++ if s'.word.isLastOut then [.free] else []) ∧
        (reply.reenter = [] → d.Inert → after.word = s.word ∧ after.calls = s.calls ++ [d.entry] ∧
          ((∀ a, o ≠ .value a) → after.cached = s.cached))) := by
  cases hdisposed : s.word.isDisposed with
  | true =>
    rw [d.meet_of_disposed hdisposed] at met
    cases met
    exact ⟨iff_of_true ⟨_, rfl, rfl⟩ rfl, fun _ => ⟨rfl, rfl⟩, nofun, nofun⟩
  | false =>
    refine ⟨iff_of_false ?_ nofun, nofun, fun _ n known => ?_, fun _ unknown => ⟨?_, ?_⟩⟩
    · rintro ⟨e, rfl, he⟩
      rw [Error.isDisposed_of_entryPoint? (d.error_of_live hdisposed (congrArg Prod.fst met))] at he
      cases he
    · rw [d.meet_of_cached hdisposed known] at met
      cases met
      exact ⟨rfl, .admitted hdisposed⟩
    · obtain ⟨columns, rest, s', delivers, course, hleave, follows⟩ :=
        d.meet_of_live ctx inside hdisposed unknown
      rw [met] at course hleave follows
      refine ⟨columns, rest, (d.visit columns (d.begun ctx inside s)).1,
        (d.visit columns (d.begun ctx inside s)).2, delivers, rfl, course.classified, ?_⟩
      rw [← follows.calls, ← follows.word, ← leave_calls, ← hleave]
    · intro quiet inert
      have hquiet := d.meet_of_quiet inside hdisposed unknown quiet inert
      rw [met] at hquiet
      exact hquiet

def gappyDemand : Demand (List Column) := .fill .variables (onlooker fun _ _ => none) []

theorem errors_exact_and_atomic_gap :
    ∃ o after, gappyDemand.meet gappyEngine (reentry gappyEngine 0) .fresh = (o, after) ∧
      o = .error (.marshalingMismatch (Export.fill .variables).symbol
        "column index 2 delivered, expected 1") ∧
      after.word = .fresh ∧ after.calls = [.fill .variables] ∧
      after.cached = State.fresh.cached := by
  have met : gappyDemand.meet gappyEngine (reentry gappyEngine 0) .fresh =
    ((gappyDemand.meet gappyEngine (reentry gappyEngine 0) .fresh).1,
      (gappyDemand.meet gappyEngine (reentry gappyEngine 0) .fresh).2) := rfl
  have outcome : (gappyDemand.meet gappyEngine (reentry gappyEngine 0) .fresh).1 =
      .error (.marshalingMismatch (Export.fill .variables).symbol
        "column index 2 delivered, expected 1") := by
    decide +kernel
  obtain ⟨-, -, -, engaged⟩ := errors_exact_and_atomic gappyEngine _ gappyDemand met
  obtain ⟨-, atomic⟩ := engaged rfl rfl
  obtain ⟨hword, hcalls, hcached⟩ := atomic rfl fun _ _ _ s => .refl s
  refine ⟨_, _, met, outcome, hword, hcalls, hcached fun a ha => ?_⟩
  rw [outcome] at ha
  cases ha

end EngineBridge.Facade
