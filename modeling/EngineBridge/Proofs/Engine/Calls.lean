import EngineBridge.Proofs.Engine.Body
import EngineBridge.Proofs.Facade.Boundary
import Mathlib.Data.List.Forall2

/-!
Sequences of raw calls before the release. Each call answers what the entry point answers as a
whole, and all that it changes in memory is the log. So no call can tell which others came before
it.
-/

namespace EngineBridge.Engine

open Abi (ErrorCode Export Handle RawResult Side View)
open Text (Utf8.encode)

variable {τ : Type} {m : Memory} {st : Statement}

theorem isNull_iff {h : Handle} : h.isNull ↔ h = .null := by
  obtain ⟨address⟩ := h
  simp [Handle.isNull, Handle.null]

def Argument.missing? : Argument τ → Option String
  | .flag none => some "is_lwt out-parameter"
  | .count _ none => some "count out-parameter"
  | .id none => some "id out-parameter"
  | .fill _ none _ => some "column spec setter"
  | .flag (some _) | .count _ (some _) | .id (some _) | .fill _ (some _) _ | .release => none

/-- The pointer of a call that is null; the handle comes first. -/
def Call.missing? (c : Call τ) : Option String :=
  if c.handle = .null then some "prepared statement handle" else c.argument.missing?

/-- An argument with the value of the statement in it, or with the target after one call of the
setter for each column in the order of the columns. -/
def Argument.filled (st : Statement) : Argument τ → Argument τ
  | .flag _ => .flag (some (if st.confirmedLwt then 1 else 0))
  | .count side _ => .count side (some (st.columns side).length.toUInt64)
  | .id _ => .id (some (.bytes st.id))
  | .fill side setter target =>
    .fill side setter (setter.elim target (((st.columns side).mapIdx fun i c =>
      ⟨i.toUInt64, ⟨.bytes (Utf8.encode c.keyspace), .bytes (Utf8.encode c.table),
        .bytes (Utf8.encode c.name), c.typeCode⟩, false⟩).foldl · target))
  | .release => .release

def Call.Keeps (c : Call τ) : Prop := c.argument = .release → c.handle = .null

/-- What a call has to return and to leave in its argument. -/
structure Settles (st : Statement) (c : Call τ) (r : RawResult) (left : Argument τ) : Prop where
  succeeds_iff : r.code = 0 ↔ c.missing? = none
  written : c.missing? = none → r = .success ∧ left = c.argument.filled st
  refused : ∀ what, c.missing? = some what → r.code = ErrorCode.invalidArgument.raw ∧
    r.message = some (Utf8.encode (what ++ " is null")) ∧ left = c.argument

def Argument.entry : Argument τ → Export
  | .flag _ => .isLwt
  | .count side _ => .count side
  | .id _ => .id
  | .fill side _ _ => .fill side
  | .release => .free

def Argument.answer (st : Option Statement) : Argument τ → Concluded × Argument τ
  | .flag out =>
    let (c, out) := isLwt st out
    (c, .flag out)
  | .count side out =>
    let (c, out) := Engine.count side st out
    (c, .count side out)
  | .id out =>
    let (c, out) := Engine.id st out
    (c, .id out)
  | .fill side setter target =>
    let (c, deliveries) := Engine.fill side st setter.isSome
    (c, .fill side setter (setter.elim target (deliveries.foldl · target)))
  | .release =>
    let r := Engine.free st none
    (⟨r.result, r.events⟩, .release)

def Call.answer (c : Call τ) (m : Memory) : Concluded × Argument τ :=
  c.argument.answer (m.behind c.handle)

theorem Call.answer_logging (c : Call τ) (m : Memory) (events : List Log.Event) :
    c.answer (m.logging events) = c.answer m := rfl

theorem Body.on_run {κ α : Type} {body : Body κ RawResult} {cell : κ} {wrap : κ → α} {r : RawResult}
    {f : Frame κ} (h : body.run ⟨m, cell⟩ = (.ok r, f)) :
    (body.on cell wrap).run m = (.ok (r, wrap f.cell), f.memory) := by
  change body.on cell wrap m = _
  rw [Body.on, h]
  rfl

theorem Call.run_eq {c : Call τ} (alive : 0 < m.references) (keeps : c.Keeps) :
    c.run.run m =
      (.ok ((c.answer m).1.result, (c.answer m).2), m.logging (c.answer m).1.events) := by
  obtain ⟨h, argument⟩ := c
  cases argument with
  | flag out => exact Body.on_run (Body.enter_report _ _ _ h alive out)
  | count side out => exact Body.on_run (Body.enter_report _ _ _ h alive out)
  | id out => exact Body.on_run (Body.enter_report _ _ _ h alive out)
  | fill side setter target => exact Body.on_run (Body.enter_fill side h setter alive target)
  | release =>
    have hnull : h.isNull := isNull_iff.mpr (keeps rfl)
    have hrun := Body.enter_run (e := .free) (.refused noStatement)
      (Body.free_null (f := ⟨m, ()⟩) hnull)
    rw [Call.answer, Memory.behind_null hnull, Call.run]
    exact Body.on_run hrun

namespace Argument

variable {a : Argument τ} {what : String}

theorem answer_none (a : Argument τ) :
    a.answer none = (conclude a.entry.symbol (.refused noStatement), a) := by
  cases a with
  | fill side setter target => cases setter <;> rfl
  | _ => rfl

theorem answer_missing (missing : a.missing? = some what) :
    a.answer (some st) = (conclude a.entry.symbol (.refused (.nullArgument what)), a) := by
  cases a with
  | flag out => cases out <;> cases missing; rfl
  | count side out => cases out <;> cases missing; rfl
  | id out => cases out <;> cases missing; rfl
  | fill side setter target => cases setter <;> cases missing; rfl
  | release => cases missing

theorem answer_present (missing : a.missing? = none) (query : a ≠ .release) :
    a.answer (some st) = (conclude a.entry.symbol .done, a.filled st) := by
  cases a with
  | flag out => cases out <;> cases missing; rfl
  | count side out => cases out <;> cases missing; rfl
  | id out => cases out <;> cases missing; rfl
  | fill side setter target => cases setter <;> cases missing; rfl
  | release => exact absurd rfl query

theorem zero_notMem_missing (missing : a.missing? = some what) :
    '\x00' ∉ (what ++ " is null").toList := by
  cases a with
  | flag out => cases out <;> cases missing; decide +kernel
  | count side out => cases out <;> cases missing; decide +kernel
  | id out => cases out <;> cases missing; decide +kernel
  | fill side setter target => cases setter <;> cases missing; decide +kernel
  | release => cases missing

end Argument

theorem scrub_eq_self {text : String} (h : '\x00' ∉ text.toList) : RawResult.scrub text = text := by
  rw [← String.toList_inj, Facade.toList_scrub]
  refine (List.map_congr_left fun c hc => if_neg ?_).trans (List.map_id _)
  rintro rfl
  exact h hc

theorem Settles.of_refused {c : Call τ} {what : String} (e : Export)
    (missing : c.missing? = some what) (plain : '\x00' ∉ (what ++ " is null").toList) :
    Settles st c (conclude e.symbol (.refused (.nullArgument what))).result c.argument where
  succeeds_iff := by
    rw [missing]
    have hcode : ErrorCode.invalidArgument.raw ≠ 0 := by decide
    exact iff_of_false hcode nofun
  written h := by
    rw [missing] at h
    cases h
  refused what' h := by
    rw [missing] at h
    cases h
    refine ⟨rfl, ?_, rfl⟩
    rw [conclude, Facade.message_failure, Refusal.nullArgument, scrub_eq_self plain]

theorem Settles.of_done {c : Call τ} (e : Export) (missing : c.missing? = none) :
    Settles st c (conclude e.symbol .done).result (c.argument.filled st) where
  succeeds_iff := iff_of_true rfl missing
  written _ := ⟨rfl, rfl⟩
  refused what h := by
    rw [missing] at h
    cases h

theorem Call.answer_settles {c : Call τ} (keeps : c.Keeps) :
    Settles m.statement c (c.answer m).1.result (c.answer m).2 := by
  by_cases hnull : c.handle = .null
  · rw [Call.answer, Memory.behind_null (isNull_iff.mpr hnull), Argument.answer_none]
    exact .of_refused _ (if_pos hnull) (by decide +kernel)
  · have hmissing : c.missing? = c.argument.missing? := if_neg hnull
    rw [Call.answer, Memory.behind_live (isNull_iff.not.mpr hnull)]
    cases hargument : c.argument.missing? with
    | none =>
      rw [Argument.answer_present hargument fun h => hnull (keeps h)]
      exact .of_done c.argument.entry (hmissing.trans hargument)
    | some what =>
      rw [Argument.answer_missing hargument]
      exact .of_refused _ (hmissing.trans hargument) (Argument.zero_notMem_missing hargument)

theorem Call.mapM_run {calls : List (Call τ)} (alive : 0 < m.references)
    (keeps : ∀ c ∈ calls, c.Keeps) :
    (calls.mapM Call.run).run m =
      (.ok (calls.map fun c => ((c.answer m).1.result, (c.answer m).2)),
        m.logging (calls.flatMap fun c => (c.answer m).1.events)) := by
  induction calls generalizing m with
  | nil =>
    simp only [Memory.logging, List.flatMap_nil, List.append_nil]
    rfl
  | cons c calls ih =>
    obtain ⟨hc, hcalls⟩ := List.forall_mem_cons.mp keeps
    have hrest := ih (m := m.logging (c.answer m).1.events) alive hcalls
    simp only [Call.answer_logging] at hrest
    rw [List.mapM_cons, run_bind_of_ok (Call.run_eq alive hc), run_bind_of_ok hrest]
    simp only [Memory.logging, List.append_assoc, List.flatMap_cons, List.map_cons]
    rfl

/-- Before the release, a raw call succeeds exactly when its handle is live and its out-parameter or
setter is there, and then it has written the value of the statement, or called the setter once for
each column in order. Otherwise it names the null pointer, the handle before the others, and leaves
its argument as it was. In a sequence of calls each one is answered as if it were the only one, as
the entry point as a whole answers it, and nothing but the log is changed. -/
theorem calls_settle {calls : List (Call τ)} (alive : 0 < m.references)
    (keeps : ∀ c ∈ calls, c.argument = .release → c.handle = .null) :
    ∃ answers events,
      (calls.mapM Call.run).run m = (.ok answers, { m with events := m.events ++ events }) ∧
        List.Forall₂ (fun c a =>
          Settles m.statement c a.1 a.2 ∧ (c.run.run m).1 = .ok a ∧
            a = ((c.answer m).1.result, (c.answer m).2)) calls answers := by
  refine ⟨_, _, Call.mapM_run alive keeps, ?_⟩
  rw [List.forall₂_map_right_iff, List.forall₂_same]
  intro c hc
  exact ⟨Call.answer_settles (keeps c hc), congrArg Prod.fst (Call.run_eq alive (keeps c hc)), rfl⟩

def mixedCalls : List (Call (List Delivery)) :=
  [⟨.null, .release⟩, ⟨⟨8⟩, .flag (some 7)⟩, ⟨.null, .id none⟩, ⟨⟨8⟩, .fill .results none []⟩,
    ⟨⟨8⟩, .fill .variables (some fun seen d => seen ++ [d]) []⟩]

def keyed : Statement := ⟨[1], "SELECT v FROM t WHERE k = ?", true, [⟨"ks", "t", "k", 9⟩], []⟩

theorem calls_settle_mixed :
    ∃ free id bare events, (mixedCalls.mapM Call.run).run (.allocate keyed none) =
        (.ok [(free, .release), (.success, .flag (some 1)), (id, .id none),
            (bare, .fill .results none []),
            (.success, .fill .variables (some fun seen d => seen ++ [d])
              [⟨0, ⟨.bytes (Utf8.encode "ks"), .bytes (Utf8.encode "t"),
                .bytes (Utf8.encode "k"), 9⟩, false⟩])],
          (Memory.allocate keyed none).logging events) ∧
      free.code = 1 ∧ id.message = some (Utf8.encode "prepared statement handle is null") ∧
      bare.message = some (Utf8.encode "column spec setter is null") := by
  have alive : 0 < (Memory.allocate keyed none).references := Nat.zero_lt_one
  have keeps : ∀ c ∈ mixedCalls, c.argument = .release → c.handle = .null := by
    simp [mixedCalls]
  obtain ⟨answers, events, hrun, hall⟩ := calls_settle alive keeps
  simp only [mixedCalls, List.forall₂_cons_left_iff, List.forall₂_nil_left_iff] at hall
  obtain ⟨⟨free, _⟩, _, ⟨hfree, -⟩, ⟨⟨flag, _⟩, _, ⟨hflag, -⟩, ⟨⟨id, _⟩, _, ⟨hid, -⟩,
    ⟨⟨bare, _⟩, _, ⟨hbare, -⟩, ⟨⟨fill, _⟩, _, ⟨hfill, -⟩, rfl, rfl⟩, rfl⟩, rfl⟩, rfl⟩, rfl⟩ := hall
  obtain ⟨hfreeCode, -, rfl⟩ := hfree.refused "prepared statement handle" rfl
  obtain ⟨rfl, rfl⟩ := hflag.written rfl
  obtain ⟨-, hidMessage, rfl⟩ := hid.refused "prepared statement handle" rfl
  obtain ⟨-, hbareMessage, rfl⟩ := hbare.refused "column spec setter" rfl
  obtain ⟨rfl, rfl⟩ := hfill.written rfl
  exact ⟨free, id, bare, events, hrun, hfreeCode, hidMessage, hbareMessage⟩

end EngineBridge.Engine
