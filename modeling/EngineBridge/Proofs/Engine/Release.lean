import EngineBridge.Proofs.Engine.Calls

/-!
Histories of raw calls that end in the release of the statement. Whatever becomes of the log event
by which the release is announced, the statement is dropped with it and nothing unwinds; whether the
event was logged can be told from the result.
-/

namespace EngineBridge.Engine

open Abi (ErrorCode Export Handle RawResult)

variable {τ : Type} {m : Memory} {st : Statement} {h : Handle}

def Call.release (h : Handle) : Call τ := ⟨h, .release⟩

def Memory.released (m : Memory) : Memory :=
  { m with
    references := 0
    drops := m.drops + 1
    events := m.events ++ (Engine.free (some m.statement) m.sink).events
    sink := none }

theorem free_drops (st : Statement) (sink : Option Payload) :
    (Engine.free (some st) sink).drops = 1 := by
  cases sink <;> rfl

theorem free_sink (st : Statement) (sink : Option Payload) :
    (Engine.free (some st) sink).sink = none := by
  cases sink <;> rfl

/-- What the caller is told, by the way in which the logging of a release has ended. -/
inductive Told : Option Payload → RawResult → Prop
  | returned : Told none .success
  | panicked (p : Payload) : Told (some p) ⟨12, some (Text.Utf8.encode
      (("engine panicked in prepared_statement_free: " ++ p.message).map fun c =>
        if c = '\x00' then ' ' else c))⟩

theorem told_free (st : Statement) (sink : Option Payload) :
    Told sink (Engine.free (some st) sink).result := by
  cases sink with
  | none => exact .returned
  | some p =>
    have htext : "engine panicked in " ++ Export.free.symbol ++ ": " =
        "engine panicked in prepared_statement_free: " := rfl
    have hresult : (Engine.free (some st) (some p)).result =
        ⟨ErrorCode.internal.raw, some (Text.Utf8.encode
          (RawResult.scrub ("engine panicked in prepared_statement_free: " ++ p.message)))⟩ := by
      rw [← Facade.message_failure .internal, ← htext]
      rfl
    exact hresult ▸ .panicked p

theorem Told.code_eq_zero_iff {sink : Option Payload} {r : RawResult} (told : Told sink r) :
    r.code = 0 ↔ sink = none := by
  cases told with
  | returned => exact iff_of_true rfl rfl
  | panicked p =>
    have hcode : (12 : Int32) ≠ 0 := by decide
    exact iff_of_false hcode nofun

theorem Call.run_release (live : ¬h.isNull) (single : m.references = 1) :
    (Call.release h : Call τ).run.run m =
      (.ok ((Engine.free (some m.statement) m.sink).result, .release), m.released) := by
  have hrun := Body.enter_free h single ()
  rw [Memory.behind_live live] at hrun
  rw [Call.release, Call.run, Body.on_run hrun, Memory.released, free_drops, free_sink]

theorem mapM_concat {σ α β : Type} {f : α → ExceptT Stop (StateM σ) β} {xs : List α} {x : α}
    {bs : List β} {b : β} {s s' s'' : σ} (hxs : (xs.mapM f).run s = (.ok bs, s'))
    (hx : (f x).run s' = (.ok b, s'')) :
    ((xs ++ [x]).mapM f).run s = (.ok (bs ++ [b]), s'') := by
  have hlast : ([x].mapM f).run s' = (.ok [b], s'') := by
    rw [List.mapM_cons, run_bind_of_ok hx, List.mapM_nil]
    rfl
  rw [List.mapM_append, run_bind_of_ok hxs, run_bind_of_ok hlast]
  rfl

theorem Call.mapM_release {calls : List (Call τ)} (live : ¬h.isNull) (single : m.references = 1)
    (keeps : ∀ c ∈ calls, c.Keeps) :
    ∃ earlier events, ((calls ++ [Call.release h]).mapM Call.run).run m =
      (.ok (earlier ++ [((Engine.free (some m.statement) m.sink).result, .release)]),
        (m.logging events).released) := by
  have alive : 0 < m.references := Nat.lt_of_lt_of_eq Nat.zero_lt_one single.symm
  exact ⟨_, _, mapM_concat (Call.mapM_run alive keeps) (Call.run_release live single)⟩

end EngineBridge.Engine
