import EngineBridge.Proofs.Facade.Coupling
import Mathlib.Data.List.Forall2

/-!
What failed calls write. A caller looks at an out-parameter only after the status number has told
it that the call succeeded, so engines that differ in nothing but what their failed calls write
cannot be told apart: neither at once nor later through a count that was kept, a call that is made
once more or a line in the log.
-/

namespace EngineBridge.Engine

variable {α : Type}

/-- Tables that differ at most in what failed calls of the flag, the counts and the identifier
write. The layout is of no account once a table is in use. -/
structure Table.AlikeOnSuccess (t t' : Table) : Prop where
  freeString : t.freeString = t'.freeString
  free : t.free = t'.free
  isLwt : ∀ n, (t.isLwt n).Alike (t'.isLwt n)
  count : ∀ side n, (t.count side n).Alike (t'.count side n)
  fill : ∀ side, t.fill side = t'.fill side
  id : ∀ n, (t.id n).Alike (t'.id n)

theorem Table.AlikeOnSuccess.matching {t t' : Table} (alike : t.AlikeOnSuccess t') :
    t.Matching .full t' where
  isLwt := ⟨alike.isLwt, fun _ => .full _⟩
  count side := ⟨alike.count side, fun _ => .full _⟩
  fill side := alike.fill side ▸ .refl fun _ => .full _
  delivered := alike.fill
  id := ⟨alike.id, fun _ => .full _⟩

structure Script.AlikeOnSuccess (s s' : Script) : Prop where
  isLwt : List.Forall₂ Reply.Alike s.isLwt s'.isLwt
  variablesCount : List.Forall₂ Reply.Alike s.variablesCount s'.variablesCount
  resultCount : List.Forall₂ Reply.Alike s.resultCount s'.resultCount
  fillVariables : s.fillVariables = s'.fillVariables
  fillResult : s.fillResult = s'.fillResult
  id : List.Forall₂ Reply.Alike s.id s'.id
  free : s.free = s'.free

theorem Reply.Alike.nth {replies replies' : List (Reply α)}
    (alike : List.Forall₂ Reply.Alike replies replies') (n : ℕ) :
    (nth .silent replies n).Alike (nth .silent replies' n) := by
  obtain ⟨hlength, hget⟩ := List.forall₂_iff_get.mp alike
  unfold Engine.nth
  rw [← hlength]
  by_cases hn : min n (replies.length - 1) < replies.length
  · rw [List.getElem?_eq_getElem hn, List.getElem?_eq_getElem (hlength ▸ hn)]
    exact hget _ hn (hlength ▸ hn)
  · rw [List.getElem?_eq_none (by omega), List.getElem?_eq_none (by omega)]
    exact .refl _

theorem Script.AlikeOnSuccess.table {s s' : Script} (alike : s.AlikeOnSuccess s') :
    s.table.AlikeOnSuccess s'.table where
  freeString := rfl
  free := by simp only [Script.table, alike.free]
  isLwt := .nth alike.isLwt
  count side := by
    match side with
    | .variables => exact .nth alike.variablesCount
    | .results => exact .nth alike.resultCount
  fill side := by
    match side with
    | .variables => exact congrArg (Engine.nth .silent) alike.fillVariables
    | .results => exact congrArg (Engine.nth .silent) alike.fillResult
  id := .nth alike.id

end EngineBridge.Engine

namespace EngineBridge.Facade

open Engine (Reply Script Table)

/-- A resource that is adopted, every tree of steps at every depth and every session go on in the
same way, with the same answers, calls and events, over engines that differ in nothing but what
failed calls write to their out-parameters. -/
theorem failed_writes_unseen {ctx : Context} {t : Table} (alike : ctx.table.AlikeOnSuccess t)
    (depth : ℕ) :
    let ctx' := { ctx with table := t }
    (∀ s, adopt ctx s = adopt ctx' s) ∧
      (∀ step s, runStep ctx (reentry ctx depth) step s =
        runStep ctx' (reentry ctx' depth) step s) ∧
      ∀ commands session,
        Session.runAll ctx depth commands session = Session.runAll ctx' depth commands session := by
  intro ctx'
  have akin : ctx.Akin ctx' := ⟨rfl, rfl, alike.freeString, alike.free⟩
  have coupling : Coupling .full ctx ctx' Eq := akin.coupling (fun _ => rfl) fun _ => rfl
  have matching : ctx.table.Matching .full ctx'.table := alike.matching
  refine ⟨akin.adopt, fun step s => ?_, fun commands session => ?_⟩
  · have hstep := coupling.runStep matching (coupling.reentry matching depth) step step.within_true
    exact congrFun hstep.eq s
  · exact coupling.runAll_eq matching depth (fun command _ => command.within_true) session

def refusingEngine (byte : Option UInt8) (count : Option UInt64) (id : Option Abi.View) :
    Context where
  table := Script.table
    { Script.silent with
      isLwt := [⟨[.query (.count .variables)], [], byte, ⟨8, some [120]⟩⟩,
        ⟨[], [], some 1, .success⟩]
      variablesCount := [⟨[], [], count, ⟨99, none⟩⟩, ⟨[], [], some 3, .success⟩]
      id := [⟨[.dispose], [], id, ⟨12, none⟩⟩] }
  origin := .custom
  resource := .preparedStatement
  handle := ⟨1⟩

theorem refusingEngine_alike (byte byte' : Option UInt8) (count count' : Option UInt64)
    (id id' : Option Abi.View) :
    (refusingEngine byte count id).table.AlikeOnSuccess
      (refusingEngine byte' count' id').table := by
  refine Script.AlikeOnSuccess.table ⟨?_, ?_, .nil, rfl, rfl, ?_, rfl⟩
  · exact .cons ⟨rfl, rfl, rfl, nofun⟩ (.cons (.refl _) .nil)
  · exact .cons ⟨rfl, rfl, rfl, nofun⟩ (.cons (.refl _) .nil)
  · exact .cons ⟨rfl, rfl, rfl, nofun⟩ .nil

def insistentCaller : List Command :=
  [.step (.query .isLwt), .step (.query (.count .variables)), .step (.query .isLwt),
    .step (.query .id), .drop none]

theorem failed_writes_unseen_refused :
    ∃ answers session,
      Session.runAll (refusingEngine none none none) 1 insistentCaller ⟨.fresh, true⟩ =
        (answers, session) ∧
      Session.runAll (refusingEngine (some 7) (some 5) (some (.null 4))) 1 insistentCaller
          ⟨.fresh, true⟩ = (answers, session) ∧
      session.state.calls = [.isLwt, .count .variables, .count .variables, .isLwt, .id, .free] ∧
      session.state.variableCount = some 3 := by
  obtain ⟨-, -, hrun⟩ := failed_writes_unseen
    (refusingEngine_alike none (some 7) none (some 5) none (some (.null 4))) 1
  refine ⟨_, _, rfl, (hrun insistentCaller ⟨.fresh, true⟩).symm, ?_, ?_⟩
  · decide +kernel
  · decide +kernel

end EngineBridge.Facade
