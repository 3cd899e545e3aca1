import EngineBridge.Guard.Interleaving
import EngineBridge.Proofs.Facade.Solitary

/-!
One statement of the in-tree engine, shared by many threads. Beside the accesses to the guard's
word, every call of the engine, every column that it hands over and every access to the cell of a
count is a step of its own. Nothing can be said about what an engine replies after the release.
-/

namespace EngineBridge.Facade

open Abi (Export Handle Side)
open Engine (Column Reply Statement Table)
open Guard (Entry Event History Program Shared System Thread)

inductive Plan
  | done
  | ask (a : Ask) (next : Result → Plan)
  | dispose (next : Plan)

inductive Work
  | asked (a : Ask)
  | fetching (side : Side)
  | fetched (side : Side) (checked : Except Error Unit) (n : UInt64)
  | visiting (a : Ask) (side : Side) (panics : List Column → Column → Option Payload) (k : ℕ)
      (got : Delivered (List Column))
  | answered (r : Result)

/-- The cell of a count. While it is busy one thread fetches the count for all. -/
inductive Cell
  | empty
  | busy
  | filled (n : UInt64)

def Work.result : Work → Result
  | answered r => r
  | _ => .plain (.value .unit)

def Ask.told (a : Ask) : Outcome Work → Result
  | .value w => w.result
  | .error e => a.report (.error e)
  | .panic p => a.report (.panic p)

def Plan.program : Plan → Program Work
  | done => .done (.value (.answered (.plain (.value .unit))))
  | ask a next => .call (.done (.value (.asked a))) fun o => (next (a.told o)).program
  | dispose next => .dispose fun _ => next.program

def Replies {α : Type} (engine : Option Statement) (call : Table → Reply α) (reply : Reply α) :
    Prop :=
  ∀ st, engine = some st → reply = call (.ofStatement st)

inductive Work.Step (engine : Option Statement) (cells : Side → Cell) :
    Work → Work → (Side → Cell) → Prop
  | isLwt {n : ℕ} {reply : Reply UInt8} (replies : Replies engine (·.isLwt n) reply) :
      Step engine cells (.asked (.query .isLwt))
        (.answered (.plain
          ((lwtAnswer reply (reported Export.isLwt.symbol reply.result)).map .flag))) cells
  | id {n : ℕ} {reply : Reply Abi.View} (replies : Replies engine (·.id n) reply) :
      Step engine cells (.asked (.query .id))
        (.answered (.plain ((idAnswer reply (reported Export.id.symbol reply.result)).map .bytes)))
        cells
  | known {side : Side} {n : UInt64} (filled : cells side = .filled n) :
      Step engine cells (.asked (.query (.count side)))
        (.answered (.plain (.value (.count n.toNat)))) cells
  | claim {side : Side} (empty : cells side = .empty) :
      Step engine cells (.asked (.query (.count side))) (.fetching side)
        (Function.update cells side .busy)
  | fetch {side : Side} {n : ℕ} {reply : Reply UInt64}
      (replies : Replies engine (·.count side n) reply) :
      Step engine cells (.fetching side)
        (.fetched side (reported (Export.count side).symbol reply.result) (reply.written.getD 0))
        cells
  | store {side : Side} {n : UInt64} :
      Step engine cells (.fetched side (.ok ()) n) (.asked (.query (.count side)))
        (Function.update cells side (.filled n))
  | giveUp {side : Side} {n : UInt64} {e : Error} :
      Step engine cells (.fetched side (.error e) n) (.answered (.plain (.error e)))
        (Function.update cells side .empty)
  | visit {a : Ask} {side : Side} {panics : List Column → Column → Option Payload}
      (visits : a.visits? = some (side, panics)) :
      Step engine cells (.asked a) (.visiting a side panics 0 (.start [])) cells
  | column {a : Ask} {side : Side} {panics : List Column → Column → Option Payload} {k n : ℕ}
      {got : Delivered (List Column)} {reply : Reply (List Engine.Delivery)} {d : Engine.Delivery}
      (replies : Replies engine (·.fill side n) reply)
      (more : (reply.written.getD [])[k]? = some d) :
      Step engine cells (.visiting a side panics k got)
        (.visiting a side panics (k + 1) (look (Export.fill side).symbol panics got d)) cells
  | conclude {a : Ask} {side : Side} {panics : List Column → Column → Option Payload} {k n : ℕ}
      {got : Delivered (List Column)} {reply : Reply (List Engine.Delivery)}
      (replies : Replies engine (·.fill side n) reply)
      (exhausted : (reply.written.getD [])[k]? = none) :
      Step engine cells (.visiting a side panics k got)
        (.answered (a.delivered got (reported (Export.fill side).symbol reply.result))) cells

def Whole (e : Event Work) : Prop := ∀ o, e.outcome? = some o → ∃ r, o = .value (.answered r)

theorem Whole.of_none {e : Event Work} (h : e.outcome? = none) : Whole e := by
  intro o ho
  rw [h] at ho
  cases ho

theorem Whole.ended (r : Result) : Whole (.ended (.value (.answered r))) := by
  rintro o ⟨⟩
  exact ⟨r, rfl⟩

/-- The guard with its threads, the statement until its release begins, and the cells. -/
structure Site (ι : Type) where
  guard : System ι Work
  engine : Option Statement
  cells : Side → Cell

namespace Site

variable {ι : Type} [DecidableEq ι]

inductive Acts (s : Site ι) : Entry ι Work → Site ι → Prop
  | mk {x : Entry ι Work} {g : System ι Work}
      (step : s.guard.Step Resource.preparedStatement.name x g)
      (whole : Whole x.event) :
      Acts s x ⟨g, if x.event.releases = 0 then s.engine else none, s.cells⟩

inductive Works (s : Site ι) : Site ι → Prop
  | mk {i : ι} {f : Guard.Frame Work} {fs : List (Guard.Frame Work)} {w w' : Work}
      {cells : Side → Cell}
      (here : s.guard.threads i = ⟨.client (.done (.value w)), f :: fs⟩)
      (step : w.Step s.engine s.cells w' cells) :
      Works s ⟨{ s.guard with
        threads := Function.update s.guard.threads i ⟨.client (.done (.value w')), f :: fs⟩ },
        s.engine, cells⟩

variable [Fintype ι]

/-- The steps from a site on in any order, of which the guard's are recorded, as long as fewer calls
are in progress than the word can count. -/
inductive Walk (s₀ : Site ι) : History ι Work → Site ι → Prop
  | refl : Walk s₀ [] s₀
  | acts {h : History ι Work} {s s' : Site ι} {x : Entry ι Work} (before : Walk s₀ h s)
      (step : s.Acts x s') (room : s'.guard.calls < Guard.capacity) : Walk s₀ (h ++ [x]) s'
  | works {h : History ι Work} {s s' : Site ι} (before : Walk s₀ h s) (step : s.Works s') :
      Walk s₀ h s'

end Site

structure Party (ι : Type) where
  statement : Statement
  origin : Origin
  handle : Handle
  plans : ι → Plan

namespace Party

variable {ι : Type}

def context (c : Party ι) : Context := .ofStatement c.statement c.origin c.handle

def shared (c : Party ι) : Shared ι Work :=
  ⟨Resource.preparedStatement.name, c.handle, fun i => (c.plans i).program⟩

def Reaches [DecidableEq ι] [Fintype ι] (c : Party ι) (h : History ι Work) (s : Site ι) : Prop :=
  ∃ g, c.shared.adopt = .ok g ∧ Site.Walk ⟨g, some c.statement, fun _ => .empty⟩ h s

end Party

end EngineBridge.Facade
