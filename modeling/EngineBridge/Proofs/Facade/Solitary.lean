import EngineBridge.Proofs.Facade.Refinement

/-!
Queries that are made alone. On a statement that is not disposed, the answer to a query is settled
by what the engine replies to it; a visitor that only looks on makes no difference to anyone else.
-/

namespace EngineBridge.Facade

open Abi (Export Handle Side View)
open Engine (Column Delivery Reply Statement Table)
open Text (Bytes)

variable {ctx : Context} {inside : Reentry} {side : Side} {s : State}
  {panics : List Column → Column → Option Payload}

def onlooker (panics : List Column → Column → Option Payload) : Visitor (List Column) :=
  fun _ column seen s => ((panics seen column, seen ++ [column]), s)

def look (entryPoint : String) (panics : List Column → Column → Option Payload)
    (got : Delivered (List Column)) (d : Delivery) : Delivered (List Column) :=
  (accept entryPoint (onlooker panics) d got .fresh).1

theorem accept_onlooker (entryPoint : String) (d : Delivery) (got : Delivered (List Column))
    (s : State) :
    accept entryPoint (onlooker panics) d got s = (look entryPoint panics got d, s) := by
  unfold look accept
  split_ifs with h
  · rfl
  · cases examine got.next d with
    | error detail => rfl
    | ok column => rfl

theorem deliver_onlooker (entryPoint : String) (ds : List Delivery) (got : Delivered (List Column))
    (s : State) :
    deliver entryPoint (onlooker panics) ds got s =
      (ds.foldl (look entryPoint panics) got, s) := by
  induction ds generalizing got with
  | nil => rfl
  | cons d ds ih =>
    rw [deliver, accept_onlooker, List.foldl_cons]
    exact ih _

section

variable {α β : Type} {e : Export} {f : ℕ → Reply α} {entryPoint : String}

theorem guarded_answer {refused : Error → α} {op : State → α × State}
    (live : s.word.isDisposed = false) :
    (guarded ctx refused op s).1 = (op (s.admitted ctx)).1 := by
  have hop : op (s.admitted ctx) = ((op (s.admitted ctx)).1, (op (s.admitted ctx)).2) := rfl
  rw [guarded_of_live live hop]

def calling (ctx : Context) (inside : Reentry) (e : Export) (f : ℕ → Reply α)
    (answer : Reply α → Except Error Unit → β) (s : State) : β × State :=
  let (reply, s) := beginCall inside e f s
  let (returned, s) := endCall reply s
  let (checked, s) := check ctx e.symbol returned s
  (answer reply checked, s)

theorem calling_answer (ctx : Context) (inside : Reentry) (e : Export) (f : ℕ → Reply α)
    (answer : Reply α → Except Error Unit → β) (s : State) :
    (calling ctx inside e f answer s).1 =
      answer (f (s.calls.count e)) (reported e.symbol (f (s.calls.count e)).result) := by
  simp only [calling, check_endCall]
  rfl

end

def lwtAnswer (reply : Reply UInt8) : Except Error Unit → Outcome Bool
  | .error e => .error e
  | .ok () =>
    let byte := reply.written.getD 0
    match Abi.decodeBool byte with
    | some b => .value b
    | none =>
      .error (.marshalingMismatch Export.isLwt.symbol
        ("boolean out-parameter holds byte " ++ toString byte))

def idAnswer (reply : Reply View) : Except Error Unit → Outcome Bytes
  | .error e => .error e
  | .ok () =>
    let view := reply.written.getD .empty
    if view.isDangling then
      .error (.marshalingMismatch Export.id.symbol
        ("null id pointer with length " ++ toString view.length))
    else .value view.content

theorem isLwt_eq (ctx : Context) (inside : Reentry) :
    isLwt ctx inside =
      guarded ctx .error (calling ctx inside .isLwt ctx.table.isLwt lwtAnswer) := by
  refine congrArg (guarded ctx Outcome.error) (funext fun s => ?_)
  simp only [calling]
  generalize check ctx Export.isLwt.symbol _ _ = checked
  obtain ⟨e | _, s'⟩ := checked
  · rfl
  · dsimp only [lwtAnswer]
    cases Abi.decodeBool _ with
    | some b => rfl
    | none => rfl

theorem statementId_eq (ctx : Context) (inside : Reentry) :
    statementId ctx inside = guarded ctx .error (calling ctx inside .id ctx.table.id idAnswer) := by
  refine congrArg (guarded ctx Outcome.error) (funext fun s => ?_)
  simp only [calling]
  generalize check ctx Export.id.symbol _ _ = checked
  obtain ⟨e | _, s'⟩ := checked
  · rfl
  · dsimp only [idAnswer]
    split_ifs <;> rfl

theorem fill_answer (ctx : Context) (inside : Reentry) (side : Side)
    (panics : List Column → Column → Option Payload) (live : s.word.isDisposed = false) :
    let reply := ctx.table.fill side (s.calls.count (.fill side))
    let got := (reply.written.getD []).foldl (look (Export.fill side).symbol panics) (.start [])
    (fill ctx inside side (onlooker panics) [] s).1 =
      (got.outcome (reported (Export.fill side).symbol reply.result), got.memory) := by
  intro reply got
  rw [fill, guarded_answer live]
  simp only [deliver_onlooker, check_endCall]
  rfl

theorem columnSpecs_answer (ctx : Context) (inside : Reentry) (side : Side) (s : State) :
    (columnSpecs ctx inside side s).1 =
      (fill ctx inside side (onlooker fun _ _ => none) [] s).1.1.map
        fun _ => (fill ctx inside side (onlooker fun _ _ => none) [] s).1.2 :=
  rfl

/-- A query of a caller that does nothing else to the statement meanwhile. -/
inductive Ask
  | query (q : Query)
  | fill (side : Side) (panics : List Column → Column → Option Payload)

namespace Ask

def visits? : Ask → Option (Side × (List Column → Column → Option Payload))
  | query (.specs side) => some (side, fun _ _ => none)
  | query _ => none
  | fill side panics => some (side, panics)

def report (o : Outcome Reading) : Ask → Result
  | query _ => .plain o
  | fill .. => .filled o []

def delivered (got : Delivered (List Column)) (checked : Except Error Unit) : Ask → Result
  | query _ => .plain ((got.outcome checked).map fun _ => .columns got.memory)
  | fill .. => .filled ((got.outcome checked).map .count) got.memory

end Ask

/-- The answer to a query on a statement that nobody has used before. -/
def alone (ctx : Context) : Ask → Result
  | .query q => .plain (runQuery ctx (reentry ctx 0) q .fresh).1
  | .fill side panics =>
    let (o, seen) := (fill ctx (reentry ctx 0) side (onlooker panics) [] .fresh).1
    .filled (o.map .count) seen

section

variable (st : Statement) (origin : Origin) (handle : Handle) (n : ℕ)

theorem alone_isLwt :
    let reply := (Table.ofStatement st).isLwt n
    alone (.ofStatement st origin handle) (.query .isLwt) =
      .plain ((lwtAnswer reply (reported Export.isLwt.symbol reply.result)).map .flag) := by
  simp only [alone, runQuery, isLwt_eq]
  rw [guarded_answer rfl, calling_answer]
  rfl

theorem alone_id :
    let reply := (Table.ofStatement st).id n
    alone (.ofStatement st origin handle) (.query .id) =
      .plain ((idAnswer reply (reported Export.id.symbol reply.result)).map .bytes) := by
  simp only [alone, runQuery, statementId_eq]
  rw [guarded_answer rfl, calling_answer]
  rfl

theorem alone_count (side : Side) :
    alone (.ofStatement st origin handle) (.query (.count side)) =
      .plain (.value (.count (st.columns side).length.toUInt64.toNat)) := by
  simp only [alone, runQuery, columnCount]
  rw [guarded_answer rfl]
  cases side <;> rfl

theorem alone_visits {a : Ask} (visits : a.visits? = some (side, panics)) :
    let reply := (Table.ofStatement st).fill side n
    alone (.ofStatement st origin handle) a = a.delivered
      ((reply.written.getD []).foldl (look (Export.fill side).symbol panics) (.start []))
      (reported (Export.fill side).symbol reply.result) := by
  intro reply
  have hreply : (Context.ofStatement st origin handle).table.fill side
      (State.fresh.calls.count (.fill side)) = reply := by
    cases side <;> rfl
  have live : State.fresh.word.isDisposed = false := rfl
  have hfill := fill_answer (.ofStatement st origin handle)
    (reentry (.ofStatement st origin handle) 0) side panics live
  dsimp only at hfill
  rw [hreply] at hfill
  cases a with
  | query q =>
    cases q with
    | specs side' =>
      obtain ⟨rfl, rfl⟩ := Prod.mk.inj (Option.some.inj visits)
      simp only [alone, runQuery, columnSpecs_answer, hfill, Ask.delivered]
      cases Delivered.outcome _ _ <;> rfl
    | _ => cases visits
  | fill side' panics' =>
    obtain ⟨rfl, rfl⟩ := Prod.mk.inj (Option.some.inj visits)
    rw [alone, hfill]
    rfl

end

end EngineBridge.Facade
