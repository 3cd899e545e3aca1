import EngineBridge.Facade.Delivery

/-!
The queries of a prepared statement. Each is one guarded engine call under the name of its own
entry point; a count is fetched until a fetch succeeds and is answered from then on without the
engine, but never after the disposal.
-/

namespace EngineBridge.Facade

open Abi (Export Side)
open Engine (Column)

def isLwt (ctx : Context) (inside : Reentry) : State → Outcome Bool × State :=
  guarded ctx .error fun s =>
    let (reply, s) := beginCall inside .isLwt ctx.table.isLwt s
    let (returned, s) := endCall reply s
    let (checked, s) := check ctx Export.isLwt.symbol returned s
    match checked with
    | .error e => (.error e, s)
    | .ok () =>
      let byte := reply.written.getD 0
      match Abi.decodeBool byte with
      | some b => (.value b, s)
      | none =>
        (.error (.marshalingMismatch Export.isLwt.symbol
          ("boolean out-parameter holds byte " ++ toString byte)), s)

def statementId (ctx : Context) (inside : Reentry) : State → Outcome Text.Bytes × State :=
  guarded ctx .error fun s =>
    let (reply, s) := beginCall inside .id ctx.table.id s
    let (returned, s) := endCall reply s
    let (checked, s) := check ctx Export.id.symbol returned s
    match checked with
    | .error e => (.error e, s)
    | .ok () =>
      let view := reply.written.getD .empty
      if view.isDangling then
        (.error (.marshalingMismatch Export.id.symbol
          ("null id pointer with length " ++ toString view.length)), s)
      else (.value view.content, s)

def columnCount (ctx : Context) (inside : Reentry) (side : Side) :
    State → Outcome Nat × State :=
  guarded ctx .error fun s =>
    match s.cached side with
    | some n => (.value n.toNat, s)
    | none =>
      let entryPoint := (Export.count side).symbol
      let (reply, s) := beginCall inside (.count side) (ctx.table.count side) s
      let (returned, s) := endCall reply s
      let (checked, s) := check ctx entryPoint returned s
      match checked with
      | .error e => (.error e, s)
      | .ok () =>
        let n := reply.written.getD 0
        let s := s.emit
          { level := .trace
            target := "cqlbridge::statement::prepared"
            text := "column count fetched"
            fields := [("entry_point", .quoted entryPoint), ("count", .number n.toNat)] }
        let s := s.store side n
        (.value ((s.cached side).getD n).toNat, s)

/-- The number of columns delivered, or why the delivery failed, and what the visitor remembers in
either case. -/
def fill {μ : Type} (ctx : Context) (inside : Reentry) (side : Side) (visitor : Visitor μ)
    (memory : μ) : State → (Outcome Nat × μ) × State :=
  guarded ctx (fun e => (.error e, memory)) fun s =>
    let entryPoint := (Export.fill side).symbol
    let (reply, s) := beginCall inside (.fill side) (ctx.table.fill side) s
    let (got, s) := deliver entryPoint visitor (reply.written.getD []) (.start memory) s
    let (returned, s) := endCall reply s
    let (checked, s) := check ctx entryPoint returned s
    ((got.outcome checked, got.memory), s)

/-- Keeps every column it gets. -/
def collector : Visitor (List Column) := fun _ column columns s => ((none, columns ++ [column]), s)

def columnSpecs (ctx : Context) (inside : Reentry) (side : Side) (s : State) :
    Outcome (List Column) × State :=
  let ((o, columns), s) := fill ctx inside side collector [] s
  (o.map fun _ => columns, s)

def disposeStatement (ctx : Context) (s : State) : State :=
  match dispose ctx s with
  | (true, s) => s.emit
      { level := .trace
        target := "cqlbridge::statement::prepared"
        text := "prepared statement disposed"
        fields := [] }
  | (false, s) => s

def debugOption : Option UInt64 → String
  | none => "None"
  | some n => "Some(" ++ toString n ++ ")"

def debugStatement (ctx : Context) (s : State) : String :=
  "PreparedStatement \x7b guard: " ++ debugGuard ctx s ++ ", variable_count: " ++
    debugOption s.variableCount ++ ", result_count: " ++ debugOption s.resultCount ++ " \x7d"

def runQuery (ctx : Context) (inside : Reentry) (q : Query) (s : State) :
    Outcome Reading × State :=
  match q with
  | .isLwt => let (o, s) := isLwt ctx inside s; (o.map .flag, s)
  | .count side => let (o, s) := columnCount ctx inside side s; (o.map .count, s)
  | .specs side => let (o, s) := columnSpecs ctx inside side s; (o.map .columns, s)
  | .id => let (o, s) := statementId ctx inside s; (o.map .bytes, s)

end EngineBridge.Facade
