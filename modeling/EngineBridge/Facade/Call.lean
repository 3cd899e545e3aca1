import EngineBridge.Facade.State

/-!
One engine call as the facade makes it. The call is entered, the engine may make the caller run
steps, and the raw result is decoded: its message is copied and given back whatever the code says.
-/

namespace EngineBridge.Facade

open Abi (ErrorCode Export RawResult)
open Engine (Reply Returned)

inductive CallResult
  | success
  | failure (code : ErrorCode) (message : Option String)
  deriving Repr, DecidableEq

def CallResult.check (entryPoint : String) : CallResult → Except Error Unit
  | .success => .ok ()
  | .failure code message => .error (.nativeCallFailed entryPoint code (message.getD ""))

def takeMessage (ctx : Context) (r : Returned) (s : State) : Option String × State :=
  match r.message with
  | none => (none, s)
  | some m =>
    let text := Text.Utf8.decodeLossy (RawResult.untilNul m.content)
    (some text, { s with ledger := ctx.table.freeString (s.ledger.copy m.ticket) m.ticket })

def decode (ctx : Context) (entryPoint : String) (r : Returned) (s : State) :
    Except Error CallResult × State :=
  let (message, s) := takeMessage ctx r s
  if r.code = ErrorCode.ok.raw then (.ok .success, s)
  else match ErrorCode.ofRaw? r.code with
    | none =>
      (.error (.marshalingMismatch entryPoint
        ("unknown native error code " ++ toString r.code.toInt)), s)
    | some code =>
      (.ok (.failure code message), s.emit
        { level := .trace
          target := "cqlbridge::bridge::library"
          text := "native call reported failure"
          fields := [("entry_point", .quoted entryPoint), ("code", .shown code.display)] })

def check (ctx : Context) (entryPoint : String) (r : Returned) (s : State) :
    Except Error Unit × State :=
  let (result, s) := decode ctx entryPoint r s
  (result.bind (CallResult.check entryPoint), s)

abbrev Reentry := List Step → State → List Answer × State

/-- Enters an engine function: the call is counted, re-entrant steps run and what the engine logs
is logged. -/
def beginCall {α : Type} (inside : Reentry) (e : Export) (f : Nat → Reply α) (s : State) :
    Reply α × State :=
  let reply := f (s.calls.count e)
  let s := { s with calls := s.calls ++ [e] }
  let s :=
    match reply.reenter with
    | [] => s
    | steps =>
      let (answers, s) := inside steps s
      { s with nested := s.nested ++ [(Place.engine e, answers)] }
  (reply, s.emitAll reply.events)

/-- Leaves an engine function with its raw result, whose message is now on loan. -/
def endCall {α : Type} (reply : Reply α) (s : State) : Returned × State :=
  let (r, ledger) := s.ledger.lend reply.result
  (r, { s with ledger := ledger })

end EngineBridge.Facade
