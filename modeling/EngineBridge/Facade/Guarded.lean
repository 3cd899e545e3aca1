import EngineBridge.Facade.Call

/-!
The guard around a resource. An operation runs only on a resource that is not disposed and is
counted while it runs; the resource is released by the disposal of an idle guard or else by the
last operation to leave. Leaving happens however the operation ends.
-/

namespace EngineBridge.Facade

open Abi (Export)

def guardEvent (ctx : Context) (level : Log.Level) (text : String)
    (fields : List (String × Log.FieldValue)) : Log.Event where
  level := level
  target := "cqlbridge::bridge::guard"
  text := text
  fields := ("resource", .quoted ctx.resource.name) :: fields

/-- What is logged after a release; its outcome has no other consequence. -/
def releaseEvent (ctx : Context) : Except Error CallResult → Log.Event
  | .ok .success => guardEvent ctx .debug "released native handle" [("handle", .handle ctx.handle)]
  | .ok (.failure code message) =>
    guardEvent ctx .warn "native release failed"
      [("code", .shown code.display), ("message", .quoted (message.getD ""))]
  | .error e =>
    guardEvent ctx .warn "native release returned garbage" [("error", .shown e.message)]

def release (ctx : Context) (s : State) : State :=
  let r := ctx.table.free (s.calls.count .free) s.sink
  let s := { s with calls := s.calls ++ [Export.free], sink := r.sink }
  let s := s.emitAll r.events
  let (returned, ledger) := s.ledger.lend r.result
  let (outcome, s) := decode ctx ctx.resource.release returned { s with ledger := ledger }
  s.emit (releaseEvent ctx outcome)

/-- Leaves the guard; the last operation out of a disposed resource releases it. -/
def leave (ctx : Context) (s : State) : State :=
  let previous := s.word
  let s := { s with word := previous.left }.mark .closed
  let s := if previous.isLastOut then release ctx s else s
  s.finish

def guarded {α : Type} (ctx : Context) (refused : Error → α) (op : State → α × State)
    (s : State) : α × State :=
  match s.word.enter? with
  | none => (refused (.resourceDisposed ctx.resource.name), s)
  | some word =>
    let s := { s with word := word }.mark .opened
    let (a, s) := op (s.emit (guardEvent ctx .trace "guarded call" []))
    (a, leave ctx s)

def dispose (ctx : Context) (s : State) : Bool × State :=
  let previous := s.word
  let s := { s with word := previous.disposed }.mark .disposal
  if previous.isDisposed then
    (false, (s.emit (guardEvent ctx .trace "dispose after dispose ignored" [])).finish)
  else if previous.inFlight = 0 then (true, (release ctx s).finish)
  else
    let deferred := guardEvent ctx .debug "release deferred until in-flight calls finish"
      [("in_flight", .number previous.inFlight.toNat)]
    (true, (s.emit deferred).finish)

def adopt (ctx : Context) (s : State) : Except Error Unit × State :=
  if ctx.handle.isNull then (.error (.nullHandle ctx.resource.name), s)
  else
    (.ok (), s.emit (guardEvent ctx .trace "guarding native handle"
      [("handle", .handle ctx.handle)]))

def debugGuard (ctx : Context) (s : State) : String :=
  "ResourceGuard \x7b resource: \"" ++ ctx.resource.name ++ "\", handle: " ++ ctx.handle.debug ++
    ", disposed: " ++ toString s.word.isDisposed ++ ", in_flight: " ++
    toString s.word.inFlight.toNat ++ " \x7d"

end EngineBridge.Facade
