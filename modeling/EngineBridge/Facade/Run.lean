import EngineBridge.Facade.Statement
import EngineBridge.Engine.Script

/-!
Running trees of steps. The recursion follows the tree; only steps that an engine asks for while
one of its entry points is open do not stand in the tree, and they are run by a runner of the next
lower depth. A step's answer shows its result, the guard right after it and the steps inside it.
-/

namespace EngineBridge.Facade

def State.answer (s : State) (result : Result) : Answer :=
  .mk result s.word.isDisposed s.word.inFlight.toNat s.releases s.nested

def asStep (op : State → Result × State) (s : State) : Answer × State :=
  let (result, after) := op { s with nested := [] }
  let answer := after.answer result
  (answer, { after with nested := s.nested }.mark (.answered answer))

def observe (r : State → Reading) (s : State) : Result × State :=
  (.plain (.value (r s)), s)

/-- Runs an operation of which neither the log nor the steps inside it are kept. -/
def quietly {α : Type} (op : State → α × State) (s : State) : α × State :=
  let (a, after) := op s
  (a, { after with events := s.events, nested := s.nested })

def repeatQuery (ctx : Context) (inside : Reentry) (q : Query)
    (expected : Outcome Reading → Bool) : Nat → State → Nat × State
  | 0, s => (0, s)
  | n + 1, s =>
    let (o, s) := quietly (runQuery ctx inside q) s
    let (unexpected, s) := repeatQuery ctx inside q expected n s
    ((if expected o then 0 else 1) + unexpected, s)

def isRefusal : Outcome Reading → Bool
  | .error e => e.isDisposed
  | _ => false

/-- A query made once on its own and then by many threads, perhaps while another thread disposes of
the statement. The schedule that is run is the one in which the queries come one after another and
the disposal last. -/
def race (ctx : Context) (inside : Reentry) (q : Query) (threads calls : Nat)
    (disposing : Bool) (s : State) : Result × State :=
  let (each, s) := runQuery ctx inside q s
  let expected := fun o => o == each || (disposing && isRefusal o)
  let (unexpected, s) := repeatQuery ctx inside q expected (threads * calls) s
  let s := if disposing then (quietly (fun s => ((), disposeStatement ctx s)) s).2 else s
  (.raced each unexpected, s)

def inPlace (place : Place) (body : State → List Answer × State) (s : State) : State :=
  let (answers, s) := body s
  { s with nested := s.nested ++ [(place, answers)] }

def bodyOutcome (panic : Option Payload) (result : Except Error String) : Outcome Reading :=
  match panic with
  | some p => .panic p
  | none => (Outcome.ofExcept result).map .text

mutual

def runStep (ctx : Context) (inside : Reentry) : Step → State → Answer × State
  | .query q, s =>
    asStep (fun s => let (o, s) := runQuery ctx inside q s; (.plain o, s)) s
  | .fill side visits, s =>
    asStep (fun s =>
      let ((o, seen), s) := fill ctx inside side
        (fun index column seen s =>
          let (panic, s) := runVisit ctx inside visits index s
          ((panic, seen ++ [column]), s)) [] s
      (.filled (o.map .count) seen, s)) s
  | .race q threads calls disposing, s =>
    asStep (race ctx inside q threads calls disposing) s
  | .dispose, s => asStep (fun s => (.plain (.value .unit), disposeStatement ctx s)) s
  | .debug, s => asStep (observe fun s => .text (debugStatement ctx s)) s
  | .call body panic result, s =>
    asStep (fun s =>
      let (o, s) := guarded ctx .error
        (fun s => (bodyOutcome panic result, inPlace .body (runSteps ctx inside body) s)) s
      (.plain o, s)) s
  | .disposeGuard, s =>
    asStep (fun s => let (done, s) := dispose ctx s; (.plain (.value (.flag done)), s)) s
  | .debugGuard, s => asStep (observe fun s => .text (debugGuard ctx s)) s
  | .inFlight, s => asStep (observe fun s => .count s.word.inFlight.toNat) s
  | .isDisposed, s => asStep (observe fun s => .flag s.word.isDisposed) s
  | .origin, s => asStep (observe fun _ => .text ctx.origin.debug) s
  | .sinkPanics p step, s =>
    let (answer, after) := runStep ctx inside step { s with sink := some p }
    (answer, { after with sink := s.sink })

def runSteps (ctx : Context) (inside : Reentry) : List Step → State → List Answer × State
  | [], s => ([], s)
  | step :: rest, s =>
    let (answer, s) := runStep ctx inside step s
    let (answers, s) := runSteps ctx inside rest s
    (answer :: answers, s)

/-- What a visitor does at a column for which it has steps; elsewhere it only looks on. -/
def runVisit (ctx : Context) (inside : Reentry) :
    List Visit → Nat → State → Option Payload × State
  | [], _, s => (none, s)
  | .mk column body panic :: rest, index, s =>
    if column = index then (panic, inPlace (.column index) (runSteps ctx inside body) s)
    else runVisit ctx inside rest index s

end

def reentry (ctx : Context) : Nat → Reentry
  | 0, _, s => ([], s)
  | depth + 1, steps, s => runSteps ctx (reentry ctx depth) steps s

inductive Command
  | step (s : Step)
  | drop (sink : Option Payload)

inductive CommandAnswer
  | step (a : Answer)
  | dropped (releases : Nat)
  | gone (releases : Nat)

structure Session where
  state : State
  held : Bool

namespace Session

def drop (ctx : Context) (sink : Option Payload) (s : Session) : Session :=
  if s.held then
    let after := (dispose ctx { s.state with sink := sink }).2
    ⟨{ after with sink := none }, false⟩
  else s

def run (ctx : Context) (depth : Nat) : Command → Session → CommandAnswer × Session
  | .step step, s =>
    if s.held then
      let (answer, state) := runStep ctx (reentry ctx depth) step s.state
      (.step answer, { s with state := state })
    else (.gone s.state.releases, s)
  | .drop sink, s =>
    let s := s.drop ctx sink
    (.dropped s.state.releases, s)

def runAll (ctx : Context) (depth : Nat) :
    List Command → Session → List CommandAnswer × Session
  | [], s => ([], s)
  | c :: rest, s =>
    let (answer, s) := s.run ctx depth c
    let (answers, s) := runAll ctx depth rest s
    (answer :: answers, s)

end Session

end EngineBridge.Facade
