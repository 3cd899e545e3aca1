import EngineBridge.Abi.Handle
import EngineBridge.Error
import EngineBridge.Guard.Word
import Mathlib.Algebra.BigOperators.Group.Finset.Basic
import Mathlib.Data.Fintype.Basic

/-!
One guard shared by many threads. Each access to the guard's word is a step of its own, as are the
beginning and the end of a body and of the release, and the steps of the threads come in any order.
A thread runs a program whose next operation may depend on every answer so far; the body of a call
is such a program again, so calls and disposals may stand inside calls to any depth.

A step is recorded as an event, and the history of a run is the list of its events. An operation is
known by its thread and by the time of its invocation.
-/

open scoped BigOperators
namespace EngineBridge.Guard
open Abi (Handle)

variable {ι α : Type}

/-- What a client of the guard does. The outcome of a body is the outcome of its call. -/
inductive Program (α : Type)
  | done (o : Outcome α)
  | call (body : Program α) (next : Outcome α → Program α)
  | dispose (next : Bool → Program α)
  | isDisposed (next : Bool → Program α)
  | inFlight (next : UInt64 → Program α)

inductive Operation
  | call
  | dispose
  | isDisposed
  | inFlight
  deriving Repr, DecidableEq

inductive Reply (α : Type)
  | outcome (o : Outcome α)
  | disposal (first : Bool)
  | flag (b : Bool)
  | count (n : UInt64)
  deriving Repr, DecidableEq

structure Frame (α : Type) where
  number : ℕ
  next : Outcome α → Program α

structure Return (α : Type) where
  number : ℕ
  reply : Reply α
  resume : Program α

def Frame.answer (f : Frame α) (o : Outcome α) : Return α := ⟨f.number, .outcome o, f.next o⟩

/-- Where a thread stands. Outside of the guard's own code it runs a client, which is the body of
the innermost open call or else the thread's program. -/
inductive Stage (α : Type)
  | client (p : Program α)
  | entering (f : Frame α) (body : Program α)
  | trying (f : Frame α) (body : Program α) (current : Word)
  | admitted (f : Frame α) (body : Program α)
  | leaving (f : Frame α) (o : Outcome α)
  | disposing (number : ℕ) (next : Bool → Program α)
  | readingFlag (number : ℕ) (next : Bool → Program α)
  | readingCount (number : ℕ) (next : UInt64 → Program α)
  | releasing (r : Return α)
  | inRelease (r : Return α)
  | returning (r : Return α)

/-- A thread with the calls whose bodies it has begun and not ended, innermost first. -/
structure Thread (α : Type) where
  stage : Stage α
  bodies : List (Frame α)

/-- What happens at one step. An event that accesses the word keeps the word it found. -/
inductive Event (α : Type)
  | invoked (op : Operation)
  | read (found : Word)
  | failed (expected found : Word)
  | admitted (found : Word)
  | refused
  | began
  | ended (o : Outcome α)
  | left (found : Word)
  | disposed (found : Word)
  | releaseBegan
  | releaseEnded
  | returned (r : Reply α)
  deriving Repr, DecidableEq

namespace Event

def after : Event α → Word → Word
  | admitted _, w => w.entered
  | left _, w => w.left
  | disposed _, w => w.disposed
  | _, w => w

def found? : Event α → Option Word
  | read w | failed _ w | admitted w | left w | disposed w => some w
  | _ => none

def outcome? : Event α → Option (Outcome α)
  | ended o => some o
  | _ => none

def admissions : Event α → ℕ | admitted _ => 1 | _ => 0
def exits : Event α → ℕ | left _ => 1 | _ => 0
def disposals : Event α → ℕ | disposed _ => 1 | _ => 0
def begins : Event α → ℕ | began => 1 | _ => 0
def releases : Event α → ℕ | releaseBegan => 1 | _ => 0
def released : Event α → ℕ | releaseEnded => 1 | _ => 0

end Event

def afterDisposal (number : ℕ) (next : Bool → Program α) (found : Word) : Stage α :=
  if found.isDisposed then .returning ⟨number, .disposal false, next false⟩
  else if found.inFlight = 0 then .releasing ⟨number, .disposal true, next true⟩
  else .returning ⟨number, .disposal true, next true⟩

def afterLeaving (r : Return α) (found : Word) : Stage α :=
  if found.isLastOut then .releasing r else .returning r

/-- One step of a thread at a given time with a given word: the number of the operation which makes
it, what happens, and the thread after it. An exchange may fail although the word is the expected
one. -/
inductive Thread.Step (resource : String) (now : ℕ) (w : Word) :
    Thread α → ℕ → Event α → Thread α → Prop
  | invokeCall {body next fs} :
      Step resource now w ⟨.client (.call body next), fs⟩ now (.invoked .call)
        ⟨.entering ⟨now, next⟩ body, fs⟩
  | invokeDispose {next fs} :
      Step resource now w ⟨.client (.dispose next), fs⟩ now (.invoked .dispose)
        ⟨.disposing now next, fs⟩
  | invokeFlag {next fs} :
      Step resource now w ⟨.client (.isDisposed next), fs⟩ now (.invoked .isDisposed)
        ⟨.readingFlag now next, fs⟩
  | invokeCount {next fs} :
      Step resource now w ⟨.client (.inFlight next), fs⟩ now (.invoked .inFlight)
        ⟨.readingCount now next, fs⟩
  | load {f body fs} :
      Step resource now w ⟨.entering f body, fs⟩ f.number (.read w) ⟨.trying f body w, fs⟩
  | refuse {f body current fs} (disposed : current.isDisposed = true) :
      Step resource now w ⟨.trying f body current, fs⟩ f.number .refused
        ⟨.returning (f.answer (.error (.resourceDisposed resource))), fs⟩
  | exchange {f body current fs} (live : current.isDisposed = false)
      (exchanged : w.compareExchange current current.entered = .ok w.entered) :
      Step resource now w ⟨.trying f body current, fs⟩ f.number (.admitted w)
        ⟨.admitted f body, fs⟩
  | fail {f body current fs} (live : current.isDisposed = false) :
      Step resource now w ⟨.trying f body current, fs⟩ f.number (.failed current w)
        ⟨.trying f body w, fs⟩
  | begin {f body fs} :
      Step resource now w ⟨.admitted f body, fs⟩ f.number .began ⟨.client body, f :: fs⟩
  | finish {f o fs} :
      Step resource now w ⟨.client (.done o), f :: fs⟩ f.number (.ended o) ⟨.leaving f o, fs⟩
  | leave {f o fs} :
      Step resource now w ⟨.leaving f o, fs⟩ f.number (.left w) ⟨afterLeaving (f.answer o) w, fs⟩
  | dispose {n next fs} :
      Step resource now w ⟨.disposing n next, fs⟩ n (.disposed w) ⟨afterDisposal n next w, fs⟩
  | readFlag {n next fs} :
      Step resource now w ⟨.readingFlag n next, fs⟩ n (.read w)
        ⟨.returning ⟨n, .flag w.isDisposed, next w.isDisposed⟩, fs⟩
  | readCount {n next fs} :
      Step resource now w ⟨.readingCount n next, fs⟩ n (.read w)
        ⟨.returning ⟨n, .count w.inFlight, next w.inFlight⟩, fs⟩
  | beginRelease {r fs} :
      Step resource now w ⟨.releasing r, fs⟩ r.number .releaseBegan ⟨.inRelease r, fs⟩
  | endRelease {r fs} :
      Step resource now w ⟨.inRelease r, fs⟩ r.number .releaseEnded ⟨.returning r, fs⟩
  | handBack {r fs} :
      Step resource now w ⟨.returning r, fs⟩ r.number (.returned r.reply) ⟨.client r.resume, fs⟩

structure Entry (ι α : Type) where
  thread : ι
  number : ℕ
  event : Event α
  deriving Repr, DecidableEq

abbrev History (ι α : Type) := List (Entry ι α)

namespace History

def total (h : History ι α) (weight : Event α → ℕ) : ℕ :=
  h.foldr (fun x n => weight x.event + n) 0

def own [DecidableEq ι] (h : History ι α) (i : ι) (n : ℕ) : List (Event α) :=
  (h.filter fun x => x.thread = i ∧ x.number = n).map (·.event)

def Released (h : History ι α) (n : ℕ) : Prop :=
  h.total Event.releases = n ∧ h.total Event.released = n

def DisposedBefore (h : History ι α) (k : ℕ) : Prop :=
  ∃ m < k, ∃ i n w, h[m]? = some ⟨i, n, .disposed w⟩

end History

namespace Stage

/-- Whether a call at this stage is counted by the word, its body not being open. -/
def tokens : Stage α → ℕ | admitted .. | leaving .. => 1 | _ => 0

def owed : Stage α → ℕ | releasing _ => 1 | _ => 0

def inside : Stage α → ℕ | inRelease _ => 1 | _ => 0

def calls : Stage α → ℕ
  | entering .. | trying .. | admitted .. | leaving .. => 1
  | releasing ⟨_, .outcome _, _⟩ | inRelease ⟨_, .outcome _, _⟩ | returning ⟨_, .outcome _, _⟩ => 1
  | _ => 0

end Stage

namespace Thread

def start (p : Program α) : Thread α := ⟨.client p, []⟩

/-- The calls which the word counts. -/
def tokens (t : Thread α) : ℕ := t.bodies.length + t.stage.tokens

def owed (t : Thread α) : ℕ := t.stage.owed

def inside (t : Thread α) : ℕ := t.stage.inside

def calls (t : Thread α) : ℕ := t.bodies.length + t.stage.calls

def Idle (t : Thread α) : Prop := ∃ p, t = ⟨.client p, []⟩

end Thread

structure System (ι α : Type) where
  word : Word
  threads : ι → Thread α
  time : ℕ

namespace System

variable [DecidableEq ι]

inductive Step (resource : String) (s : System ι α) : Entry ι α → System ι α → Prop
  | mk (i : ι) {n : ℕ} {e : Event α} {t : Thread α}
      (step : Thread.Step resource s.time s.word (s.threads i) n e t) :
      Step resource s ⟨i, n, e⟩ ⟨e.after s.word, Function.update s.threads i t, s.time + 1⟩

variable [Fintype ι]

def running (s : System ι α) : ℕ := ∑ i, (s.threads i).bodies.length

def tokens (s : System ι α) : ℕ := ∑ i, (s.threads i).tokens

def calls (s : System ι α) : ℕ := ∑ i, (s.threads i).calls

def Idle (s : System ι α) : Prop := ∀ i, (s.threads i).Idle

end System

def capacity : ℕ := 2 ^ 63

structure Shared (ι α : Type) where
  resource : String
  handle : Handle
  programs : ι → Program α

def Shared.adopt (g : Shared ι α) : Except Error (System ι α) :=
  if g.handle.isNull then .error (.nullHandle g.resource)
  else .ok ⟨.fresh, fun i => .start (g.programs i), 0⟩

/-- The steps from a state on and the states to which they lead, as long as fewer calls are in
progress than the word can count. -/
inductive Path [Fintype ι] [DecidableEq ι] (resource : String) (s₀ : System ι α) :
    History ι α → System ι α → Prop
  | refl : Path resource s₀ [] s₀
  | step {h : History ι α} {s s' : System ι α} {x : Entry ι α} (before : Path resource s₀ h s)
      (step : s.Step resource x s') (room : s'.calls < capacity) : Path resource s₀ (h ++ [x]) s'

def Run [Fintype ι] [DecidableEq ι] (g : Shared ι α) (h : History ι α) (s : System ι α) : Prop :=
  ∃ s₀, g.adopt = .ok s₀ ∧ Path g.resource s₀ h s

def System.turn [DecidableEq ι] (s : System ι α) (i : ι) (p : Program α) : System ι α :=
  { s with threads := Function.update s.threads i (.start p) }

/-- The drop of a guard by its last owner: thread `i` disposes of it while no other thread takes a
step. -/
structure Drop [Fintype ι] [DecidableEq ι] (resource : String) (s : System ι α) (i : ι)
    (o : Outcome α) (h : History ι α) (s' : System ι α) : Prop where
  path : Path resource (s.turn i (.dispose fun _ => .done o)) h s'
  alone : ∀ x ∈ h, x.thread = i
  ended : s'.threads i = .start (.done o)

end EngineBridge.Guard
