/-!
The state word of a resource guard. The top bit says that the resource is disposed, the other
bits count the calls in flight. All that a guard does to its word is one of the atomic actions
below; whoever takes the word from "disposed, one call in flight" to "disposed, none" or disposes
of an idle word has to release the resource.
-/

namespace EngineBridge.Guard

structure Word where
  bits : UInt64
  deriving Repr, DecidableEq

namespace Word

def disposedFlag : UInt64 := 0x8000000000000000

def countMask : UInt64 := 0x7FFFFFFFFFFFFFFF

def fresh : Word := ⟨0⟩

def isDisposed (w : Word) : Bool := w.bits &&& disposedFlag != 0

def inFlight (w : Word) : UInt64 := w.bits &&& countMask

def entered (w : Word) : Word := ⟨w.bits + 1⟩

/-- What a call that leaves subtracts, without looking at the flag. -/
def left (w : Word) : Word := ⟨w.bits - 1⟩

def disposed (w : Word) : Word := ⟨w.bits ||| disposedFlag⟩

def isLastOut (previous : Word) : Bool := previous.bits == disposedFlag ||| 1

def compareExchange (w expected desired : Word) : Except Word Word :=
  if w = expected then .ok desired else .error w

/-- Entry without contention: the word read is the word exchanged. -/
def enter? (w : Word) : Option Word :=
  if w.isDisposed then none else (w.compareExchange w w.entered).toOption

theorem enter?_eq (w : Word) : w.enter? = if w.isDisposed then none else some w.entered := by
  simp [enter?, compareExchange, Except.toOption]

end Word

end EngineBridge.Guard
