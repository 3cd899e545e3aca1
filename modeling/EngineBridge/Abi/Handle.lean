/-!
Opaque engine handles: an address, of which null is no object.
-/

namespace EngineBridge.Abi

structure Handle where
  address : UInt64
  deriving Repr, DecidableEq

namespace Handle

def null : Handle := ⟨0⟩

def isNull (h : Handle) : Bool := h.address == 0

def hex (n : Nat) : String := String.ofList (Nat.toDigits 16 n)

def debug (h : Handle) : String := "NativeHandle(0x" ++ hex h.address.toNat ++ ")"

end Handle

end EngineBridge.Abi
