import EngineBridge.Abi.ErrorCode
import EngineBridge.Text.Utf8

/-!
What an engine call returns: a status number and, possibly, a message that the caller has to
give back. A message is text closed by NUL, so whoever reads it stops at the first one.
-/

namespace EngineBridge.Abi

open EngineBridge.Text (Bytes)

structure RawResult where
  code : Int32
  message : Option Bytes
  deriving Repr, DecidableEq

namespace RawResult

def success : RawResult := ⟨0, none⟩

/-- A NUL inside a message is written as a space. -/
def scrub (text : String) : String := text.map fun c => if c = '\x00' then ' ' else c

/-- Bytes can be closed by NUL only if they hold none. -/
def closed? (bs : Bytes) : Option Bytes := if bs.contains 0 then none else some bs

def failure (code : ErrorCode) (text : String) : RawResult :=
  ⟨code.raw, closed? (Text.Utf8.encode (scrub text))⟩

/-- What is read of a message: the bytes before the first NUL. -/
def untilNul (bs : Bytes) : Bytes := bs.takeWhile (· != 0)

def isOk (r : RawResult) : Bool := r.code == ErrorCode.ok.raw

end RawResult

end EngineBridge.Abi
