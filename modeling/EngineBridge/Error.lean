import EngineBridge.Abi.ErrorCode
import EngineBridge.Text.Utf8

/-!
The causes for which an operation of the bridge fails, each with one wording, and the three ways
in which an operation ends.
-/

namespace EngineBridge

open Abi (ErrorCode)
open Text (Bytes)

inductive Error
  | resourceDisposed (resource : String)
  | nullHandle (resource : String)
  | nativeCallFailed (entryPoint : String) (code : ErrorCode) (message : String)
  | marshalingMismatch (entryPoint detail : String)
  | libraryLoad (path : Bytes) (reason : String)
  | symbolNotFound (symbol reason : String)
  | noEngine (message : String)
  | config (message : String)
  deriving Repr, DecidableEq

namespace Error

def message : Error → String
  | resourceDisposed resource => resource ++ " was used after it was disposed"
  | nullHandle resource => "native engine returned a null " ++ resource ++ " handle"
  | nativeCallFailed entryPoint code message =>
    "native call `" ++ entryPoint ++ "` failed with " ++ code.display ++ ": " ++ message
  | marshalingMismatch entryPoint detail =>
    "marshaling mismatch in `" ++ entryPoint ++ "`: " ++ detail
  | libraryLoad path reason =>
    "failed to load native library " ++ Text.Utf8.decodeLossy path ++ ": " ++ reason
  | symbolNotFound symbol reason =>
    "native library does not export `" ++ symbol ++ "`: " ++ reason
  | noEngine message => "no native engine available: " ++ message
  | config message => "invalid bridge configuration: " ++ message

def isDisposed : Error → Bool
  | resourceDisposed _ => true
  | _ => false

def isNativeFailure : Error → Bool
  | nativeCallFailed .. => true
  | _ => false

def nativeCode? : Error → Option ErrorCode
  | nativeCallFailed _ code _ => some code
  | _ => none

def source? : Error → Option String
  | libraryLoad _ reason | symbolNotFound _ reason => some reason
  | _ => none

end Error

/-- What unwinds out of a panicking computation; only texts can be shown. -/
inductive Payload
  | text (message : String)
  | other
  deriving Repr, DecidableEq

def Payload.message : Payload → String
  | .text m => m
  | .other => "unknown panic payload"

inductive Outcome (α : Type)
  | value (a : α)
  | error (e : Error)
  | panic (p : Payload)
  deriving Repr, DecidableEq

namespace Outcome

variable {α β : Type}

def map (f : α → β) : Outcome α → Outcome β
  | value a => .value (f a)
  | error e => .error e
  | panic p => .panic p

def ofExcept : Except Error α → Outcome α
  | .ok a => .value a
  | .error e => .error e

end Outcome

end EngineBridge
