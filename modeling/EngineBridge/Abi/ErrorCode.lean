/-!
Status codes of engine calls. Zero is success; every other code names a class of failure.
-/

namespace EngineBridge.Abi

inductive ErrorCode
  | ok
  | invalidArgument
  | invalidSyntax
  | invalidQuery
  | alreadyExists
  | unauthorized
  | functionFailure
  | truncateError
  | preparedQueryNotFound
  | invalidConfigurationInQuery
  | operationTimedOut
  | noHostAvailable
  | internal
  deriving Repr, DecidableEq

namespace ErrorCode

def raw : ErrorCode → Int32
  | ok => 0
  | invalidArgument => 1
  | invalidSyntax => 2
  | invalidQuery => 3
  | alreadyExists => 4
  | unauthorized => 5
  | functionFailure => 6
  | truncateError => 7
  | preparedQueryNotFound => 8
  | invalidConfigurationInQuery => 9
  | operationTimedOut => 10
  | noHostAvailable => 11
  | internal => 12

def ofRaw? (n : Int32) : Option ErrorCode :=
  match n.toInt with
  | 0 => some ok
  | 1 => some invalidArgument
  | 2 => some invalidSyntax
  | 3 => some invalidQuery
  | 4 => some alreadyExists
  | 5 => some unauthorized
  | 6 => some functionFailure
  | 7 => some truncateError
  | 8 => some preparedQueryNotFound
  | 9 => some invalidConfigurationInQuery
  | 10 => some operationTimedOut
  | 11 => some noHostAvailable
  | 12 => some internal
  | _ => none

def name : ErrorCode → String
  | ok => "ok"
  | invalidArgument => "invalid argument"
  | invalidSyntax => "syntax error"
  | invalidQuery => "invalid query"
  | alreadyExists => "already exists"
  | unauthorized => "unauthorized"
  | functionFailure => "function failure"
  | truncateError => "truncate error"
  | preparedQueryNotFound => "prepared query not found"
  | invalidConfigurationInQuery => "invalid configuration in query"
  | operationTimedOut => "operation timed out"
  | noHostAvailable => "no host available"
  | internal => "internal engine error"

def display (c : ErrorCode) : String := c.name ++ " (" ++ toString c.raw.toInt ++ ")"

theorem ofRaw?_raw (c : ErrorCode) : ofRaw? c.raw = some c := by
  cases c <;> decide

theorem raw_of_ofRaw? {n : Int32} {c : ErrorCode} (h : ofRaw? n = some c) : c.raw = n := by
  rw [← Int32.toInt_inj]
  unfold ofRaw? at h
  split at h <;> cases h <;> rename_i hn <;> exact hn.symm

theorem ofRaw?_eq_some_iff {n : Int32} {c : ErrorCode} : ofRaw? n = some c ↔ c.raw = n :=
  ⟨raw_of_ofRaw?, fun h => h ▸ ofRaw?_raw c⟩

end ErrorCode

end EngineBridge.Abi
