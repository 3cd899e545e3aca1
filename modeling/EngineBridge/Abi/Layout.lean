/-!
The layout that an engine reports for the values crossing the boundary. Two sides agree when
their layouts are equal; otherwise the first differing width is named.
-/

namespace EngineBridge.Abi

structure Layout where
  version : UInt32
  boolWidth : UInt8
  countWidth : UInt8
  handleWidth : UInt8
  deriving Repr, DecidableEq

namespace Layout

def current : Layout := ⟨1, 1, 8, 8⟩

/-- The fields in the order in which they are compared, under the names used in reports. -/
def fields (l : Layout) : List (String × Nat) :=
  [("abi version", l.version.toNat), ("boolean width", l.boolWidth.toNat),
    ("count width", l.countWidth.toNat), ("handle width", l.handleWidth.toNat)]

def firstDifference : List (String × Nat) → List (String × Nat) → Option String
  | (label, found) :: found', (_, wanted) :: wanted' =>
    if found = wanted then firstDifference found' wanted'
    else some (label ++ " " ++ toString found ++ " (expected " ++ toString wanted ++ ")")
  | _, _ => none

def mismatch? (reported expected : Layout) : Option String :=
  firstDifference reported.fields expected.fields

def debug (l : Layout) : String :=
  "AbiLayout \x7b version: " ++ toString l.version ++ ", bool_width: " ++ toString l.boolWidth ++
    ", count_width: " ++ toString l.countWidth ++ ", handle_width: " ++
    toString l.handleWidth ++ " \x7d"

theorem mismatch?_eq_none_iff {a b : Layout} : a.mismatch? b = none ↔ a = b := by
  cases a; cases b
  simp only [mismatch?, fields, firstDifference, mk.injEq, UInt32.toNat_inj, UInt8.toNat_inj]
  repeat' split
  all_goals simp_all

end Layout

end EngineBridge.Abi
