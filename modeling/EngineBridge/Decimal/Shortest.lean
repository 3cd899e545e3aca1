/-!
The shortest decimal numeral that reads back as a given binary number `m * 2 ^ q`. All arithmetic
is exact: a numeral reads back when it lies between the midpoints to the two neighbours, and of
two numerals of the least length the nearer one is taken, and the greater of two that are equally
near.
-/

namespace EngineBridge.Decimal

/-- The number `digits * 10 ^ exponent`. -/
structure Numeral where
  digits : Nat
  exponent : Int
  deriving Repr, DecidableEq

def ratio (base : Nat) (e : Int) : Nat × Nat :=
  if 0 ≤ e then (base.pow e.toNat, 1) else (1, base.pow (-e).toNat)

/-- Bounds in units of `2 ^ (q - 2)`; the ends count when `m` is even. -/
structure Interval where
  low : Nat
  value : Nat
  high : Nat
  closed : Bool

def interval (m : Nat) (smallest : Bool) : Interval where
  low := 4 * m - if smallest then 1 else 2
  value := 4 * m
  high := 4 * m + 2
  closed := m % 2 == 0

/-- The least `j` with `num * 10 ^ j ≥ den`, up to a bound. -/
def leadingZeros (den : Nat) : Nat → Nat → Nat
  | 0, _ => 0
  | fuel + 1, num => if den ≤ num then 0 else 1 + leadingZeros den fuel (num * 10)

/-- The position of the first digit of `num / den`: it stands for `10 ^` this. -/
def magnitude (num den : Nat) : Int :=
  if den ≤ num then ((Nat.toDigits 10 (num / den)).length : Int) - 1
  else -(leadingZeros den 400 num)

/-- The numeral with unit `10 ^ k` next to the value, if one of the two neighbours reads back. -/
def onGrid (i : Interval) (unit : Nat × Nat) (k : Int) : Option Numeral :=
  let (tenNum, tenDen) := ratio 10 k
  let target (x : Nat) : Nat := x * unit.1 * tenDen
  let grid (d : Nat) : Nat := d * tenNum * unit.2
  let below := target i.value / (tenNum * unit.2)
  let fits (d : Nat) : Bool :=
    if i.closed then decide (target i.low ≤ grid d) && decide (grid d ≤ target i.high)
    else decide (target i.low < grid d) && decide (grid d < target i.high)
  let above := below + 1
  let nearerBelow := decide (target i.value - grid below < grid above - target i.value)
  if fits below && (nearerBelow || !fits above) then some ⟨below, k⟩
  else if fits above then some ⟨above, k⟩
  else none

def search (i : Interval) (unit : Nat × Nat) (first : Int) : Nat → Nat → Numeral
  | 0, _ => ⟨0, 0⟩
  | fuel + 1, n =>
    match onGrid i unit (first - n) with
    | some d => d
    | none => search i unit first fuel (n + 1)

/-- The shortest numeral of `m * 2 ^ q`, where `smallest` says that the neighbour below is nearer
than the one above. -/
def shortest (m : Nat) (q : Int) (smallest : Bool) : Numeral :=
  let unit := ratio 2 (q - 2)
  let i := interval m smallest
  search i unit (magnitude (i.value * unit.1) unit.2) 20 0

def Numeral.positional (n : Numeral) : String :=
  let digits := Nat.toDigits 10 n.digits
  if 0 ≤ n.exponent then String.ofList (digits ++ List.replicate n.exponent.toNat '0')
  else
    let places := (-n.exponent).toNat
    let padded := List.replicate (places + 1 - digits.length) '0' ++ digits
    let whole := padded.take (padded.length - places)
    let fraction := (padded.drop (padded.length - places)).reverse.dropWhile (· == '0') |>.reverse
    if fraction.isEmpty then String.ofList whole
    else String.ofList (whole ++ '.' :: fraction)

def ofBits (bits : UInt64) : String :=
  let sign := if bits >>> 63 == 1 then "-" else ""
  let biased := ((bits >>> 52) &&& 0x7FF).toNat
  let fraction := (bits &&& 0xFFFFFFFFFFFFF).toNat
  if biased = 0x7FF then (if fraction = 0 then sign ++ "inf" else "NaN")
  else if biased = 0 && fraction = 0 then sign ++ "0.0"
  else
    let m := if biased = 0 then fraction else fraction + 0x10000000000000
    let q : Int := (if biased = 0 then 1 else biased) - 1075
    let text := (shortest m q (fraction = 0 && 1 < biased)).positional
    sign ++ if text.toList.contains '.' then text else text ++ ".0"

def toBits (negative : Bool) (n : Numeral) : UInt64 :=
  let size : Int := (Nat.toDigits 10 n.digits).length + n.exponent
  let f : Float :=
    if n.digits = 0 || size < -400 then 0
    else if 400 < size then 1 / 0
    else if 0 ≤ n.exponent then Float.ofScientific n.digits false n.exponent.toNat
    else Float.ofScientific n.digits true (-n.exponent).toNat
  f.toBits ||| (if negative then 0x8000000000000000 else 0)

def isFinite (bits : UInt64) : Bool := (bits >>> 52) &&& 0x7FF != 0x7FF

def readNumeral (cs : List Char) : Option Numeral :=
  let (whole, rest) := cs.span Char.isDigit
  let (fraction, rest) :=
    match rest with
    | '.' :: rest => rest.span Char.isDigit
    | rest => ([], rest)
  let number (ds : List Char) : Nat := ds.foldl (fun n c => n * 10 + (c.toNat - 48)) 0
  let mantissa := number (whole ++ fraction)
  if whole.isEmpty && fraction.isEmpty then none
  else match rest with
    | [] => some ⟨mantissa, -(fraction.length : Int)⟩
    | e :: rest =>
      if e != 'e' && e != 'E' then none
      else
        let (negative, ds) :=
          match rest with
          | '-' :: ds => (true, ds)
          | '+' :: ds => (false, ds)
          | ds => (false, ds)
        if ds.isEmpty || !ds.all Char.isDigit then none
        else
          let e : Int := number ds
          some ⟨mantissa, (if negative then -e else e) - fraction.length⟩

end EngineBridge.Decimal
