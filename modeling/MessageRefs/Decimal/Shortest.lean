/-!
**The shortest decimal that reads back as a given double.**

A finite double is `significand * 2 ^ exponent`. The reals that round to it form an interval, and
the shortest decimal is the point of that interval on the coarsest power-of-ten grid that meets it.

* `Binary.ofFloat`: a double as significand and exponent;
* `Binary.shortest`: its shortest decimal, and of two the nearer.
-/

namespace MessageRefs

/-- A positive double: its value is `significand * 2 ^ exponent`. The gap below it is half the gap
above it when `hasNarrowGap`. -/
structure Binary where
  significand : Nat
  exponent : Int
  hasNarrowGap : Bool
deriving DecidableEq, Repr

/-- A positive decimal: its value is `digits * 10 ^ exponent`. -/
structure Decimal where
  digits : Nat
  exponent : Int
deriving DecidableEq, Repr

namespace Binary

/-- The absolute value of a finite double other than zero, from its bits. -/
def ofBits (bits : Nat) : Binary :=
  let fraction := bits % Nat.pow 2 52
  let biased : Nat := bits / Nat.pow 2 52 % Nat.pow 2 11
  if biased = 0 then ⟨fraction, -1074, false⟩
  else ⟨fraction + Nat.pow 2 52, (biased : Int) - 1075, fraction = 0 && 1 < biased⟩

/-- The absolute value of a finite double other than zero. -/
def ofFloat (value : Float) : Binary :=
  ofBits value.toBits.toNat

/-- The numerator and the denominator of a power. -/
def power (base : Nat) (exponent : Int) : Nat × Nat :=
  if exponent < 0 then (1, base.pow (-exponent).toNat) else (base.pow exponent.toNat, 1)

/-- The point nearest to the double on the grid of multiples of `10 ^ grid`, if it reads back as
the double. Of two points equally near, the one with the even multiple is taken. -/
def onGrid? (binary : Binary) (grid : Int) : Option Decimal :=
  let (unitTop, unitBottom) := power 2 (binary.exponent - 2)
  let (stepTop, stepBottom) := power 10 grid
  let scale := unitTop * stepBottom
  let step := stepTop * unitBottom
  let value := 4 * binary.significand * scale
  let low := (4 * binary.significand - if binary.hasNarrowGap then 1 else 2) * scale
  let high := (4 * binary.significand + 2) * scale
  let readsBack (multiple : Nat) : Bool :=
    let point := multiple * step
    if binary.significand % 2 = 0 then low ≤ point && point ≤ high else low < point && point < high
  let below := value / step
  let above := below + 1
  let toBelow := value - below * step
  let toAbove := above * step - value
  let preferBelow := toBelow < toAbove || (toBelow = toAbove && below % 2 = 0)
  if readsBack below && (preferBelow || !readsBack above) then some ⟨below, grid⟩
  else if readsBack above then some ⟨above, grid⟩
  else none

/-- Tries ever finer grids, at most `tries` of them. -/
def onGrids (binary : Binary) : Nat → Int → Decimal
  | 0, grid => ⟨0, grid⟩
  | tries + 1, grid => (onGrid? binary grid).getD (onGrids binary tries (grid - 1))

/-- The shortest decimal that reads back as the double. The first grid tried is coarser than the
double is large, and a grid of seventeen digits always has a point that reads back. -/
def shortest (binary : Binary) : Decimal :=
  let magnitude := (binary.significand.log2 : Int) + binary.exponent
  onGrids binary 22 (Int.fdiv (magnitude * 30103) 100000 + 2)

end Binary

end MessageRefs
