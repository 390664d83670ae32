/-!
# The shortest decimal that names a float

A finite float stands for the interval of reals that round to it. Among the decimals in that
interval this module finds one with the fewest digits, and of several with that many digits the one
nearest to the float. All arithmetic is on natural numbers.
-/

namespace RestSuite.Decimal

/-- A positive numeral `0.d₁d₂…dₙ · 10 ^ exponent`; `digits` is the number `d₁d₂…dₙ`. -/
structure Numeral where
  digits : Nat
  exponent : Int
  deriving DecidableEq, Repr

/-- The magnitude of a finite float as `mantissa · 2 ^ power`. -/
structure Magnitude where
  mantissa : Nat
  power : Int
  /-- The float below is half as far away as the one above. -/
  narrowBelow : Bool
  deriving DecidableEq, Repr

/-- The fields of a finite float's bits, its sign apart. -/
def Magnitude.ofFloat (x : Float) : Magnitude :=
  let bits := x.toBits.toNat
  let fraction : Nat := bits % 0x10000000000000
  let biased : Nat := bits / 0x10000000000000 % 0x800
  if biased = 0 then ⟨fraction, -1074, false⟩
  else ⟨0x10000000000000 + fraction, (biased : Int) - 1075, fraction == 0 && 1 < biased⟩

/-- The sign bit of a float. -/
def isNegative (x : Float) : Bool :=
  x.toBits.toNat / 0x8000000000000000 == 1

/-- A fraction of natural numbers that a power scales: `numerator · base ^ power / denominator`
with the power moved to the side where it is no fraction. -/
def scaled (numerator denominator base : Nat) (power : Int) : Nat × Nat :=
  match power with
  | .ofNat n => (numerator * base.pow n, denominator)
  | .negSucc n => (numerator, denominator * base.pow (n + 1))

/-- The least of three candidates `k` with `numerator / denominator < 10 ^ k`, starting from an
estimate by binary logarithms that is never too large by more than one. -/
def decimalExponent (numerator denominator : Nat) : Int :=
  let bits : Int := numerator.log2 - denominator.log2
  let guess := (bits * 30103) / 100000 - 1
  let fits (k : Int) : Bool :=
    let (a, b) := scaled 1 1 10 k
    numerator * b < denominator * a
  if fits guess then guess
  else if fits (guess + 1) then guess + 1
  else if fits (guess + 2) then guess + 2
  else guess + 3

/-- The decimal on the grid with step `10 ^ (exponent - places)` that lies in the interval of the
float and next to it: of two such the nearer one, the even one when both are equally near. -/
def onGrid? (m : Magnitude) (exponent : Int) (places : Nat) : Option Numeral :=
  -- All quantities are counted in quarters of the unit in the last place of the float.
  let quarter := m.power - 2
  let value := 4 * m.mantissa
  let low := if m.narrowBelow then value - 1 else value - 2
  let high := value + 2
  let closed := m.mantissa % 2 == 0
  -- A quarter is `(qn / qd)` steps of the grid.
  let (n₁, d₁) := scaled 1 1 2 quarter
  let (n, d) := scaled n₁ d₁ 10 ((places : Int) - exponent)
  let inside (t : Nat) : Bool :=
    if closed then decide (low * n ≤ t * d ∧ t * d ≤ high * n)
    else decide (low * n < t * d ∧ t * d < high * n)
  let below := value * n / d
  let above := below + 1
  let toBelow := value * n - below * d
  let toAbove := above * d - value * n
  match inside below, inside above with
  | true, true =>
    if toBelow < toAbove ∨ (toBelow = toAbove ∧ below % 2 = 0) then some ⟨below, exponent⟩
    else some ⟨above, exponent⟩
  | true, false => some ⟨below, exponent⟩
  | false, true => some ⟨above, exponent⟩
  | false, false => none

/-- The digits of the first grid, of `places` places or more, that has a decimal in the interval. -/
def firstGrid (m : Magnitude) (exponent : Int) (places : Nat) : Nat → Nat × Nat
  | 0 => (0, places)
  | more + 1 =>
    match onGrid? m exponent places with
    | some d => (d.digits, places)
    | none => firstGrid m exponent (places + 1) more

/-- The digits of a positive float's shortest decimal, without zeros at the end, and the exponent
of ten that stands before the first digit. -/
def shortest (m : Magnitude) : List Nat × Int :=
  let (n, d) := scaled m.mantissa 1 2 m.power
  let exponent := decimalExponent n d
  let (digits, places) := firstGrid m exponent 1 17
  let spelled := (Nat.toDigits 10 digits).map fun c => c.toNat - '0'.toNat
  -- A carry such as 9.99… to 10 gives one digit more than there are places.
  (((spelled.reverse.dropWhile (· == 0)).reverse),
    exponent + ((spelled.length : Int) - places))

end RestSuite.Decimal
