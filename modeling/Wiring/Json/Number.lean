/-!
  Numbers of the data format: how they are read and how they are shown.

  A `Numeral` is a number as it is written.  A whole number of 64 bits is kept as it is.  Any other
  number becomes a `Fraction`, and the way to it has several roundings: the digits count only as
  far as they fit into 64 bits, they are rounded to a binary number, and then the decimal point is
  moved by a rounded power of ten.  So the fraction is not always the nearest one (`3e25` is shown
  as `3.0000000000000005e+25`).
-/

namespace Wiring

/-! ## Binary numbers

A `Binary` has at most 53 binary digits and an exponent of -1074 or more, and no sign.  All
arithmetic is exact arithmetic on natural numbers with one rounding at the end: `Binary.nearest`
rounds a fraction, a half to the even neighbour.  `Binary.shortest?` gives the fewest decimal digits
that still single a binary number out: it looks for the coarsest decimal grid with a point among
the numbers that round to it.
-/

/-- The number `mantissa * 2 ^ exponent`. -/
structure Binary where
  mantissa : Nat
  exponent : Int
  deriving DecidableEq, Repr

/-- The part of `base ^ exponent` above the fraction line. -/
def powAbove (base : Nat) (exponent : Int) : Nat := base.pow exponent.toNat

/-- The part of `base ^ exponent` below the fraction line. -/
def powBelow (base : Nat) (exponent : Int) : Nat := base.pow (-exponent).toNat

/-- The whole number nearest to a fraction; a half goes to the even neighbour. -/
def roundHalfEven (num den : Nat) : Nat :=
  let q := num / den
  let r := num % den
  if 2 * r < den ∨ 2 * r = den ∧ q % 2 = 0 then q else q + 1

example : roundHalfEven 5 2 = 2 ∧ roundHalfEven 7 2 = 4 ∧ roundHalfEven 8 3 = 3 := by decide

namespace Binary

/-- The least exponent. -/
def leastExponent : Int := -1074

/-- The exponent of the leading binary digit of a positive fraction. -/
def leadingExponent (num den : Nat) : Int :=
  let e : Int := (num.log2 : Int) - den.log2
  if num * powBelow 2 e < den * powAbove 2 e then e - 1 else e

/-- The binary number nearest to a fraction. -/
def nearest (num den : Nat) : Binary :=
  if num = 0 then ⟨0, leastExponent⟩
  else
    let e := max (leadingExponent num den - 52) leastExponent
    let m := roundHalfEven (num * powBelow 2 e) (den * powAbove 2 e)
    if m = Nat.pow 2 53 then ⟨Nat.pow 2 52, e + 1⟩ else ⟨m, e⟩

example : nearest 1 10 = ⟨7205759403792794, -56⟩ := by decide +kernel

example : nearest (2 ^ 53 + 1) 1 = ⟨2 ^ 52, 1⟩ := by decide +kernel

/-- The numerator of a binary number as a fraction. -/
def num (b : Binary) : Nat := b.mantissa * powAbove 2 b.exponent

/-- The denominator of a binary number as a fraction. -/
def den (b : Binary) : Nat := powBelow 2 b.exponent

/-- The rounded product. -/
def mul (a b : Binary) : Binary := nearest (a.num * b.num) (a.den * b.den)

/-- The rounded quotient. -/
def div (a b : Binary) : Binary := nearest (a.num * b.den) (a.den * b.num)

/-- Whether a number is small enough for double precision. -/
def inRange (b : Binary) : Bool := b.num < Nat.pow 2 1024 * b.den

/-- The rounded power of ten. -/
def tenPower (n : Nat) : Binary := nearest (Nat.pow 10 n) 1

/-- Moves the decimal point, with a rounding at every step: at most 308 places go at a time.
There is no answer beyond the range of double precision. -/
def scale (b : Binary) (places : Int) : Option Binary :=
  if b.mantissa = 0 then some b
  else if places < -308 then (b.div (tenPower 308)).scale (places + 308)
  else if places < 0 then some (b.div (tenPower (-places).toNat))
  else if 308 < places then none
  else
    let product := b.mul (tenPower places.toNat)
    if product.inRange then some product else none
termination_by (-places).toNat
decreasing_by omega

/-! ## The fewest decimal digits -/

/-- How `p * 10 ^ k` compares with a number of quarters of the last binary digit. -/
def compareGrid (b : Binary) (p : Nat) (k : Int) (quarters : Nat) : Ordering :=
  compare (p * powAbove 10 k * powBelow 2 (b.exponent - 2))
    (quarters * powAbove 2 (b.exponent - 2) * powBelow 10 k)

/-- The lower end of the numbers that round to a binary number, in quarters of its last digit.
Below a power of two the binary numbers are twice as close. -/
def lowerQuarters (b : Binary) : Nat :=
  if b.mantissa = Nat.pow 2 52 ∧ leastExponent < b.exponent then 4 * b.mantissa - 1
  else 4 * b.mantissa - 2

/-- The upper end of the numbers that round to a binary number. -/
def upperQuarters (b : Binary) : Nat := 4 * b.mantissa + 2

/-- Whether a point of a decimal grid rounds to a binary number.  The ends do if the last binary
digit is even. -/
def hits (b : Binary) (p : Nat) (k : Int) : Bool :=
  let low := b.compareGrid p k b.lowerQuarters
  let high := b.compareGrid p k b.upperQuarters
  if b.mantissa % 2 = 0 then low != .lt && high != .gt else low == .gt && high == .lt

/-- The point of a decimal grid that is nearest to a binary number, if it rounds to it. -/
def gridPoint? (b : Binary) (k : Int) : Option Nat :=
  let num := b.num * powBelow 10 k
  let den := b.den * powAbove 10 k
  let below := num / den
  let near := roundHalfEven num den
  let far := below + (below + 1) - near
  if b.hits near k then some near else if b.hits far k then some far else none

/-- The grids from the coarsest on: `10 ^ 309` down to `10 ^ -400`. -/
def grids : List Int := (List.range 710).map fun n => 309 - Int.ofNat n

/-- The fewest decimal digits that single a binary number out, and their exponent. -/
def shortest? (b : Binary) : Option (Nat × Int) :=
  grids.findSome? fun k => (b.gridPoint? k).map (·, k)

end Binary

/-! ## Numbers as they are written -/

/-- A number of double precision, or its opposite. -/
structure Fraction where
  negative : Bool
  size : Binary
  deriving DecidableEq, Repr

/-- A number as it is written: its sign, its digits before the point and after it, and its
exponent. -/
structure Numeral where
  negative : Bool
  whole : List Nat
  decimals : Option (List Nat) := none
  exponent : Option Int := none
  deriving DecidableEq, Repr

/-! ## Reading -/

namespace Numeral

/-- Puts digits after a number as long as it stays below `2 ^ 64`; returns the digits left over. -/
def pack (n : Nat) : List Nat → Nat × List Nat
  | [] => (n, [])
  | d :: rest => if n * 10 + d < Nat.pow 2 64 then pack (n * 10 + d) rest else (n, d :: rest)

/-- The whole number, if the numeral is written as one and has at most 64 bits: with a minus sign
down to `-2 ^ 63`, and not zero. -/
def integer? (n : Numeral) : Option Int :=
  match n.decimals, n.exponent, pack 0 n.whole with
  | none, none, (value, []) =>
    if !n.negative then some value
    else if 0 < value ∧ value ≤ Nat.pow 2 63 then some (-value)
    else none
  | _, _, _ => none

/-- The fraction that a numeral is read as, if it is not out of range. -/
def fraction? (n : Numeral) : Option Fraction :=
  let decimals := n.decimals.getD []
  let (front, cut) := pack 0 n.whole
  let (digits, ignored) := pack front decimals
  let places : Int := cut.length - (decimals.length - ignored.length) + n.exponent.getD 0
  ((Binary.nearest digits 1).scale places).map (⟨n.negative, ·⟩)

example : integer? ⟨true, [7], none, none⟩ = some (-7) ∧ integer? ⟨true, [0], none, none⟩ = none :=
  by decide

end Numeral

/-! ## Showing -/

namespace Fraction

/-- Zeros in a row. -/
def zeros (n : Nat) : List Char := List.replicate n '0'

/-- A power of ten in scientific notation, always with a sign. -/
def powerText (power : Int) : List Char :=
  'e' :: (if power < 0 then '-' else '+') :: Nat.toDigits 10 power.natAbs

/-- Digits with their exponent as text: with a point where that is at most 16 digits from the front
or 4 before it, in scientific notation otherwise. -/
def layout (digits : Nat) (exponent : Int) : List Char :=
  let ds := Nat.toDigits 10 digits
  let point : Int := ds.length + exponent
  if 0 ≤ exponent ∧ point ≤ 16 then ds ++ zeros exponent.toNat ++ ['.', '0']
  else if 0 < point ∧ point ≤ 16 then ds.take point.toNat ++ '.' :: ds.drop point.toNat
  else if -5 < point ∧ point ≤ 0 then '0' :: '.' :: (zeros (-point).toNat ++ ds)
  else ds.take 1 ++ (if ds.length = 1 then [] else '.' :: ds.drop 1) ++ powerText (point - 1)

example : layout 25 (-6) = "0.000025".toList ∧ layout 1 (-7) = "1e-7".toList := by decide

example : layout 99 14 = "9900000000000000.0".toList ∧ layout 125 15 = "1.25e+17".toList := by
  decide

/-- The text without a sign. -/
def magnitude (f : Fraction) : List Char :=
  if f.size.mantissa = 0 then ['0', '.', '0']
  else
    match f.size.shortest? with
    | some (digits, exponent) => layout digits exponent
    | none => []

/-- The number in the fewest digits. -/
def write (f : Fraction) : String :=
  String.ofList (if f.negative then '-' :: f.magnitude else f.magnitude)

end Fraction

end Wiring
