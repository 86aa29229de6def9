/-!
# Decimal forms of binary numbers

A finite number of the binary64 format is an integer times a power of two, and every decimal number
that lies nearer to it than to its neighbours reads back as it. The decimal form written here is the
one on the coarsest grid of powers of ten that has a point there, in exact arithmetic; of two points of
one grid the nearer is taken, and the larger of two that are equally near.
-/

set_option autoImplicit false

namespace Lexis.Decimal

/-- A positive number, `significand` times the power of two with the given exponent. -/
structure Dyadic where
  significand : Nat
  exponent : Int
  /-- Whether the next smaller number is only half as far away as the next larger one. -/
  closerBelow : Bool

/-- The magnitude that the 64 bits of a finite number spell. -/
def Dyadic.ofBits (bits : Nat) : Dyadic :=
  let fraction : Nat := bits % (1 <<< 52)
  let exponent : Nat := (bits >>> 52) % (1 <<< 11)
  if exponent = 0 then ⟨fraction, -1074, false⟩
  else ⟨(1 <<< 52) + fraction, (exponent : Int) - 1075, fraction == 0 && 1 < exponent⟩

/-- The point of the grid of multiples of a power of ten that reads back as a number, if there is one.
All lengths are compared in quarters of the distance to the next larger number. -/
def gridPoint? (x : Dyadic) (power : Int) : Option Nat :=
  let quarter := x.exponent - 2
  let tens := Nat.pow 10 power.toNat <<< (-quarter).toNat
  let quarters := Nat.pow 10 (-power).toNat <<< quarter.toNat
  let value := 4 * x.significand * quarters
  let low := (4 * x.significand - if x.closerBelow then 1 else 2) * quarters
  let high := (4 * x.significand + 2) * quarters
  let endsCount := x.significand % 2 == 0
  let readsBack (point : Nat) : Bool :=
    if endsCount then low ≤ point * tens && point * tens ≤ high
    else low < point * tens && point * tens < high
  let below := value / tens
  let above := below + 1
  if readsBack below && (!readsBack above || value - below * tens < above * tens - value) then
    some below
  else if readsBack above then some above
  else none

/-- Looks for a grid point, from the given power of ten on through finer grids. -/
def search (x : Dyadic) : Nat → Int → Nat × Int
  | 0, power => (0, power)
  | grids + 1, power =>
    match gridPoint? x power with
    | some point => (point, power)
    | none => search x grids (power - 1)

/-- The decimal form of a positive number: digits, and the power of ten of the last of them. Numbers of
the format lie below `10 ^ 309`, and no grid finer than `10 ^ -324` is needed. -/
def ofDyadic (x : Dyadic) : Nat × Int := search x 650 309

/-- Digits times a power of ten without an exponent, always with a point. -/
def positional (digits : Nat) (power : Int) : String :=
  let shown := toString digits
  if 0 ≤ power then shown.pushn '0' power.toNat ++ ".0"
  else
    let places := (-power).toNat
    if places < shown.length then
      String.ofList (shown.toList.take (shown.length - places)) ++ "." ++
        String.ofList (shown.toList.drop (shown.length - places))
    else ("0.".pushn '0' (places - shown.length)) ++ shown

/-- **The shortest decimal form** that reads back as a number, written without an exponent. -/
def shortest (x : Float) : String :=
  if x.isNaN then "NaN"
  else
    let bits := x.toBits.toNat
    let sign := if bits < 1 <<< 63 then "" else "-"
    if x.isInf then sign ++ "inf"
    else
      let magnitude := Dyadic.ofBits (bits % (1 <<< 63))
      if magnitude.significand = 0 then sign ++ "0.0"
      else
        let (digits, power) := ofDyadic magnitude
        sign ++ positional digits power

end Lexis.Decimal
