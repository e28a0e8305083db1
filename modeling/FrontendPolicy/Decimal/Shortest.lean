/-!
# The shortest decimal of a double

A finite double is an integer times a power of two, and every real number within half a step of it
rounds to it. Of the decimals in this interval `Decimal.Binary.shortest` takes one of fewest digits,
and among those the nearest. `Decimal.text` writes it down.
-/

namespace FrontendPolicy

/-- A decimal number `± d.ddd · 10 ^ exponent`, given by its digits. -/
structure Decimal where
  negative : Bool
  digits : List Nat
  exponent : Int
deriving DecidableEq, Repr

namespace Decimal

/-- The size of a positive double: `mantissa · 2 ^ power`. At the bottom of a binade the next
double below is only half as far away as the next one above. -/
structure Binary where
  mantissa : Nat
  power : Int
  atBinadeStart : Bool

/-- The leading bit of a mantissa, which is not stored. -/
def hiddenBit : Nat := 0x10000000000000

/-- The size of the double with these bits, its sign left out. -/
def Binary.ofBits (bits : UInt64) : Binary :=
  let low : Nat := bits.toNat % hiddenBit
  let band : Nat := bits.toNat / hiddenBit % 0x800
  if band = 0 then ⟨low, -1074, false⟩
  else ⟨hiddenBit + low, (band : Int) - 1075, low == 0 && 1 < band⟩

/-- The size as a fraction. -/
def Binary.fraction (b : Binary) : Nat × Nat :=
  (b.mantissa * Nat.pow 2 b.power.toNat, Nat.pow 2 (-b.power).toNat)

/-- The power of ten of the leading digit of a positive fraction. -/
def leadingPower (num den : Nat) : Int :=
  if den ≤ num then (Nat.toDigits 10 (num / den)).length - 1
  else -((Nat.toDigits 10 ((den - 1) / num)).length : Int)

/-- Whether `candidate · unit` rounds to the double, where the double itself is `num / den` of
such units. The ends of the interval belong to it when the mantissa is even. -/
def Binary.roundsTo (b : Binary) (num den candidate : Nat) : Bool :=
  let m := 4 * b.mantissa
  let scaled := candidate * den * m
  let low := (if b.atBinadeStart then m - 1 else m - 2) * num
  let high := (m + 2) * num
  if b.mantissa % 2 = 0 then low ≤ scaled && scaled ≤ high else low < scaled && scaled < high

/-- Of the two integers next to `num / den` the nearer one; of two at the same distance the even
one. -/
def nearer (num den : Nat) : Nat :=
  let below := num / den
  let toBelow := num - below * den
  let toAbove := (below + 1) * den - num
  if toBelow < toAbove || (toBelow = toAbove && below % 2 = 0) then below else below + 1

/-- The integer next to `num / den` that rounds to the double, the nearer one if both do. -/
def Binary.onGrid? (b : Binary) (num den : Nat) : Option Nat :=
  let below := num / den
  let above := below + 1
  match b.roundsTo num den below, b.roundsTo num den above with
  | true, true => some (nearer num den)
  | true, false => some below
  | false, true => some above
  | false, false => none

/-- The first grid of at least `17 - left` digits that holds a decimal for the double. -/
def Binary.search (b : Binary) (num den : Nat) (lead : Int) : Nat → Nat × Int
  | 0 => (num / den, lead)
  | left + 1 =>
    let unit := lead - (16 - left : Nat)
    match b.onGrid? (num * Nat.pow 10 (-unit).toNat) (den * Nat.pow 10 unit.toNat) with
    | some n => (n, unit)
    | none => b.search num den lead left

/-- The shortest decimal that rounds to a double of positive size: its digits and the power of
ten of the first one. -/
def Binary.shortest (b : Binary) : List Nat × Int :=
  let (num, den) := b.fraction
  let (n, unit) := b.search num den (leadingPower num den) 17
  let digits := (Nat.toDigits 10 n).map fun c => c.toNat - '0'.toNat
  let kept := (digits.reverse.dropWhile (· = 0)).reverse
  (kept, unit + digits.length - 1)

/-- The shortest decimal that reads back as the given finite double. Zero keeps its sign. -/
def ofFloat (x : Float) : Decimal :=
  let bits := x.toBits
  let negative := bits.toNat / 0x8000000000000000 = 1
  let b := Binary.ofBits bits
  if b.mantissa = 0 then ⟨negative, [0], 0⟩
  else
    let (digits, exponent) := b.shortest
    ⟨negative, digits, exponent⟩

/-- The digits as characters. -/
def digitText (ds : List Nat) : List Char := ds.map Nat.digitChar

/-- The written form. A leading digit between the fifth place after the point and the sixteenth
before it is written in its place, with at least one digit after the point. Outside that range the
point follows the first digit, and an exponent with a sign follows. -/
def text (d : Decimal) : String :=
  let sign := if d.negative then ['-'] else []
  let body :=
    if d.exponent < -5 || 15 < d.exponent then
      let fraction := if d.digits.length ≤ 1 then [] else '.' :: digitText (d.digits.drop 1)
      let mark := if d.exponent < 0 then '-' else '+'
      digitText (d.digits.take 1) ++ fraction ++ 'e' :: mark ::
        Nat.toDigits 10 d.exponent.natAbs
    else if d.exponent < 0 then
      '0' :: '.' :: List.replicate (d.exponent.natAbs - 1) '0' ++ digitText d.digits
    else
      let places := d.exponent.toNat + 1
      let whole := digitText (d.digits.take places)
      let fraction := digitText (d.digits.drop places)
      whole ++ List.replicate (places - d.digits.length) '0' ++ '.' ::
        (if fraction.isEmpty then ['0'] else fraction)
  String.ofList (sign ++ body)

end Decimal

end FrontendPolicy
