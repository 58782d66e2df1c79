import Playground.Decimal.Digits
import Playground.Decimal.Power
import Playground.Decimal.Rounding

/-!
# Binary floating point numbers of 64 bits

A number is kept as its bits; arithmetic is exact arithmetic on natural numbers followed by one
rounding to the nearest number, a half going to the even neighbour.

* `Binary64.ofRatio` — the number nearest to a quotient.
* `Binary64.magnitude` — the exact value of a finite number as a quotient.
* `Binary64.shortestDigits` — the fewest decimal digits that read back.
* `Binary64.text` — the written form of a number.
-/

namespace Playground.Decimal

/-- A floating point number, given by its bits. -/
structure Binary64 where
  bits : Nat
  deriving DecidableEq, Repr

namespace Binary64

def signBit : Nat := pow2 63

/-- A number from its sign and the bits below the sign. -/
def ofParts (negative : Bool) (low : Nat) : Binary64 :=
  ⟨if negative then signBit + low else low⟩

def zero (negative : Bool) : Binary64 := ofParts negative 0

def infinity (negative : Bool) : Binary64 := ofParts negative (2047 * pow2 52)

def nan : Binary64 := ofParts false (2047 * pow2 52 + pow2 51)

def isNegative (x : Binary64) : Bool := signBit ≤ x.bits

def exponentBits (x : Binary64) : Nat := x.bits / pow2 52 % 2048

def fractionBits (x : Binary64) : Nat := x.bits % pow2 52

def isFinite (x : Binary64) : Bool := x.exponentBits ≠ 2047

def isNaN (x : Binary64) : Bool := x.exponentBits = 2047 && x.fractionBits ≠ 0

/-- The significand and the exponent of two of a finite number, without its sign. -/
def parts (x : Binary64) : Nat × Int :=
  if x.exponentBits = 0 then (x.fractionBits, -1074)
  else (x.fractionBits + pow2 52, (x.exponentBits : Int) - 1075)

/-- `m · 2^q` as a quotient of natural numbers. -/
def scaled (m : Nat) (q : Int) : Nat × Nat :=
  if q < 0 then (m, pow2 q.natAbs) else (m * pow2 q.natAbs, 1)

/-- The exact value of a finite number, without its sign, as a quotient. -/
def magnitude (x : Binary64) : Nat × Nat := scaled x.parts.1 x.parts.2

/-- The bits below the sign of the number nearest to `m · 2^q`, where `m` has at most 53 bits. -/
def pack (m : Nat) (q : Int) : Nat :=
  if m < pow2 52 then m
  else
    let biased := q + 1075
    if biased ≥ 2047 then 2047 * pow2 52
    else biased.toNat * pow2 52 + (m - pow2 52)

/-- The quotient `num / den` divided by `2^q`. -/
def shifted (num den : Nat) (q : Int) : Nat × Nat :=
  if q < 0 then (num * pow2 q.natAbs, den) else (num, den * pow2 q.natAbs)

/-- The least exponent of two at which `num / den` has no more than 53 bits before the point. -/
def exponentFor (num den : Nat) : Int :=
  let guess : Int := (num.log2 : Int) - (den.log2 : Int) - 52
  let q := if guess < -1074 then -1074 else guess
  -- The quotient of the leading bits may be half of what the guess assumes.
  if q > -1074 then
    let lower := q - 1
    let (n, d) := shifted num den lower
    if n < pow2 53 * d then lower else q
  else q

/-- The number nearest to `num / den`, a half going to the even neighbour. -/
def ofRatio (negative : Bool) (num den : Nat) : Binary64 :=
  if num = 0 then zero negative
  else
    let q := exponentFor num den
    let (n, d) := shifted num den q
    let m := roundHalfEven n d
    if m = pow2 53 then ofParts negative (pack (pow2 52) (q + 1))
    else ofParts negative (pack m q)

def ofInt (i : Int) : Binary64 := ofRatio (i < 0) i.natAbs 1

def ofDecimal (negative : Bool) (m : Nat) (e : Int) : Binary64 :=
  if m = 0 then zero negative
  else
    -- Far outside the range the answer does not depend on the digits.
    let size : Int := (digits m).length + e
    if size > 400 then infinity negative
    else if size < -400 then zero negative
    else if e < 0 then ofRatio negative m (pow10 e.natAbs)
    else ofRatio negative (m * pow10 e.natAbs) 1

def negate (x : Binary64) : Binary64 :=
  ⟨if x.isNegative then x.bits - signBit else x.bits + signBit⟩

/-- The exact value of a finite number as a signed quotient. -/
def ratio (x : Binary64) : Int × Nat :=
  let (n, d) := x.magnitude
  (if x.isNegative then -(n : Int) else (n : Int), d)

/-- The number nearest to a signed quotient; an exact zero is positive. -/
def ofSignedRatio (n : Int) (d : Nat) : Binary64 := ofRatio (n < 0) n.natAbs d

/-- The product, rounded once. -/
def mul (x y : Binary64) : Binary64 :=
  let negative := x.isNegative != y.isNegative
  if x.isNaN || y.isNaN then nan
  else if !x.isFinite || !y.isFinite then
    if x.magnitude.1 = 0 && x.isFinite || y.magnitude.1 = 0 && y.isFinite then nan
    else infinity negative
  else
    let (n, d) := x.magnitude
    let (n', d') := y.magnitude
    ofRatio negative (n * n') (d * d')

/-- The sum, rounded once. -/
def add (x y : Binary64) : Binary64 :=
  if x.isNaN || y.isNaN then nan
  else if !x.isFinite then
    if !y.isFinite && x.isNegative != y.isNegative then nan else x
  else if !y.isFinite then y
  else
    let (n, d) := x.ratio
    let (n', d') := y.ratio
    let sum := n * d' + n' * d
    if sum = 0 then zero (x.isNegative && y.isNegative) else ofSignedRatio sum (d * d')

/-- Is the integer greater than the number? Nothing is greater than no number. -/
def ltInt (x : Binary64) (i : Int) : Bool :=
  if x.isNaN then false
  else if !x.isFinite then x.isNegative
  else
    let (n, d) := x.ratio
    n < i * d

def eqInt (x : Binary64) (i : Int) : Bool :=
  x.isFinite && (let (n, d) := x.ratio; n = i * d)

/-- Do two numbers have one value? Zeros of both signs do, and no number has none. -/
def eqValue (x y : Binary64) : Bool :=
  if x.isNaN || y.isNaN then false
  else x.bits = y.bits || (x.isFinite && y.isFinite && x.magnitude.1 = 0 && y.magnitude.1 = 0)

/-! ### The fewest digits that read back -/

/-- The least `k` up to `fuel` for which `num · 10^k` reaches `den`. -/
def stepsToUnit : Nat → Nat → Nat → Nat
  | 0, _, _ => 0
  | fuel + 1, num, den => if den ≤ num then 0 else stepsToUnit fuel (num * 10) den + 1

/-- The decimal exponent of the leading digit of `num / den`. -/
def leadingExponent (num den : Nat) : Int :=
  if den ≤ num then ((digits (num / den)).length : Int) - 1
  else -(stepsToUnit 400 num den : Int)

/-- Compares quotients: is `a / b ≤ c / d`, or less where `strict`? -/
def belowRatio (strict : Bool) (a b c d : Nat) : Bool :=
  if strict then a * d < c * b else a * d ≤ c * b

/-- The point of the grid of `n` significant digits that lies in the interval of the reals that
round to the number and is nearest to it. -/
def gridPoint? (x : Binary64) (n : Nat) : Option (Nat × Int) :=
  let (m, q) := x.parts
  let (num, den) := scaled (4 * m) (q - 2)
  -- Below a power of two the neighbours stand half as far apart.
  let down := if x.fractionBits = 0 && 1 < x.exponentBits then 1 else 2
  let (lowNum, lowDen) := scaled (4 * m - down) (q - 2)
  let (highNum, highDen) := scaled (4 * m + 2) (q - 2)
  let strict := m % 2 = 1
  let p := leadingExponent num den + 1 - n
  let (gridNum, gridDen) := if p < 0 then (1, pow10 p.natAbs) else (pow10 p.natAbs, 1)
  let d := num * gridDen / (den * gridNum)
  let inside (k : Nat) : Bool :=
    belowRatio strict lowNum lowDen (k * gridNum) gridDen &&
      belowRatio strict (k * gridNum) gridDen highNum highDen
  if inside d then
    if inside (d + 1) then
      -- Of two hits the nearer one counts, the even one where both are as near.
      let twice := 2 * (num * gridDen)
      let middle := (2 * d + 1) * (den * gridNum)
      if twice < middle then some (d, p)
      else if middle < twice then some (d + 1, p)
      else if d % 2 = 0 then some (d, p) else some (d + 1, p)
    else some (d, p)
  else if inside (d + 1) then some (d + 1, p)
  else none

/-- The first grid with a point, starting at `n` digits. -/
def shortestFrom (x : Binary64) : Nat → Nat → Nat × Int
  | 0, n => (gridPoint? x n).getD (0, 0)
  | fuel + 1, n =>
    match gridPoint? x n with
    | some point => point
    | none => shortestFrom x fuel (n + 1)

/-- The digits of a finite positive number, fewest that read back and without zeros at the end,
and the place of its decimal point counted from their start. -/
def shortestDigits (x : Binary64) : List Char × Int :=
  let (d, p) := shortestFrom x 17 1
  let all := digits d
  let kept := (all.reverse.dropWhile (· = '0')).reverse
  (kept, p + all.length)

/-- The written exponent: a sign and at least two digits. -/
def exponentText (e : Int) : List Char :=
  (if e < 0 then '-' else '+') :: paddedDigits 2 e.natAbs

/-- The written form of a finite number without its sign: positional where the leading digit
stands between the fourth place after the point and the sixteenth before it. -/
def magnitudeText (x : Binary64) : List Char :=
  if x.magnitude.1 = 0 then ['0', '.', '0']
  else
    let (ds, point) := x.shortestDigits
    if -4 < point && point ≤ 16 then
      if point ≤ 0 then '0' :: '.' :: List.replicate point.natAbs '0' ++ ds
      else
        let whole := ds.take point.toNat ++ List.replicate (point.toNat - ds.length) '0'
        let rest := ds.drop point.toNat
        whole ++ '.' :: (if rest.isEmpty then ['0'] else rest)
    else
      let tail := ds.drop 1
      ds.take 1 ++ (if tail.isEmpty then [] else '.' :: tail) ++ 'e' :: exponentText (point - 1)

def text (x : Binary64) : String :=
  if x.isNaN then "nan"
  else
    let sign := if x.isNegative then ['-'] else []
    if x.isFinite then String.ofList (sign ++ x.magnitudeText)
    else String.ofList (sign ++ "inf".toList)

/-- Reads the decimal form of a number: digits, a point, more digits and an exponent, all but one
digit optional. -/
def ofText? (cs : List Char) : Option Binary64 :=
  let (negative, body) :=
    match cs with
    | '-' :: r => (true, r)
    | '+' :: r => (false, r)
    | r => (false, r)
  let lower := body.map Char.toLower
  if lower = "inf".toList || lower = "infinity".toList then some (infinity negative)
  else if lower = "nan".toList then some nan
  else
    let isDigit := Playground.Text.isDecimalDigit
    let whole := body.takeWhile isDigit
    let (fraction, rest) :=
      match body.dropWhile isDigit with
      | '.' :: r => (r.takeWhile isDigit, r.dropWhile isDigit)
      | r => ([], r)
    if whole.isEmpty && fraction.isEmpty then none
    else
      let m := ofDigits (whole ++ fraction)
      let shift : Int := -(fraction.length : Int)
      match rest with
      | [] => some (ofDecimal negative m shift)
      | e :: r =>
        if e = 'e' || e = 'E' then
          let (down, ds) :=
            match r with
            | '-' :: t => (true, t)
            | '+' :: t => (false, t)
            | t => (false, t)
          if ds.isEmpty || !ds.all isDigit then none
          else
            let n : Int := ofDigits ds
            some (ofDecimal negative m (if down then shift - n else shift + n))
        else none

end Binary64

end Playground.Decimal
