/-
Binary floating-point numbers of 64 bits, as exact values: the nearest one to a quotient or to a
decimal, and the fewest decimal digits that read back.
-/
namespace JmsNaming

/-- A binary floating-point number. A finite one is `mantissa * 2 ^ exponent`, where the mantissa is
below `2 ^ 53` and, unless the exponent is the least one, at least `2 ^ 52`. -/
inductive Binary64 where
  | nan
  | infinite (negative : Bool)
  | finite (negative : Bool) (mantissa : Nat) (exponent : Int)
  deriving DecidableEq, Inhabited

namespace Binary64

/-- The exponent of the smallest steps. -/
def leastExponent : Int := -1074

/-- The exponent of the largest steps. -/
def greatestExponent : Int := 971

/-- `num / den` rounded to a whole number, a half to the even neighbour. -/
def roundHalfEven (num den : Nat) : Nat :=
  let q := num / den
  let r := num % den
  if 2 * r < den || (2 * r == den && q % 2 == 0) then q else q + 1

/-- The quotient `num / den` counted in steps of `2 ^ e`, as a quotient. -/
def inSteps (num den : Nat) (e : Int) : Nat × Nat :=
  if 0 ≤ e then (num, den <<< e.toNat) else (num <<< (-e).toNat, den)

/-- The nearest number to `num / den`, a half going to the even mantissa. -/
def nearest (negative : Bool) (num den : Nat) : Binary64 :=
  if num = 0 || den = 0 then finite negative 0 leastExponent
  else
    let e := (num.log2 : Int) - den.log2 - 52
    let trial := inSteps num den e
    let e := max (if trial.1 / trial.2 < 1 <<< 52 then e - 1 else e) leastExponent
    let steps := inSteps num den e
    let m := roundHalfEven steps.1 steps.2
    let r := if m = 1 <<< 53 then (1 <<< 52, e + 1) else (m, e)
    if greatestExponent < r.2 then infinite negative else finite negative r.1 r.2

/-- The number of decimal digits of `n`. -/
def digitCount (n : Nat) : Nat :=
  (Nat.toDigits 10 n).length

/-- The nearest number to `digits * 10 ^ e`. -/
def ofDecimal (negative : Bool) (digits : Nat) (e : Int) : Binary64 :=
  let magnitude := e + digitCount digits
  if digits = 0 || magnitude < -400 then finite negative 0 leastExponent
  else if 400 < magnitude then infinite negative
  else if 0 ≤ e then nearest negative (digits * Nat.pow 10 e.toNat) 1
  else nearest negative digits (Nat.pow 10 (-e).toNat)

/-- The number that has a whole value. -/
def ofInt (i : Int) : Binary64 :=
  ofDecimal (i < 0) i.natAbs 0

/-- The absolute value as a quotient; nothing is said of infinity. -/
def quotient : Binary64 → Nat × Nat
  | finite _ m e => if 0 ≤ e then (m <<< e.toNat, 1) else (m, 1 <<< (-e).toNat)
  | _ => (0, 1)

def isNegative : Binary64 → Bool
  | nan => false
  | infinite s => s
  | finite s _ _ => s

def isZero : Binary64 → Bool
  | finite _ m _ => m == 0
  | _ => false

/-- The number as a whole number, if it is one. -/
def toInt? (x : Binary64) : Option Int :=
  match x with
  | finite s _ _ =>
    let q := x.quotient
    if q.1 % q.2 == 0 then some (if s then -((q.1 / q.2 : Nat) : Int) else (q.1 / q.2 : Nat)) else none
  | _ => none

def isNan : Binary64 → Bool
  | nan => true
  | _ => false

/-- The nearest number to the product. -/
def mul (x y : Binary64) : Binary64 :=
  match x, y with
  | finite sx _ _, finite sy _ _ =>
    let p := x.quotient
    let q := y.quotient
    nearest (sx != sy) (p.1 * q.1) (p.2 * q.2)
  | x, y =>
    if x.isNan || y.isNan || x.isZero || y.isZero then nan else infinite (x.isNegative != y.isNegative)

/-- The nearest number to the sum. -/
def add (x y : Binary64) : Binary64 :=
  match x, y with
  | finite sx _ _, finite sy _ _ =>
    let p := x.quotient
    let q := y.quotient
    let a := p.1 * q.2
    let b := q.1 * p.2
    if sx == sy then nearest sx (a + b) (p.2 * q.2)
    else if a = b then finite false 0 leastExponent
    else if b < a then nearest sx (a - b) (p.2 * q.2)
    else nearest sy (b - a) (p.2 * q.2)
  | finite _ _ _, y => y
  | infinite sx, infinite sy => if sx == sy then infinite sx else nan
  | infinite _, nan => nan
  | x, _ => x

/-- The number with the opposite sign. -/
def neg : Binary64 → Binary64
  | nan => nan
  | infinite s => infinite (!s)
  | finite s m e => finite (!s) m e

/-! ## Decimal text -/

/-- The place of the decimal point of a positive quotient: the `k` with
`10 ^ (k - 1) ≤ num / den < 10 ^ k`. -/
def decimalPoint (num den : Nat) : Int :=
  let atLeast (k : Int) : Bool :=
    if 0 ≤ k then Nat.pow 10 k.toNat * den ≤ num else den ≤ num * Nat.pow 10 (-k).toNat
  let k : Int := Int.fdiv (((num.log2 : Int) - den.log2) * 30103) 100000
  if atLeast (k + 1) then k + 2 else if atLeast k then k + 1 else if atLeast (k - 1) then k else k - 1

/-- With `count` digits before the place `10 ^ p`, the neighbour of `x` on that grid that reads back
as `x`, the nearer one if both do. -/
def onGrid? (x : Binary64) (p : Int) : Option Nat :=
  let q := x.quotient
  let scaled := if 0 ≤ p then (q.1, q.2 * Nat.pow 10 p.toNat) else (q.1 * Nat.pow 10 (-p).toNat, q.2)
  let low := scaled.1 / scaled.2
  let rest := scaled.1 % scaled.2
  let lowFits := ofDecimal x.isNegative low p == x
  let highFits := ofDecimal x.isNegative (low + 1) p == x
  if lowFits && highFits then
    some (if 2 * rest < scaled.2 || (2 * rest == scaled.2 && low % 2 == 0) then low else low + 1)
  else if lowFits then some low
  else if highFits then some (low + 1)
  else none

/-- Searches the grids of `count`, `count + 1`, … digits; seventeen always suffice. -/
def shortestFrom (x : Binary64) (k : Int) (count : Nat) : (fuel : Nat) → Nat × Int
  | 0 => (0, 0)
  | fuel + 1 =>
    match onGrid? x (k - count) with
    | some d => (d, k - count)
    | none => shortestFrom x k (count + 1) fuel

/-- The fewest digits that read back as `x`, and the power of ten of the last of them. -/
def shortest (x : Binary64) : Nat × Int :=
  let q := x.quotient
  if q.1 = 0 then (0, 0) else shortestFrom x (decimalPoint q.1 q.2) 1 17

/-- An exponent with its sign and at least two digits. -/
def exponentText (e : Int) : List Char :=
  let digits := Nat.toDigits 10 e.natAbs
  (if e < 0 then '-' else '+') :: (if digits.length < 2 then '0' :: digits else digits)

/-- The text of the absolute value: positional from `10 ^ -4` up to below `10 ^ 16`, with at least one
digit after the point, else with an exponent. -/
def magnitudeText (x : Binary64) : List Char :=
  let s := x.shortest
  let all := Nat.toDigits 10 s.1
  let digits := (all.reverse.dropWhile (· == '0')).reverse
  if digits.isEmpty then ['0', '.', '0']
  else
    let point : Int := s.2 + all.length
    if 16 < point || point < -3 then
      let tail := digits.drop 1
      digits.take 1 ++ (if tail.isEmpty then [] else '.' :: tail) ++ 'e' :: exponentText (point - 1)
    else if point ≤ 0 then
      '0' :: '.' :: List.replicate (-point).toNat '0' ++ digits
    else
      let whole := digits.take point.toNat
      let tail := digits.drop point.toNat
      whole ++ List.replicate (point.toNat - whole.length) '0' ++ '.' :: (if tail.isEmpty then ['0'] else tail)

/-- The text of a number: the fewest digits that read back, `inf` and `nan`. -/
def text : Binary64 → List Char
  | nan => ['n', 'a', 'n']
  | infinite s => if s then ['-', 'i', 'n', 'f'] else ['i', 'n', 'f']
  | finite s m e =>
    let t := magnitudeText (finite s m e)
    if s then '-' :: t else t

end Binary64

end JmsNaming
