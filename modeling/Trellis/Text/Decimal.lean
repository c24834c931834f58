/-
Decimal text of binary numbers.

* A positive binary number is `m · 2^q`; the reals that round to it form an interval around it
  (`Binary.contains`).
* `Binary.shortest` is the decimal with the fewest digits in that interval, and of those the
  nearest one.
* A `NumberStyle` says which magnitudes are written with an exponent.
-/

namespace Trellis

/-! Powers of natural numbers. -/

/-- A base taken `n` times as a factor. -/
def power (base n : Nat) : Nat := Nat.pow base n

end Trellis

namespace Trellis.Text

/-- The positive number `mantissa · 2^exponent`.  `narrow` says that the next smaller number is
half as far away as the next larger one. -/
structure Binary where
  mantissa : Nat
  exponent : Int
  narrow : Bool

/-- The number `digits · 10^exponent`. -/
structure Decimal where
  digits : Nat
  exponent : Int
deriving DecidableEq, Repr

/-- The rational `2^twos / 10^tens` as numerator and denominator. -/
def scaleFactor (twos tens : Int) : Nat × Nat :=
  (power 2 twos.toNat * power 10 (-tens).toNat, power 2 (-twos).toNat * power 10 tens.toNat)

/-- Whether `c · 10^tens` lies in the interval of reals that round to the number; its ends belong
to it when the mantissa is even. -/
def Binary.contains (b : Binary) (c : Nat) (tens : Int) : Bool :=
  let (n, d) := scaleFactor (b.exponent - 2) tens
  let low := (4 * b.mantissa - (if b.narrow then 1 else 2)) * n
  let high := (4 * b.mantissa + 2) * n
  if b.mantissa % 2 == 0 then low ≤ c * d && c * d ≤ high else low < c * d && c * d < high

/-- The point of the grid `10^tens` that stands for the number on that grid, if one does: the
nearer of its two neighbours there that round to it. -/
def Binary.onGrid? (b : Binary) (tens : Int) : Option Nat :=
  let (n, d) := scaleFactor (b.exponent - 2) tens
  let value := 4 * b.mantissa * n
  let below := value / d
  let lowOk := b.contains below tens
  let highOk := b.contains (below + 1) tens
  if lowOk && highOk then
    let down := value - below * d
    let up := (below + 1) * d - value
    if down < up then some below
    else if up < down then some (below + 1)
    else if below % 2 == 0 then some below else some (below + 1)
  else if lowOk then some below
  else if highOk then some (below + 1)
  else none

/-- Whether the number is at least `10^k`. -/
def Binary.atLeast (b : Binary) (k : Int) : Bool :=
  let (n, d) := scaleFactor b.exponent k
  d ≤ b.mantissa * n

/-- The greatest `k` with `10^k` at most the number. -/
def Binary.magnitude (b : Binary) : Int :=
  let twos := b.exponent + b.mantissa.log2
  let guess := (twos * 30103) / 100000
  if b.atLeast (guess + 1) then guess + 1 else if b.atLeast guess then guess else guess - 1

/-- The digits without trailing zeros. -/
def Decimal.stripZeros : Nat → Decimal → Decimal
  | 0, d => d
  | fuel + 1, d =>
    if d.digits != 0 && d.digits % 10 == 0 then
      Decimal.stripZeros fuel ⟨d.digits / 10, d.exponent + 1⟩
    else d

/-- Tries the grids with `n`, `n + 1`, … digits. -/
def Binary.search (b : Binary) (k : Int) : Nat → Nat → Decimal
  | 0, n => ⟨((b.onGrid? (k - n)).getD 0), k - n⟩
  | fuel + 1, n =>
    match b.onGrid? (k - n) with
    | some c => Decimal.stripZeros 20 ⟨c, k - n⟩
    | none => b.search k fuel (n + 1)

/-- The decimal with the fewest digits that rounds to the number, and the nearest of those. -/
def Binary.shortest (b : Binary) : Decimal := b.search b.magnitude 17 0

/-- The magnitude of a finite non-zero number of double precision. -/
def binaryOfBits (bits : UInt64) : Binary :=
  let frac := (bits &&& 0xFFFFFFFFFFFFF).toNat
  let expo := ((bits >>> 52) &&& 0x7FF).toNat
  if expo == 0 then ⟨frac, -1074, false⟩
  else ⟨frac + power 2 52, (expo : Int) - 1075, frac == 0 && expo > 1⟩

/-- The magnitude of a finite non-zero number of single precision. -/
def binaryOfBits32 (bits : UInt32) : Binary :=
  let frac := (bits &&& 0x7FFFFF).toNat
  let expo := ((bits >>> 23) &&& 0xFF).toNat
  if expo == 0 then ⟨frac, -149, false⟩
  else ⟨frac + power 2 23, (expo : Int) - 150, frac == 0 && expo > 1⟩

/-- How a number is written: with an exponent when its magnitude is below `low` or not below
`high`, and the exponent with at least `width` digits. -/
structure NumberStyle where
  low : Int
  high : Int
  width : Nat

/-- The general style: plain from `0.0001` up to, not including, a million... as far as six digits
reach. -/
def NumberStyle.general : NumberStyle := ⟨-4, 6, 2⟩

/-- The style of numbers in documents: plain from `0.000001` up to, not including, `10^21`. -/
def NumberStyle.document : NumberStyle := ⟨-6, 21, 1⟩

/-- Always plain. -/
def NumberStyle.plain : NumberStyle := ⟨-100000, 100000, 2⟩

/-- The decimal digits of a natural number. -/
def natText (n : Nat) : String := String.ofList (Nat.toDigits 10 n)

/-- An integer in decimal. -/
def intText (n : Int) : String := if n < 0 then "-" ++ natText n.natAbs else natText n.natAbs

/-- The number that decimal digits stand for. -/
def natOfDigits (ds : List Char) : Nat := ds.foldl (fun n c => 10 * n + (c.toNat - 48)) 0

/-- `count` zeros. -/
def zeros (count : Nat) : List Char := List.replicate count '0'

/-- A decimal written out in a style, without a sign. -/
def Decimal.text (style : NumberStyle) (d : Decimal) : String :=
  let ds := Nat.toDigits 10 d.digits
  let x : Int := (if d.digits == 0 then 0 else d.exponent + ds.length - 1)
  if x < style.low || style.high ≤ x then
    let mantissa := match ds with
      | c :: [] => [c]
      | c :: rest => c :: '.' :: rest
      | [] => []
    let e := Nat.toDigits 10 x.natAbs
    String.ofList (mantissa ++ ['e', if x < 0 then '-' else '+'] ++
      zeros (style.width - e.length) ++ e)
  else if x < 0 then
    String.ofList ('0' :: '.' :: zeros (-x - 1).toNat ++ ds)
  else
    let whole := (x + 1).toNat
    if ds.length ≤ whole then String.ofList (ds ++ zeros (whole - ds.length))
    else String.ofList (ds.take whole ++ '.' :: ds.drop whole)

/-- The sign bit of a number of double precision. -/
def isNegative (x : Float) : Bool := x.toBits >>> 63 == 1

/-- A number of double precision in a style. -/
def floatText (style : NumberStyle) (x : Float) : String :=
  if x.isNaN then "NaN"
  else if x.isInf then (if x < 0 then "-Inf" else "+Inf")
  else
    let sign := if isNegative x then "-" else ""
    if x == 0 then sign ++ "0"
    else sign ++ ((binaryOfBits x.toBits).shortest).text style

/-- A number of single precision in a style. -/
def float32Text (style : NumberStyle) (x : Float32) : String :=
  if x.isNaN then "NaN"
  else if x.isInf then (if x < 0 then "-Inf" else "+Inf")
  else
    let sign := if x.toBits >>> 31 == 1 then "-" else ""
    if x == 0 then sign ++ "0"
    else sign ++ ((binaryOfBits32 x.toBits).shortest).text style

/-- The number of double precision nearest to a decimal; infinite when it is too large. -/
def Decimal.toFloat (d : Decimal) : Float := .ofModel (Float.Model.ofScientific d.digits d.exponent)

/-- The number of double precision nearest to a whole number. -/
def wholeFloat (n : Int) : Float :=
  let x := Decimal.toFloat ⟨n.natAbs, 0⟩
  if n < 0 then -x else x

/-- Infinity. -/
def infinity : Float := 1 / 0

/-- The undefined number. -/
def nan : Float := 0 / 0

/-- The integer part of a finite number, exactly. -/
def truncToInt (x : Float) : Int :=
  if x.isNaN || x.isInf || x == 0 then 0
  else
    let b := binaryOfBits x.toBits
    let n := if b.exponent ≥ 0 then b.mantissa * power 2 b.exponent.toNat
      else b.mantissa / power 2 b.exponent.natAbs
    if isNegative x then -(n : Int) else (n : Int)

/-- A number rounded to `places` decimals, a half going to the even neighbour of the exact binary
value's grid. -/
def fixedText (places : Nat) (x : Float) : String :=
  if x.isNaN then "NaN"
  else if x.isInf then (if x < 0 then "-Inf" else "+Inf")
  else
    let sign := if isNegative x then "-" else ""
    let b := binaryOfBits x.toBits
    let (n, d) := scaleFactor b.exponent (-(places : Int))
    let num := b.mantissa * n
    let q := num / d
    let r := num % d
    let q := if 2 * r > d || (2 * r == d && q % 2 == 1) then q + 1 else q
    let ds := Nat.toDigits 10 q
    let ds := zeros (places + 1 - ds.length) ++ ds
    let whole := ds.length - places
    let body := if places == 0 then ds else ds.take whole ++ '.' :: ds.drop whole
    sign ++ String.ofList body

end Trellis.Text

/-!
Reading numbers from text.

A number is decimal, or hexadecimal with a binary exponent; underscores may stand between digits.
The words for infinity and for the undefined number are read in either case.
-/

namespace Trellis.Text

/-- The value of a digit in base ten or sixteen. -/
def digitIn? (hex : Bool) (c : Char) : Option Nat :=
  if '0' ≤ c && c ≤ '9' then some (c.toNat - 48)
  else if hex && 'a' ≤ c.toLower && c.toLower ≤ 'f' then some (c.toLower.toNat - 87)
  else none

/-- Whether every underscore stands between two digits.  `afterDigit` says what came before: a
digit, an underscore (`none`) or something else. -/
def underscoresFit (hex : Bool) : Option Bool → List Char → Bool
  | before, [] => before.isSome
  | before, c :: cs =>
    if (digitIn? hex c).isSome then underscoresFit hex (some true) cs
    else if c == '_' then before == some true && underscoresFit hex none cs
    else before.isSome && underscoresFit hex (some false) cs

/-- Digits read so far: their value, how many stand after the point, whether any was read. -/
structure Mantissa where
  value : Nat := 0
  fraction : Nat := 0
  dotted : Bool := false
  any : Bool := false

/-- The digits at the front, with at most one point, and the rest. -/
def readMantissa (hex : Bool) (m : Mantissa) : List Char → Mantissa × List Char
  | [] => (m, [])
  | c :: cs =>
    match digitIn? hex c with
    | some d =>
      let value := (if hex then 16 else 10) * m.value + d
      readMantissa hex { m with
        value, any := true, fraction := if m.dotted then m.fraction + 1 else m.fraction } cs
    | none =>
      if c == '_' then readMantissa hex m cs
      else if c == '.' && !m.dotted then readMantissa hex { m with dotted := true } cs
      else (m, c :: cs)

/-- The digits of an exponent, of which a value beyond ten thousand is not told apart. -/
def readExponent (n : Nat) : List Char → Nat × List Char
  | [] => (n, [])
  | c :: cs =>
    match digitIn? false c with
    | some d => readExponent (if n < 10000 then 10 * n + d else n) cs
    | none => if c == '_' then readExponent n cs else (n, c :: cs)

/-- The exponent after its mark: a sign, and at least one digit. -/
def signedExponent? (cs : List Char) : Option (Int × List Char) :=
  let (negative, body) := match cs with
    | '+' :: rest => (false, rest)
    | '-' :: rest => (true, rest)
    | _ => (false, cs)
  match body with
  | c :: _ =>
    if (digitIn? false c).isSome then
      let (n, rest) := readExponent 0 body
      some (if negative then -(n : Int) else n, rest)
    else none
  | [] => none

/-- `m · 2^e` as a number of double precision. -/
def binaryFloat (m : Nat) (e : Int) : Float :=
  if m == 0 then 0
  else if e + m.log2 > 1100 then infinity
  else if e + m.log2 < -1200 then 0
  else if e ≥ 0 then (Decimal.mk (m * power 2 e.toNat) 0).toFloat
  else (Decimal.mk (m * power 5 e.natAbs) e).toFloat

/-- An unsigned number in digits, all of the text being used. -/
def unsignedNumber? (cs : List Char) : Option Float :=
  let (hex, body) := match cs with
    | '0' :: x :: c :: rest => if x == 'x' || x == 'X' then (true, c :: rest) else (false, cs)
    | _ => (false, cs)
  let (m, rest) := readMantissa hex {} body
  if !m.any then none
  else
    let exponent? : Option (Option Int × List Char) := match rest with
      | c :: more =>
        if c.toLower == (if hex then 'p' else 'e') then
          (signedExponent? more).map fun (e, r) => (some e, r)
        else some (none, rest)
      | [] => some (none, [])
    match exponent? with
    | some (e, []) =>
      if cs.contains '_' && !underscoresFit hex (some hex) body then none
      else if hex then e.map fun e => binaryFloat m.value (e - 4 * m.fraction)
      else some (Decimal.mk m.value (e.getD 0 - m.fraction)).toFloat
    | _ => none

/-- The words for infinity. -/
def isInfinityWord (cs : List Char) : Bool :=
  let word := String.ofList (cs.map Char.toLower)
  word == "inf" || word == "infinity"

/-- The number that a text denotes; none when it denotes none or one out of range. -/
def number? (s : String) : Option Float :=
  let finite := fun (x : Option Float) => x.filter (!·.isInf)
  match s.toList with
  | '+' :: cs => if isInfinityWord cs then some infinity else finite (unsignedNumber? cs)
  | '-' :: cs =>
    if isInfinityWord cs then some (-infinity)
    else (finite (unsignedNumber? cs)).map fun x => -x
  | cs =>
    if isInfinityWord cs then some infinity
    else if String.ofList (cs.map Char.toLower) == "nan" then some nan
    else finite (unsignedNumber? cs)

/-- The whole number that a text denotes: decimal digits with an optional sign, within 64 bits. -/
def whole? (s : String) : Option Int :=
  let (negative, ds) := match s.toList with
    | '+' :: cs => (false, cs)
    | '-' :: cs => (true, cs)
    | cs => (false, cs)
  if ds.isEmpty || !ds.all fun c => '0' ≤ c && c ≤ '9' then none
  else
    let n : Int := (ds.foldl (fun n c => 10 * n + (c.toNat - 48)) 0 : Nat)
    let n := if negative then -n else n
    if -(power 2 63) ≤ n && n < power 2 63 then some n else none

end Trellis.Text
