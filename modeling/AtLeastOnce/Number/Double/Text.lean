import AtLeastOnce.Number.Decimal
import AtLeastOnce.Number.Double

/-!
# Doubles as decimal text

Writing chooses the fewest digits that read back to the same double and lays
them out as a `Layout` says.  Reading accepts a sign, digits with at most one
point, an exponent, and the words for the infinities and for no number.
-/

namespace AtLeastOnce.Double

/-- What a written form decides beyond the digits themselves. -/
structure Layout where
  /-- Exponents of the leading digit from here to `positionalTo` are written
  positionally; `none` means that all are. -/
  positionalFrom : Option Int
  positionalTo : Int
  /-- A whole number keeps a point and a zero. -/
  pointZero : Bool
  /-- Of two equally near candidates the larger is taken, not the even one. -/
  tieUp : Bool

/-- Positional, without a point after a whole number. -/
def plainLayout : Layout := ⟨none, 0, false, true⟩

/-- Positional, with a point in every number. -/
def pointedLayout : Layout := ⟨none, 0, true, true⟩

/-- Positional from `10⁻⁵` up to `10¹⁵`, otherwise with a signed exponent of at
least two digits. -/
def scientificLayout : Layout := ⟨some (-5), 15, true, false⟩

/-- `coefficient · 10 ^ exponent`. -/
structure DecimalForm where
  coefficient : Nat
  exponent : Int
  deriving DecidableEq, Repr

/-- Compares `coefficient · 10 ^ exponent` with `quarters / 4` units. -/
def DecimalForm.compareQuarters (form : DecimalForm) (quarters : Nat) : Ordering :=
  if 0 ≤ form.exponent then
    compare (4 * form.coefficient * Nat.pow 10 form.exponent.toNat * unitsPerOne) quarters
  else
    compare (4 * form.coefficient * unitsPerOne) (quarters * Nat.pow 10 (-form.exponent).toNat)

/-- Whether the decimal lies among the reals that round to `units`: halfway to
either neighbour, the ends included when the significand is even. -/
def DecimalForm.readsBackTo (form : DecimalForm) (units : Nat) : Bool :=
  let step := Nat.pow 2 (excessBits units)
  let lowerGap := if units = Nat.pow 2 units.log2 && 1 < step then step else 2 * step
  let endsIncluded := units / step % 2 = 0
  let below := form.compareQuarters (4 * units - lowerGap)
  let above := form.compareQuarters (4 * units + 2 * step)
  (below == .gt || (endsIncluded && below == .eq)) &&
    (above == .lt || (endsIncluded && above == .eq))

/-- The exponent of the leading decimal digit of a nonzero number of units. -/
def leadingExponent (units : Nat) : Int :=
  let estimate : Int := ((units.log2 : Int) - 1075) * 30103 / 100000 - 1
  let reaches (exponent : Int) : Bool :=
    (DecimalForm.mk 1 exponent).compareQuarters (4 * units) != .gt
  ([3, 2, 1, 0].findSome? fun (offset : Int) =>
    if reaches (estimate + offset) then some (estimate + offset) else none).getD estimate

/-- The two neighbours of `units` on the grid of multiples of `10 ^ exponent`
and whether the number is nearer to the lower one. -/
def gridNeighbours (units : Nat) (exponent : Int) : Nat × Nat × Ordering :=
  let (numerator, denominator) :=
    if 0 ≤ exponent then (units, unitsPerOne * Nat.pow 10 exponent.toNat)
    else (units * Nat.pow 10 (-exponent).toNat, unitsPerOne)
  let lower := numerator / denominator
  (lower, lower + 1, compare (2 * (numerator % denominator)) denominator)

/-- The candidate with `count` digits that reads back to `units`, if one does. -/
def candidate? (tieUp : Bool) (units : Nat) (leading : Int) (count : Nat) :
    Option DecimalForm :=
  let exponent := leading + 1 - count
  let (lower, upper, nearness) := gridNeighbours units exponent
  let lowerForm : DecimalForm := ⟨lower, exponent⟩
  let upperForm : DecimalForm := ⟨upper, exponent⟩
  match lowerForm.readsBackTo units, upperForm.readsBackTo units with
  | false, false => none
  | true, false => some lowerForm
  | false, true => some upperForm
  | true, true =>
      match nearness with
      | .lt => some lowerForm
      | .gt => some upperForm
      | .eq => some (if tieUp || lower % 2 = 1 then upperForm else lowerForm)

/-- The digits of a natural number in base ten. -/
def digitsOf (value : Nat) : List Char := Nat.toDigits 10 value

/-- The coefficient without its trailing zeros, and the exponent of its leading
digit. -/
def DecimalForm.significant (form : DecimalForm) : List Char × Int :=
  let digits := digitsOf form.coefficient
  let leading := form.exponent + digits.length - 1
  ((digits.reverse.dropWhile (· = '0')).reverse, leading)

/-- The fewest significant digits that read back, with the exponent of the
first of them. -/
def shortestDigits (tieUp : Bool) (units : Nat) : List Char × Int :=
  let leading := leadingExponent units
  let form :=
    ((List.range 17).findSome? fun fewer => candidate? tieUp units leading (fewer + 1)).getD
      ⟨units * Nat.pow 5 1074, -1074⟩
  form.significant

/-- A run of `count` zeros. -/
def zeros (count : Nat) : List Char := List.replicate count '0'

/-- Significant digits with the point where the leading exponent puts it. -/
def positional (pointZero : Bool) (digits : List Char) (leading : Int) : List Char :=
  if leading < 0 then
    '0' :: '.' :: zeros (-leading - 1).toNat ++ digits
  else
    let wholeLength := leading.toNat + 1
    if digits.length ≤ wholeLength then
      digits ++ zeros (wholeLength - digits.length) ++ (if pointZero then ['.', '0'] else [])
    else
      digits.take wholeLength ++ '.' :: digits.drop wholeLength

/-- Significant digits with one before the point and a signed exponent. -/
def scientific (digits : List Char) (leading : Int) : List Char :=
  let mantissa :=
    match digits with
    | [] => []
    | [single] => [single]
    | first :: rest => first :: '.' :: rest
  let exponent := digitsOf leading.natAbs
  mantissa ++ 'e' :: (if leading < 0 then '-' else '+') ::
    zeros (2 - exponent.length) ++ exponent

/-- The written form of a double. -/
def chars (layout : Layout) : Double → List Char
  | .nan => "NaN".toList
  | .infinite negative => (if negative then "-inf" else "inf").toList
  | .finite negative units =>
      let magnitude :=
        if units = 0 then positional layout.pointZero ['0'] 0
        else
          let (digits, leading) := shortestDigits layout.tieUp units
          let isPositional :=
            match layout.positionalFrom with
            | none => true
            | some least => least ≤ leading && leading ≤ layout.positionalTo
          if isPositional then positional layout.pointZero digits leading
          else scientific digits leading
      if negative then '-' :: magnitude else magnitude

def text (layout : Layout) (value : Double) : String := String.ofList (value.chars layout)

/-- An exponent part: nothing, or a mark, an optional sign and digits. -/
def readExponent? : List Char → Option Int
  | [] => some 0
  | mark :: rest =>
      if mark = 'e' || mark = 'E' then
        match rest with
        | '-' :: digits => (Decimal.readNat? digits).map fun value => -(value : Int)
        | '+' :: digits => (Decimal.readNat? digits).map fun value => (value : Int)
        | digits => (Decimal.readNat? digits).map fun value => (value : Int)
      else none

/-- Digits with at most one point and at least one digit, then an exponent. -/
def readUnsigned? (negative : Bool) (text : List Char) : Option Double :=
  let whole := text.takeWhile Char.isDigit
  let afterWhole := text.dropWhile Char.isDigit
  let (fraction, afterFraction) :=
    match afterWhole with
    | '.' :: rest => (rest.takeWhile Char.isDigit, rest.dropWhile Char.isDigit)
    | rest => ([], rest)
  if whole = [] && fraction = [] then none
  else
    (readExponent? afterFraction).map fun exponent =>
      ofDecimal negative (Decimal.ofDigits (whole ++ fraction)) (exponent - fraction.length)

/-- Reads a double from text: a sign, then a decimal or a word in any case. -/
def read? (text : List Char) : Option Double :=
  let (negative, magnitude) :=
    match text with
    | '-' :: rest => (true, rest)
    | '+' :: rest => (false, rest)
    | rest => (false, rest)
  let word := String.ofList (magnitude.map Char.toLower)
  if word = "inf" || word = "infinity" then some (.infinite negative)
  else if word = "nan" then some .nan
  else readUnsigned? negative magnitude

end AtLeastOnce.Double
