import RecordQuery.Numeric.Shortest

/-!
# RecordQuery.Numeric.Layout — how a double is written out

The shortest digits of a double are laid out in one of two ways: as a JSON number, which turns to an
exponent for very large and very small values, or as plain digits, which never do.
-/

namespace RecordQuery

/-- The decisions of a decimal layout. -/
structure Layout where
  /-- Exponents of the leading digit that are written without an exponent part; `none` means all. -/
  positional : Option (Int × Int)
  /-- Whether an integral value keeps one zero after the point. -/
  keepsPoint : Bool
  /-- The neighbour taken by a value halfway between two shortest decimals. -/
  tie : Tie

namespace Layout

/-- Numbers in JSON text: positional from `0.00001` up to sixteen integral digits, with a point. -/
def exchange : Layout :=
  ⟨some (-5, 15), true, .toEven⟩

/-- Numbers in descriptions: positional always, and integral values have no point. -/
def plain : Layout :=
  ⟨none, false, .upward⟩

/-- Whether a leading digit of weight `10 ^ e` is written without an exponent part. -/
def isPositional (layout : Layout) (e : Int) : Bool :=
  match layout.positional with
  | some (least, greatest) => least ≤ e && e ≤ greatest
  | none => true

/-- Digits with the point after the digit of weight one; the first digit has weight `10 ^ e`. -/
def positionalText (layout : Layout) (ds : List Char) (e : Int) : List Char :=
  if e < 0 then
    '0' :: '.' :: List.replicate (-e - 1).toNat '0' ++ ds
  else
    let whole := e.toNat + 1
    if ds.length ≤ whole then
      ds ++ List.replicate (whole - ds.length) '0' ++ (if layout.keepsPoint then ['.', '0'] else [])
    else
      ds.take whole ++ '.' :: ds.drop whole

/-- Digits with the point after the first one, and an exponent that always shows its sign. -/
def scientificText (ds : List Char) (e : Int) : List Char :=
  ds.take 1 ++ (if ds.length ≤ 1 then [] else '.' :: ds.drop 1)
    ++ 'e' :: (if e < 0 then '-' else '+') :: Numeral.digits e.natAbs

/-- The text of a decimal without sign. -/
def decimalText (layout : Layout) (d : Decimal) : List Char :=
  let ds := Numeral.digits d.digits
  let e := d.exponent + (ds.length : Int) - 1
  if layout.isPositional e then layout.positionalText ds e else scientificText ds e

/-- The text of a finite double; a negative zero keeps its sign. -/
def finiteText (layout : Layout) (x : FiniteDouble) : List Char :=
  (if x.negative then ['-'] else []) ++ layout.decimalText (x.shortest layout.tie)

/-- The text of any double. -/
def text (layout : Layout) : Double → List Char
  | .finite x => layout.finiteText x
  | .infinite negative => (if negative then ['-'] else []) ++ ['i', 'n', 'f']
  | .nan => ['N', 'a', 'N']

end Layout

end RecordQuery
