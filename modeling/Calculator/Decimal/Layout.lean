import Calculator.Decimal.Shortest

/-! The text of a double precision number: its shortest decimal, written positionally or with an
exponent. -/

namespace Calculator.Decimal

/-- The decisions of a written form: the exponents of the first digit between which it is
positional, and the least number of digits of a written exponent. -/
structure Layout where
  least : Int
  greatest : Int
  exponentDigits : Nat

/-- Numbers from `0.0001` up to, but not including, `10 ^ 16` are positional, and an exponent has at
least two digits. -/
def Layout.standard : Layout := ⟨-4, 15, 2⟩

def digitChars (n : Nat) : List Char := Nat.toDigits 10 n

/-- The digits of `n`, filled up with zeros in front. -/
def padded (width n : Nat) : List Char :=
  List.replicate (width - (digitChars n).length) '0' ++ digitChars n

/-- Digits with a point `point` places after their start, zeros where there are no digits, and a
digit on either side of the point. -/
def positional (digits : List Char) (point : Int) : List Char :=
  if point ≤ 0 then '0' :: '.' :: List.replicate (-point).toNat '0' ++ digits
  else
    let n := point.toNat
    let whole := digits.take n ++ List.replicate (n - digits.length) '0'
    whole ++ '.' :: (if digits.length ≤ n then ['0'] else digits.drop n)

/-- Digits with a point after the first one, if there are more, and an exponent. -/
def exponential (layout : Layout) (digits : List Char) (exponent : Int) : List Char :=
  digits.take 1 ++ (if digits.length ≤ 1 then [] else '.' :: digits.drop 1)
    ++ 'e' :: (if exponent < 0 then '-' else '+')
    :: padded layout.exponentDigits exponent.natAbs

def Scaled.layOut (layout : Layout) (d : Scaled) : List Char :=
  let digits := digitChars d.digits
  let exponent := d.exponent + digits.length - 1
  if layout.least ≤ exponent ∧ exponent ≤ layout.greatest then positional digits (exponent + 1)
  else exponential layout digits exponent

def floatText (x : Float) : String :=
  let signed (negative : Bool) (text : List Char) :=
    String.ofList (if negative then '-' :: text else text)
  match Binary64.shape x with
  | .nan => "nan"
  | .infinite negative => signed negative ['i', 'n', 'f']
  | .finite negative m q =>
      signed negative
        (if m = 0 then ['0', '.', '0'] else (shortest m q).layOut Layout.standard)

end Calculator.Decimal
