import Calculator.Arithmetic.Brackets
import Calculator.Arithmetic.Folds
import Calculator.Arithmetic.Numerals
import Calculator.Arithmetic.Signs
import Calculator.Pipeline

/-! The pipeline of plain arithmetic: numerals, groups, signs, products and quotients, sums and
differences. -/

namespace Calculator

/-- The passes of plain arithmetic, in the order in which they run. -/
def Pass.arithmetic : List Pass :=
  [.mergeDigits, .convertNumerals, .brackets, .unaryMinus, .foldMultiplicative, .foldAdditive]

def Pipeline.standard : Pipeline := Pass.arithmetic.foldl insertEnd empty

theorem Pipeline.passes_standard : standard.passes = Pass.arithmetic := rfl

end Calculator
