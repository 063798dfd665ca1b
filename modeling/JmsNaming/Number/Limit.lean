/-
The limit of decimal conversion: whole numbers of more digits are neither read nor written.
-/
namespace JmsNaming.Number

/-- The greatest number of digits that is converted. -/
def maxDigits : Nat := 4300

/-- The whole number has few enough digits to be written. -/
def isWritable (i : Int) : Bool :=
  i.natAbs.log2 < 14000 || i.natAbs < Nat.pow 10 maxDigits

/-- A whole number has too many digits to be written. -/
inductive Unwritable where
  | digits
  deriving DecidableEq

def Unwritable.message : Unwritable → String
  | digits => "Exceeds the limit (4300 digits) for integer string conversion; use sys.set_int_max_str_digits() " ++
      "to increase the limit"

end JmsNaming.Number
