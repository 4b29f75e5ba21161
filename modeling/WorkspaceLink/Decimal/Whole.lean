/-!
# Whole numbers of many digits

A whole number is read and written in decimal only up to a number of digits, so that neither takes
too long.
-/

namespace WorkspaceLink.Decimal

/-- The most digits of a whole number that is read or written. -/
def maxWholeDigits : Nat := 4300

/-- The message about a whole number of too many digits, with a remark on it. -/
def tooManyDigits (remark : String) : String :=
  "Exceeds the limit (" ++ toString maxWholeDigits ++ " digits) for integer string conversion" ++
    remark ++ "; use sys.set_int_max_str_digits() to increase the limit"

end WorkspaceLink.Decimal
