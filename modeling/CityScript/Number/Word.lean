/-
The bounds of whole numbers that fit a word of 32 or 64 bits.
-/

set_option autoImplicit false

namespace CityScript

/-- The greatest natural number of 32 bits. -/
def maxWord32 : Nat := 4294967295

/-- The greatest natural number of 64 bits. -/
def maxWord64 : Nat := 18446744073709551615

/-- The least signed integer of 32 bits. -/
def minInt32 : Int := -2147483648

/-- The greatest signed integer of 32 bits. -/
def maxInt32 : Int := 2147483647

/-- The least signed integer of 64 bits. -/
def minInt64 : Int := -9223372036854775808

/-- The greatest signed integer of 64 bits. -/
def maxInt64 : Int := 9223372036854775807

end CityScript
