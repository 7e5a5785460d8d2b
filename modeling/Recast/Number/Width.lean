/-!
# Widths

The ranges of the fixed widths that integers are read into.
-/

namespace Recast

/-- The number fits thirty-two bits. -/
def fitsNat32 (value : Nat) : Bool := value < 0x100000000

/-- The number fits sixty-four bits. -/
def fitsNat64 (value : Nat) : Bool := value < 0x10000000000000000

/-- The integer fits sixty-four bits with a sign. -/
def fitsInt64 (value : Int) : Bool := -0x8000000000000000 ≤ value && value < 0x8000000000000000

theorem fitsNat32_iff {value : Nat} : fitsNat32 value = true ↔ value < 4294967296 := by
  simp [fitsNat32]

theorem fitsNat64_iff {value : Nat} : fitsNat64 value = true ↔ value < 18446744073709551616 := by
  simp [fitsNat64]

theorem fitsInt64_iff {value : Int} :
    fitsInt64 value = true ↔ -9223372036854775808 ≤ value ∧ value < 9223372036854775808 := by
  simp [fitsInt64]

end Recast
