/-!
# Shared objects

Some answers are objects that are made once and then handed out again and again. A handle carries the number
of the object beside its value, so that being the same object is more than being equal.
-/

namespace Recast

/-- A value with the number of the object that holds it: two handles with one number are one object. -/
structure Shared (α : Type) where
  serial : Nat
  value : α
deriving DecidableEq, Repr

end Recast
