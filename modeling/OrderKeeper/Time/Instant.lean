/-!
Contract: points in time.

Owns: an instant as seconds since the epoch and nanoseconds, its order, and its count
of milliseconds.  Nanoseconds of a billion and more stand for a leap second.
-/

set_option autoImplicit false

namespace OrderKeeper

structure Instant where
  seconds : Int
  nanoseconds : Nat
deriving DecidableEq, Repr, Inhabited

namespace Instant

def ofMilliseconds (ms : Int) : Instant :=
  ⟨Int.fdiv ms 1000, (Int.fmod ms 1000).toNat * 1000000⟩

def milliseconds (at_ : Instant) : Int :=
  at_.seconds * 1000 + (at_.nanoseconds / 1000000 : Nat)

instance : LT Instant :=
  ⟨fun a b => a.seconds < b.seconds ∨ (a.seconds = b.seconds ∧ a.nanoseconds < b.nanoseconds)⟩

instance : LE Instant :=
  ⟨fun a b => a.seconds < b.seconds ∨ (a.seconds = b.seconds ∧ a.nanoseconds ≤ b.nanoseconds)⟩

instance (a b : Instant) : Decidable (a < b) :=
  inferInstanceAs (Decidable (a.seconds < b.seconds
    ∨ (a.seconds = b.seconds ∧ a.nanoseconds < b.nanoseconds)))

instance (a b : Instant) : Decidable (a ≤ b) :=
  inferInstanceAs (Decidable (a.seconds < b.seconds
    ∨ (a.seconds = b.seconds ∧ a.nanoseconds ≤ b.nanoseconds)))

end Instant

end OrderKeeper
