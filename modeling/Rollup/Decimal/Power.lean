/-!
# Powers of two and ten

Every power here has a natural exponent and is the core library's. An algebraic hierarchy loaded
beside these modules brings powers of its own, which Lean then prefers; the instance below is preferred
to those, so that `2 ^ 64` is one term wherever it is written.
-/

namespace Rollup

/-- **Powers with a natural exponent**, those of the core library. -/
@[default_instance 20000]
instance (priority := high) naturalPower {α : Type} [NatPow α] : Pow α Nat := instPowNat

end Rollup
