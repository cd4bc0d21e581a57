/-! # Arithmetic

Powers and sums of numbers are those of the core library, also where algebraic structures that
offer the same ones are known. -/

namespace DeliveryRouting

attribute [scoped instance (high)] instPowNat Zero.ofOfNat0

end DeliveryRouting
