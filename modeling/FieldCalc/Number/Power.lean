/-!
# Powers

Powers with natural exponents are those of the core library in every module, also where powers in
monoids are known.
-/

namespace FieldCalc

@[default_instance high]
instance (priority := high) corePow {α : Type} [NatPow α] : Pow α Nat := instPowNat

end FieldCalc
