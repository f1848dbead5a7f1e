/-!
# Powers, sums and products

The powers, sums and products of the program are the core library's. A library of algebra has other
instances for them, which take precedence where it is imported ; these here come first.
-/

namespace AddonAtlas.Number

@[default_instance 20000]
instance (priority := 20000) instPow {α : Type} [NatPow α] : Pow α Nat := instPowNat

instance (priority := 20000) instZero : Zero Nat := ⟨0⟩

instance (priority := 20000) instOne : One Nat := ⟨1⟩

end AddonAtlas.Number
