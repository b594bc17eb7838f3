/-!
# Powers

Powers of numbers are those of core, whatever other powers are in scope where a definition with
`^` is read.
-/

namespace ObjectModel

@[default_instance 20000]
instance (priority := 20000) powOfNatPow {α : Type} [NatPow α] : Pow α Nat := instPowNat

end ObjectModel
