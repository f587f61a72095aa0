/-! The double nearest to a decimal number. -/
namespace CompositionRoot.Decimal

/-- The double nearest to `digits * 10 ^ exponent`, infinite if no double is as large. Numbers far
out of range are told by their magnitude alone. -/
def nearest (digits : Nat) (exponent : Int) : Float :=
  let magnitude := ((Nat.toDigits 10 digits).length : Int) + exponent
  if digits = 0 ∨ magnitude < -330 then 0
  else if 310 < magnitude then 1 / 0
  else Float.ofScientific digits (exponent < 0) exponent.natAbs

end CompositionRoot.Decimal
