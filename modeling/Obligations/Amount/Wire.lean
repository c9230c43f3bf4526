import Obligations.Amount.Basic

/-!
# Obligations — amounts as doubles

Published responses carry amounts as doubles (`Amount.toFloat`). A whole amount is
the nearest double. Otherwise the whole and the fractional part are converted apart,
added, and the sum is rounded to the amount's own number of places, which removes
what the addition brought in.
-/

namespace Obligations.Amount

def toFloat (a : Amount) : Float :=
  let units := a.magnitude
  let magnitude :=
    if a.scale = 0 then Float.ofNat units
    else
      let unit := tenTo a.scale
      let whole := Float.ofNat (units / unit)
      let fraction := Float.ofNat (units % unit) / Float.ofNat unit
      if fraction == 0 then whole
      else ((whole + fraction) * Float.ofNat unit).round / Float.ofNat unit
  if a.negative then -magnitude else magnitude

end Obligations.Amount
