/-!
Sums of counts.
-/

set_option autoImplicit false

namespace DexRefs

def total : List Nat → Nat
  | [] => 0
  | n :: ns => n + total ns

end DexRefs
