import Uncomment.Exclusion
import Mathlib.Data.List.Basic

namespace Uncomment

namespace Exclusion

/-! Which entries the patterns of a request keep out, told from the patterns one by one. -/

end Exclusion

end Uncomment
