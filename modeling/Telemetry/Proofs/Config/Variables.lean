import Mathlib.Data.List.DropRight
import Telemetry.Config.Builder

set_option autoImplicit false

/-! # What a variable says

A variable counts if its value, but for white space around it, is a whole number of 64 bits:
decimal digits, at least one, with or without a plus sign in front. The number follows from the
form of the value alone, and every value of another form says nothing. -/

namespace Telemetry

/-! ## Texts without white space at their ends -/

namespace Text

end Text

/-! ## Whole numbers -/

namespace Decimal

end Decimal

/-! ## Values of variables -/

end Telemetry
