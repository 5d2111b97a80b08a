/-
All or nothing: a run reads every path before it writes. When one of them cannot be read, the run ends
with the first of those and has written nothing, whatever the other paths hold. Otherwise it writes one
report for each stylesheet, in the order of the paths, and a summary of the same stylesheets.
-/
import CssSurvey.Run
import Mathlib.Data.List.Basic

namespace CssSurvey

/-! ## HTML documents -/

namespace Run

variable (read : Text → Except ReadError Text)

/-! ## What stands at the paths -/

end Run

end CssSurvey
