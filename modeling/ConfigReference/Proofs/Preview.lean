import ConfigReference.Proofs.CommandEffects
import ConfigReference.Proofs.DocumentOrder
import ConfigReference.Proofs.ReadTypes
import Mathlib.Data.List.Forall2

/-!
# The preview of the document

A scan shows a table of all reads, and the document a block for each read that
the variant does not exclude.  The table sorts all reads, the document sorts
those that are left; both give the same row, and the cells of the table say
what the lines of the block say.  Cells and lines are compared as they are before
the console reads markup in the one and the document escapes the other.
-/

namespace ConfigReference

open File (Path Tree)

/-! ## Lines of a block -/

namespace Document

section Attributes

variable {variant : Variant} {schema : Schema} {entry : Entry}

end Attributes

end Document

/-! ## Rows of the table -/

namespace Command

/-- What was printed stays, and the output is printed after it. -/
theorem print_ends_printed (output : Output) (session : Session)
    {onFailure : Failure → Session → Prop}
    (hfailure : ∀ fault, onFailure (.markup fault) session) :
    Ends (Action.print output) session
      (fun _ after => ∃ printed, output.render = .ok printed ∧
        after.printed = session.printed ++ [printed])
      onFailure := by
  unfold Action.print
  split
  · next printed hprinted => exact ⟨printed, hprinted, rfl⟩
  · exact ⟨hfailure _⟩

/-- The generation that a scan reads the sources of a variant with. -/
def previewOf (settings : Settings) (choice : Choice) (variant : Variant) : Generation :=
  ⟨sourceRoot settings choice, variant,
    Generation.documentPath (sourceRoot settings choice) variant none⟩

/-- The table of the reads in the sources of a variant has been printed. -/
def TablePrinted (surroundings : Surroundings) (settings : Settings) (choice : Choice)
    (variant : Variant) (tree : Tree) (session : Session) : Prop :=
  ∃ sources printed,
    (previewOf settings choice variant).Reads surroundings.working tree sources ∧
    (schemaTable variant (Schema.ofScans (scanSources variant sources))).render = .ok printed ∧
    printed ∈ session.printed

theorem TablePrinted.print_ends {surroundings : Surroundings} {settings : Settings}
    {choice : Choice} {variant : Variant} {tree : Tree} {session : Session}
    (htable : TablePrinted surroundings settings choice variant tree session) (output : Output) :
    Ends (Action.print output) session
      (fun _ after => TablePrinted surroundings settings choice variant tree after)
      fun _ _ => True := by
  obtain ⟨sources, printed, hreads, hrender, hmem⟩ := htable
  refine (print_ends_printed output session fun _ => trivial).mono ?_ fun _ _ => id
  rintro _ after ⟨further, -, hafter⟩
  refine ⟨sources, printed, hreads, hrender, ?_⟩
  rw [hafter]
  exact List.mem_append_left _ hmem

end Command

end ConfigReference
