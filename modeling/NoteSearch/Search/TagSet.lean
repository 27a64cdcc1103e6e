-- SUMMARY: Sets of tags as strictly increasing lists.
import NoteSearch.Text.Blank
import NoteSearch.Text.Ordered

/-!
# Sets of tags

A set of tags is a list in strictly increasing order of code points, so equal sets are equal
lists. `TagSet.ofList` trims the tags it is given and leaves blank ones out.
-/

namespace NoteSearch

structure TagSet where
  toList : List String
  sorted : toList.Pairwise (· < ·)
  deriving DecidableEq

namespace TagSet

def empty : TagSet := ⟨[], .nil⟩

instance : Inhabited TagSet := ⟨empty⟩

def isEmpty (s : TagSet) : Bool := s.toList.isEmpty

/-- The set of the tags in a list, trimmed, without blank ones. -/
def ofList (tags : List String) : TagSet :=
  ⟨Text.ordered (tags.filterMap Text.trimmedNonBlank?), Text.pairwise_ordered _⟩

/-- The tags of the set are those of the list, trimmed, without blank ones. -/
theorem mem_ofList {x : String} {tags : List String} :
    x ∈ (ofList tags).toList ↔ ∃ tag ∈ tags, Text.trimmedNonBlank? tag = some x := by
  simp [ofList, Text.mem_ordered]

end TagSet

end NoteSearch
