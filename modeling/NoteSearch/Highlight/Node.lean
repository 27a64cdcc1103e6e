-- SUMMARY: Rendered rich text as a tree, and marking the terms of a query in it.
import NoteSearch.Highlight.Segments

/-!
# Marking rich text

A rendered note is a tree of elements with texts at its leaves. `Node.highlight` replaces a text
that stands directly below a paragraph, a heading, a list item or a stressed stretch by its
segments, the matches wrapped in `mark` elements. Everything else is kept.
-/

namespace NoteSearch.Highlight

/-! ## The tree -/

inductive Element where
  | document
  | paragraph
  | heading (level : UInt8)
  | list (ordered : Bool)
  | listItem
  | strong
  | emphasis
  | blockQuote
  | codeBlock
  | inlineCode
  | link (target : String)
  | mark
  deriving DecidableEq

/-- Whether the texts directly below an element are searched for terms. -/
def Element.isSearched : Element → Bool
  | paragraph | heading _ | listItem | strong | emphasis => true
  | _ => false

/-- Rendered rich text. -/
inductive Node where
  | text (content : String)
  | element (kind : Element) (children : List Node)

namespace Node

mutual
/-- Whether two trees are equal. -/
def beq : Node → Node → Bool
  | text a, text b => a == b
  | element k as, element l bs => k == l && beqList as bs
  | _, _ => false

/-- Whether two lists of trees are equal. -/
def beqList : List Node → List Node → Bool
  | [], [] => true
  | a :: as, b :: bs => beq a b && beqList as bs
  | _, _ => false
end

instance : BEq Node := ⟨beq⟩

mutual
def plainText : Node → String
  | text content => content
  | element _ children => plainTextList children

def plainTextList : List Node → String
  | [] => ""
  | node :: rest => plainText node ++ plainTextList rest
end

/-! ## Marking -/

def ofSegment (s : Segment) : Node :=
  if s.marked then element .mark [text s.text] else text s.text

mutual
def mark (terms : Terms) : Node → Node
  | text content => text content
  | element kind children => element kind (markList terms kind.isSearched children)

/-- Marks the matches in the children of an element, whose own texts are searched if `searched`
says so. -/
def markList (terms : Terms) (searched : Bool) : List Node → List Node
  | [] => []
  | text content :: rest =>
    (if searched then (segments terms content).map ofSegment else [text content]) ++
      markList terms searched rest
  | element kind children :: rest =>
    mark terms (element kind children) :: markList terms searched rest
end

/-- The tree with every match marked. -/
def highlight (terms : Terms) (node : Node) : Node :=
  if terms.isEmpty then node else mark terms node

end Node

end NoteSearch.Highlight
