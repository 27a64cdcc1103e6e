-- SUMMARY: The terms of a query that are marked in the text of its results.
import NoteSearch.Text.Blank
import NoteSearch.Text.Lower

/-!
# Highlight terms

A query is a text of words. Most words are searched for and are worth marking in the results;
some are facets (`tag:work`), connectives (`and`) or too short. `Terms.ofQuery` keeps the words
worth marking, lower-cased and each once, in the order of their first occurrence.
-/

namespace NoteSearch.Highlight

/-- The lower-cased words to mark. -/
structure Terms where
  /-- The words, without repetition, in the order in which the query has them first. -/
  words : List String := []
  deriving DecidableEq, Inhabited

namespace Terms

/-! ## Which words are terms -/

/-- Quotes and parentheses group words and belong to none. -/
def isGrouping (c : Char) : Bool := c == '"' || c == '\'' || c == '(' || c == ')'

/-- Operators that turn the whole word into a facet. -/
def facetOperators : List (List Char) :=
  ["tag:", "-tag:", "created:", "updated:", "has:", "todo:"].map String.toList

/-- The operator that restricts a word to titles; the word itself is still text. -/
def titleOperator : List Char := "intitle:".toList

/-- Words that connect others. -/
def stopWords : List (List Char) := ["and", "or", "not", "near"].map String.toList

/-- What a proximity operator starts with, for instance `near/5`. -/
def proximityOperator : List Char := "near/".toList

/-- Whether a word is a proximity operator: its name, then one or more decimal digits. -/
def isProximity (word : List Char) : Bool :=
  match proximityOperator.isPrefixOf? word with
  | some digits => !digits.isEmpty && digits.all Char.isDigit
  | none => false

def isConnective (word : List Char) : Bool := stopWords.contains word || isProximity word

def isFacet (word : List Char) : Bool := facetOperators.any (·.isPrefixOf word)

def dropTitleOperator (word : List Char) : List Char :=
  (titleOperator.isPrefixOf? word).getD word

/-- The shortest word worth marking, in characters. -/
def minLength : Nat := 3

/-- The term that a word of the query stands for, if it is worth marking. -/
def ofWord? (word : List Char) : Option (List Char) :=
  let plain := Text.lower (word.filter fun c => !isGrouping c)
  let body := dropTitleOperator plain
  if isFacet plain || body.length < minLength || isConnective body then none else some body

/-! ## The terms of a query -/

def listOfQuery (query : List Char) : List (List Char) :=
  ((Text.words query).filterMap ofWord?).eraseDups

def ofQuery (query : String) : Terms := ⟨(listOfQuery query.toList).map String.ofList⟩

def isEmpty (terms : Terms) : Bool := terms.words.isEmpty

def toLists (terms : Terms) : List (List Char) := terms.words.map String.toList

end Terms

end NoteSearch.Highlight
