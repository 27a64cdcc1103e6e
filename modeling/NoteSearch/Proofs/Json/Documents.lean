-- SUMMARY: A document that has been written is read back.
import NoteSearch.Proofs.Json.Tokens

/-!
# Documents are read back

A document is written as the sequence of its tokens. The machine that reads a document takes the
tokens of a part of it as one step: where it waits for a value, they leave it with that value
complete and the open containers as they were (`Tree.run_tokens`).
-/

namespace NoteSearch.Json.Tree

open Token (NoNumeral tokens?)

/-! ## The tokens of a document -/

mutual
/-- The tokens of a document. -/
def tokens : Tree → List Token
  | null => [.null]
  | bool b => [.bool b]
  | number n => [.number n]
  | string s => [.string s]
  | array items => .openArray :: (itemTokens items ++ [.closeArray])
  | object members => .openObject :: (memberTokens members ++ [.closeObject])

/-- The tokens of items with commas between them. -/
def itemTokens : List Tree → List Token
  | [] => []
  | [item] => tokens item
  | item :: next :: rest => tokens item ++ .comma :: itemTokens (next :: rest)

/-- The tokens of members with commas between them. -/
def memberTokens : List (Option String × Tree) → List Token
  | [] => []
  | [(name, value)] => .string name :: .colon :: tokens value
  | (name, value) :: next :: rest =>
    .string name :: .colon :: (tokens value ++ .comma :: memberTokens (next :: rest))
end

/-- Whether a document has a text: its numbers are literals, and its strings and names spell
something. -/
def IsWritten (t : Tree) : Prop := ∀ k ∈ t.tokens, k.IsWritten

theorem forall_itemTokens {p : Token → Prop} (hcomma : p .comma) : ∀ (items : List Tree),
    (∀ k ∈ itemTokens items, p k) ↔ ∀ item ∈ items, ∀ k ∈ item.tokens, p k
  | [] => by simp [itemTokens]
  | [item] => by simp [itemTokens]
  | item :: next :: items => by
    have hitems := forall_itemTokens hcomma (next :: items)
    rw [List.forall_mem_cons, ← hitems, itemTokens]
    simp [or_imp, forall_and, hcomma]

theorem forall_memberTokens {p : Token → Prop} (hcomma : p .comma) (hcolon : p .colon) :
    ∀ (members : List (Option String × Tree)), (∀ k ∈ memberTokens members, p k) ↔
      ∀ m ∈ members, p (.string m.1) ∧ ∀ k ∈ m.2.tokens, p k
  | [] => by simp [memberTokens]
  | [(name, value)] => by simp [memberTokens, hcolon]
  | (name, value) :: next :: members => by
    have hmembers := forall_memberTokens hcomma hcolon (next :: members)
    rw [List.forall_mem_cons, ← hmembers, memberTokens]
    simp [or_imp, forall_and, hcomma, hcolon, and_assoc]

@[simp] theorem isWritten_null : null.IsWritten := by simp [IsWritten, tokens, Token.IsWritten]

@[simp] theorem isWritten_bool (b : Bool) : (bool b).IsWritten := by
  simp [IsWritten, tokens, Token.IsWritten]

@[simp] theorem isWritten_number {n : Number} : (number n).IsWritten ↔ n.IsLiteral := by
  simp [IsWritten, tokens, Token.IsWritten]

@[simp] theorem isWritten_string {s : Option String} : (string s).IsWritten ↔ s.isSome := by
  simp [IsWritten, tokens, Token.IsWritten]

@[simp] theorem isWritten_array {items : List Tree} :
    (array items).IsWritten ↔ ∀ item ∈ items, item.IsWritten := by
  simp only [IsWritten, ← forall_itemTokens (p := Token.IsWritten) trivial]
  simp [tokens, or_imp, forall_and, Token.IsWritten]

@[simp] theorem isWritten_object {members : List (Option String × Tree)} :
    (object members).IsWritten ↔ ∀ m ∈ members, m.1.isSome ∧ m.2.IsWritten := by
  rw [IsWritten, tokens]
  simp [or_imp, forall_and, Token.IsWritten, forall_memberTokens, IsWritten]

/-! ## Cutting -/

theorem tokens?_writeName {name : Option String} (h : name.isSome) (t : List Char) :
    tokens? (writeString name ++ ':' :: t) = (tokens? t).map (.string name :: .colon :: ·) := by
  show tokens? ((Token.string name).write ++ ':' :: t) = _
  rw [Token.tokens?_write (k := .string name) h nofun, Token.tokens?_cons (c := ':') rfl rfl]
  simp [Function.comp_def]

mutual
/-- Where no number can go on, the text of a document is cut into its tokens. -/
theorem tokens?_write : ∀ (t : Tree) (rest : List Char), t.IsWritten → NoNumeral rest →
    tokens? (t.write ++ rest) = (tokens? rest).map (t.tokens ++ ·)
  | null, _, _, _ => Token.tokens?_write (k := .null) trivial nofun
  | bool true, _, _, _ => Token.tokens?_write (k := .bool true) trivial nofun
  | bool false, _, _, _ => Token.tokens?_write (k := .bool false) trivial nofun
  | number n, _, hw, h => Token.tokens?_write (k := .number n) (isWritten_number.1 hw) fun _ _ => h
  | string s, _, hw, _ => Token.tokens?_write (k := .string s) (isWritten_string.1 hw) nofun
  | array items, rest, hw, _ => by
    have hclose := Token.tokens?_cons (c := ']') rfl rfl (t := rest)
    have hitems := tokens?_writeItems items (']' :: rest) (isWritten_array.1 hw) (by simp)
    simp only [write, List.cons_append, List.append_assoc, List.nil_append]
    rw [Token.tokens?_cons (c := '[') rfl rfl, hitems, hclose]
    simp [tokens, Function.comp_def]
  | object members, rest, hw, _ => by
    have hclose := Token.tokens?_cons (c := '\x7d') rfl rfl (t := rest)
    have hmembers := tokens?_writeMembers members ('\x7d' :: rest) (isWritten_object.1 hw) (by simp)
    simp only [write, List.cons_append, List.append_assoc, List.nil_append]
    rw [Token.tokens?_cons (c := '\x7b') rfl rfl, hmembers, hclose]
    simp [tokens, Function.comp_def]

theorem tokens?_writeItems : ∀ (items : List Tree) (rest : List Char),
    (∀ item ∈ items, item.IsWritten) → NoNumeral rest →
    tokens? (writeItems items ++ rest) = (tokens? rest).map (itemTokens items ++ ·)
  | [], _, _, _ => by simp [writeItems, itemTokens]
  | [item], rest, hw, h => tokens?_write item rest (hw item List.mem_cons_self) h
  | item :: next :: items, rest, hw, h => by
    have hitem := tokens?_write item (',' :: (writeItems (next :: items) ++ rest))
      (hw item List.mem_cons_self) (by simp)
    have hitems := tokens?_writeItems (next :: items) rest
      (fun x hx => hw x (List.mem_cons_of_mem _ hx)) h
    simp only [writeItems, List.cons_append, List.append_assoc]
    rw [hitem, Token.tokens?_cons (c := ',') rfl rfl, hitems]
    simp [itemTokens, Function.comp_def]

theorem tokens?_writeMembers : ∀ (members : List (Option String × Tree)) (rest : List Char),
    (∀ m ∈ members, m.1.isSome ∧ m.2.IsWritten) → NoNumeral rest →
    tokens? (writeMembers members ++ rest) = (tokens? rest).map (memberTokens members ++ ·)
  | [], _, _, _ => by simp [writeMembers, memberTokens]
  | [(name, value)], rest, hw, h => by
    obtain ⟨hname, hvalue⟩ := hw _ List.mem_cons_self
    simp only [writeMembers, List.cons_append, List.append_assoc]
    rw [tokens?_writeName hname, tokens?_write value rest hvalue h]
    simp [memberTokens, Function.comp_def]
  | (name, value) :: next :: members, rest, hw, h => by
    obtain ⟨hname, hvalue⟩ := hw _ List.mem_cons_self
    have hvalue := tokens?_write value (',' :: (writeMembers (next :: members) ++ rest)) hvalue
      (by simp)
    have hmembers := tokens?_writeMembers (next :: members) rest
      (fun x hx => hw x (List.mem_cons_of_mem _ hx)) h
    simp only [writeMembers, List.cons_append, List.append_assoc]
    rw [tokens?_writeName hname, hvalue, Token.tokens?_cons (c := ',') rfl rfl, hmembers]
    simp [memberTokens, Function.comp_def]
end

/-! ## Reading -/

/-- The first item is read as any later one, since no item starts with the end of an array. -/
theorem run_firstItem (stack : List Frame) {items : List Tree} (h : items ≠ []) (ks : List Token) :
    State.run (.firstItem stack) (itemTokens items ++ ks) =
      State.run (.value (.array [] :: stack)) (itemTokens items ++ ks) := by
  match items with
  | [item] => cases item <;> rfl
  | item :: next :: items => cases item <;> rfl

/-- The first name is read as any later one, since no member starts with the end of an object. -/
theorem run_firstName (stack : List Frame) {members : List (Option String × Tree)}
    (h : members ≠ []) (ks : List Token) :
    State.run (.firstName stack) (memberTokens members ++ ks) =
      State.run (.nextName stack []) (memberTokens members ++ ks) := by
  match members with
  | [_] => rfl
  | _ :: _ :: _ => rfl

mutual
/-- The tokens of a document complete a value and leave the open containers as they are. -/
theorem run_tokens : ∀ (t : Tree) (stack : List Frame) (ks : List Token),
    State.run (.value stack) (t.tokens ++ ks) = State.run (.done stack t) ks
  | null, _, _ => rfl
  | bool _, _, _ => rfl
  | number _, _, _ => rfl
  | string _, _, _ => rfl
  | array [], _, _ => rfl
  | array (item :: items), stack, ks => by
    have hitems := run_itemTokens (item :: items) stack [] ks (List.cons_ne_nil _ _)
    simp only [tokens, List.cons_append, List.append_assoc, List.nil_append]
    show State.run (.firstItem stack) _ = _
    rw [run_firstItem stack (List.cons_ne_nil _ _), hitems]
    rfl
  | object [], _, _ => rfl
  | object (m :: members), stack, ks => by
    have hmembers := run_memberTokens (m :: members) stack [] ks (List.cons_ne_nil _ _)
    simp only [tokens, List.cons_append, List.append_assoc, List.nil_append]
    show State.run (.firstName stack) _ = _
    rw [run_firstName stack (List.cons_ne_nil _ _), hmembers]
    rfl

theorem run_itemTokens : ∀ (items : List Tree) (stack : List Frame) (before : List Tree)
    (ks : List Token), items ≠ [] →
    State.run (.value (.array before :: stack)) (itemTokens items ++ .closeArray :: ks) =
      State.run (.done stack (.array (before.reverse ++ items))) ks
  | [item], stack, before, ks, _ => by
    rw [itemTokens, run_tokens]
    show State.run (.done stack (.array (item :: before).reverse)) ks = _
    rw [List.reverse_cons]
  | item :: next :: items, stack, before, ks, _ => by
    have hitems := run_itemTokens (next :: items) stack (item :: before) ks (List.cons_ne_nil _ _)
    simp only [itemTokens, List.append_assoc, List.cons_append]
    rw [run_tokens]
    show State.run (.value (.array (item :: before) :: stack)) _ = _
    rw [hitems, List.reverse_cons, List.append_assoc, List.singleton_append]

theorem run_memberTokens : ∀ (members : List (Option String × Tree)) (stack : List Frame)
    (before : List (Option String × Tree)) (ks : List Token), members ≠ [] →
    State.run (.nextName stack before) (memberTokens members ++ .closeObject :: ks) =
      State.run (.done stack (.object (before.reverse ++ members))) ks
  | [(name, value)], stack, before, ks, _ => by
    show State.run (.value (.object before name :: stack)) (value.tokens ++ .closeObject :: ks) = _
    rw [run_tokens]
    show State.run (.done stack (.object ((name, value) :: before).reverse)) ks = _
    rw [List.reverse_cons]
  | (name, value) :: next :: members, stack, before, ks, _ => by
    have hmembers := run_memberTokens (next :: members) stack ((name, value) :: before) ks
      (List.cons_ne_nil _ _)
    simp only [memberTokens, List.cons_append, List.append_assoc]
    show State.run (.value (.object before name :: stack)) (value.tokens ++ _) = _
    rw [run_tokens]
    show State.run (.nextName stack ((name, value) :: before)) _ = _
    rw [hmembers, List.reverse_cons, List.append_assoc, List.singleton_append]
end

/-! ## Whole documents -/

theorem ofTokens?_tokens (t : Tree) : ofTokens? t.tokens = some t := by
  have h := run_tokens t [] []
  rw [List.append_nil] at h
  rw [ofTokens?, h]
  rfl

theorem tokens?_nil : tokens? [] = some [] := by
  rw [tokens?]
  rfl

theorem read?_write {t : Tree} (h : t.IsWritten) : read? t.write = some t := by
  have htokens := tokens?_write t [] h Token.noNumeral_nil
  rw [List.append_nil, tokens?_nil] at htokens
  rw [read?, htokens]
  simp [ofTokens?_tokens]

/-- A document is read back from its text. -/
theorem ofText?_toText {t : Tree} (h : t.IsWritten) : ofText? t.toText = some t := by
  rw [ofText?, toText, String.toList_ofList, read?_write h]

end NoteSearch.Json.Tree
