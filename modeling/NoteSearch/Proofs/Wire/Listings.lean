-- SUMMARY: A list of saved searches is read alike by itself and as a member of an object.
import NoteSearch.Proofs.Json.Composition
import NoteSearch.Proofs.Wire.StoredSearches

/-!
# Both shapes of a list

The reader of saved searches takes an array, or an object that has it as a member. What else is in
the object is of no account, as long as it can be read and does not have the name of that member
(`savedListing_object`). The object is one container more, so the array must leave room for it below
the bound on nesting.
-/

namespace NoteSearch

/-! ## Nesting -/

namespace Json.Tree

mutual
/-- How deep the arrays and objects of a document nest. -/
def depth : Tree → Nat
  | array items => itemsDepth items + 1
  | object members => membersDepth members + 1
  | null | bool _ | number _ | string _ => 0

def itemsDepth : List Tree → Nat
  | [] => 0
  | item :: rest => max (depth item) (itemsDepth rest)

def membersDepth : List (Option String × Tree) → Nat
  | [] => 0
  | (_, value) :: rest => max (depth value) (membersDepth rest)
end

mutual
/-- Where the nesting of a document is within the bound, the bound does not matter. -/
theorem isReadable_of_depth_le : ∀ {t : Tree} {d e : Nat}, t.depth ≤ d → t.depth ≤ e →
    isReadable d t = isReadable e t
  | null, _, _, _, _ => rfl
  | bool _, _, _, _, _ => rfl
  | number _, _, _, _, _ => rfl
  | string _, _, _, _, _ => rfl
  | array _, _ + 1, _ + 1, hd, he =>
    areReadable_of_depth_le (Nat.le_of_succ_le_succ hd) (Nat.le_of_succ_le_succ he)
  | object _, _ + 1, _ + 1, hd, he =>
    membersReadable_of_depth_le (Nat.le_of_succ_le_succ hd) (Nat.le_of_succ_le_succ he)

theorem areReadable_of_depth_le : ∀ {items : List Tree} {d e : Nat}, itemsDepth items ≤ d →
    itemsDepth items ≤ e → areReadable d items = areReadable e items
  | [], _, _, _, _ => rfl
  | item :: rest, d, e, hd, he => by
    rw [itemsDepth, Nat.max_le] at hd he
    rw [areReadable, areReadable, isReadable_of_depth_le hd.1 he.1,
      areReadable_of_depth_le hd.2 he.2]

theorem membersReadable_of_depth_le : ∀ {members : List (Option String × Tree)} {d e : Nat},
    membersDepth members ≤ d → membersDepth members ≤ e →
    membersReadable d members = membersReadable e members
  | [], _, _, _, _ => rfl
  | (_, value) :: rest, d, e, hd, he => by
    rw [membersDepth, Nat.max_le] at hd he
    rw [membersReadable, membersReadable, isReadable_of_depth_le hd.1 he.1,
      membersReadable_of_depth_le hd.2 he.2]
end

end Json.Tree

namespace Wire

open Json
open Json.Tree (isReadable membersReadable findMember? countMember IsMemberText)

/-! ## Members beside the list -/

/-- A member that may stand beside the list: it has another name, and its value can be read one
container deep. -/
def IsFurther (m : Option String × Tree) : Prop :=
  m.1.isSome ∧ m.1 ≠ some "saved_searches" ∧ isReadable 126 m.2 = true

variable {before after : List (Option String × Tree)} {items : List Tree}

theorem findMember?_append {name : String} (h : ∀ m ∈ before, m.1 ≠ some name) :
    findMember? name (before ++ after) = findMember? name after := by
  induction before with
  | nil => rfl
  | cons m before ih =>
    rw [List.forall_mem_cons] at h
    rw [List.cons_append, findMember?, if_neg h.1, ih h.2]

theorem countMember_eq_zero {name : String} (h : ∀ m ∈ before, m.1 ≠ some name) :
    countMember name before = 0 := by
  simpa [countMember, List.countP_eq_zero] using h

/-- The list is found among the members of an object, once. -/
theorem fields?_listing (list : Tree) (hbefore : ∀ m ∈ before, IsFurther m)
    (hafter : ∀ m ∈ after, IsFurther m) :
    (Tree.object (before ++ (some "saved_searches", list) :: after)).fields?
      ["saved_searches"] 0 = some [some list] := by
  have hother := fun m hm => (hbefore m hm).2.1
  have hothers := fun m hm => (hafter m hm).2.1
  have hnames : (before ++ (some "saved_searches", list) :: after).all (·.1.isSome) = true := by
    rw [List.all_append, List.all_cons, Bool.and_eq_true, Bool.and_eq_true]
    exact ⟨List.all_eq_true.2 fun m hm => (hbefore m hm).1, rfl,
      List.all_eq_true.2 fun m hm => (hafter m hm).1⟩
  have honce : countMember "saved_searches" (before ++ (some "saved_searches", list) :: after) =
      1 := by
    have hcount := countMember_eq_zero hother
    have hcounts := countMember_eq_zero hothers
    rw [countMember] at hcount hcounts ⊢
    rw [List.countP_append, List.countP_cons, hcount, hcounts]
    simp
  simp [Tree.fields?, hnames, honce, findMember?_append hother, findMember?]

theorem membersReadable_append {depth : Nat} :
    membersReadable depth (before ++ after) =
      (membersReadable depth before && membersReadable depth after) := by
  induction before with
  | nil => rfl
  | cons m before ih => simp [membersReadable, ih, Bool.and_assoc]

theorem membersReadable_further (h : ∀ m ∈ before, IsFurther m) :
    membersReadable 126 before = true := by
  induction before with
  | nil => rfl
  | cons m before ih =>
    rw [List.forall_mem_cons] at h
    simp [membersReadable, h.1.1, h.1.2.2, ih h.2]

/-! ## Both shapes -/

theorem items_eq_some_iff {α : Type} {read : Reader α} {ts : List Tree} {values : List α} :
    Reader.items read ts = some values ↔ ts.map read = values.map some := by
  induction ts generalizing values with
  | nil => cases values <;> simp [Reader.items]
  | cons t ts ih =>
    simp only [Reader.items, Option.bind_eq_bind, Option.bind_eq_some_iff, Option.some.injEq]
    constructor
    · rintro ⟨value, hvalue, rest, hrest, rfl⟩
      rw [List.map_cons, List.map_cons, hvalue, ih.1 hrest]
    · intro h
      cases values with
      | nil => cases h
      | cons value values =>
        obtain ⟨hvalue, hrest⟩ := List.cons.inj h
        exact ⟨value, hvalue, values, ih.2 hrest, rfl⟩

/-- An array is read one element after the other, if all of it can be read. -/
theorem savedListing_array {searches : List SavedSearch} :
    savedListing (.array items) = some searches ↔
      isReadable Value.maxDepth (.array items) = true ∧
        items.map savedSearch = searches.map some := by
  have hbare : (wrappedListing (.array items) <|> Reader.list savedSearch (.array items)) =
      Reader.items savedSearch items := rfl
  rw [← items_eq_some_iff, savedListing, hbare, Option.ite_none_right_eq_some]

/-- A list that leaves room for one more container is read in an object as it is by itself. -/
theorem savedListing_object (hdepth : (Tree.array items).depth ≤ 126)
    (hbefore : ∀ m ∈ before, IsFurther m) (hafter : ∀ m ∈ after, IsFurther m) :
    savedListing (.object (before ++ (some "saved_searches", .array items) :: after)) =
      savedListing (.array items) := by
  have hreadable : isReadable Value.maxDepth
      (.object (before ++ (some "saved_searches", .array items) :: after)) =
        isReadable Value.maxDepth (.array items) := by
    have hroom : isReadable 126 (.array items) = isReadable Value.maxDepth (.array items) :=
      Tree.isReadable_of_depth_le hdepth (Nat.le_succ_of_le hdepth)
    rw [← hroom]
    show membersReadable 126 _ = _
    rw [membersReadable_append, membersReadable, membersReadable_further hbefore,
      membersReadable_further hafter]
    simp
  have hwrapped : wrappedListing (.object (before ++ (some "saved_searches", .array items) ::
      after)) = Reader.list savedSearch (.array items) := by
    rw [wrappedListing, fields?_listing _ hbefore hafter]
    rfl
  rw [savedListing, savedListing, hreadable, hwrapped]
  split
  · cases Reader.list savedSearch (.array items) <;> rfl
  · rfl

/-- The texts of a member that may stand beside the list. -/
def IsFurtherText (text : String × String) : Prop := ∃ m, IsMemberText text m ∧ IsFurther m

theorem exists_members {texts : List (String × String)} (h : ∀ text ∈ texts, IsFurtherText text) :
    ∃ members, List.Forall₂ IsMemberText texts members ∧ ∀ m ∈ members, IsFurther m := by
  induction texts with
  | nil => exact ⟨[], .nil, nofun⟩
  | cons text texts ih =>
    rw [List.forall_mem_cons] at h
    obtain ⟨m, hm, hfurther⟩ := h.1
    obtain ⟨members, hmembers, hall⟩ := ih h.2
    exact ⟨m :: members, .cons hm hmembers, List.forall_mem_cons.2 ⟨hfurther, hall⟩⟩

/-- The text of an array that nests at most 126 deep is read as a list of saved searches with the
same result, or fails as well, if it stands in an object under the name that the reader looks for,
whatever readable members of other names stand before and behind it. The list has one search for
each element of the array, in order; there is none if one of them, or the array, cannot be read. -/
theorem listings_agree {list key : String} {before after : List (String × String)}
    {items : List Tree} (hlist : Tree.ofText? list = some (.array items))
    (hdepth : (Tree.array items).depth ≤ 126)
    (hkey : Tree.ofText? key = some (.string (some "saved_searches")))
    (hbefore : ∀ text ∈ before, IsFurtherText text)
    (hafter : ∀ text ∈ after, IsFurtherText text) :
    (Tree.ofText? (Tree.objectText (before ++ (key, list) :: after))).bind savedListing =
      (Tree.ofText? list).bind savedListing ∧
    ∀ searches, (Tree.ofText? list).bind savedListing = some searches ↔
      isReadable Value.maxDepth (.array items) = true ∧
        items.map savedSearch = searches.map some := by
  obtain ⟨members, hmembers, hfurther⟩ := exists_members hbefore
  obtain ⟨others, hothers, hfurthers⟩ := exists_members hafter
  have hobject : Tree.ofText? (Tree.objectText (before ++ (key, list) :: after)) =
      some (.object (members ++ (some "saved_searches", .array items) :: others)) :=
    Tree.ofText?_objectText (List.rel_append hmembers (.cons ⟨hkey, hlist⟩ hothers))
  rw [hobject, hlist]
  exact ⟨savedListing_object hdepth hfurther hfurthers, fun _ => savedListing_array⟩

/-- Two searches, one as an array and one with a member that is not known and without most fields,
are listed alike, though the name before the list is written with an escape. -/
theorem listings_agree_with_total :
    let first := "[7,\"drafts\",\x7b\x7d]"
    let second := "\x7b\"id\":8,\"name\":\"all\",\"search_query\":\x7b\x7d,\"color\":null\x7d"
    let list := "[" ++ first ++ ", " ++ second ++ "]"
    let others := "\"next\":[\x7b\x7d]"
    let wrapped := "\x7b\"total\":2,\"saved\\u005fsearches\" :" ++ list ++ "," ++ others ++ "\x7d"
    ((Tree.ofText? list).bind savedListing).map (·.map (·.id)) = some [7, 8] ∧
      (Tree.ofText? wrapped).bind savedListing = (Tree.ofText? list).bind savedListing := by
  intro first second list others wrapped
  have hlist : Tree.ofText? list = some (.array
      [.array [.number (.ofInt 7), .string (some "drafts"), .object []],
        .object [(some "id", .number (.ofInt 8)), (some "name", .string (some "all")),
          (some "search_query", .object []), (some "color", .null)]]) :=
    Tree.ofText?_eq_some_iff.2 (by decide +kernel)
  have hkey : Tree.ofText? "\"saved\\u005fsearches\" " = some (.string (some "saved_searches")) :=
    Tree.ofText?_eq_some_iff.2 (by decide +kernel)
  have htotal : IsFurtherText ("\"total\"", "2") :=
    ⟨(some "total", .number (.ofInt 2)), ⟨Tree.ofText?_eq_some_iff.2 (by decide +kernel),
      Tree.ofText?_eq_some_iff.2 (by decide +kernel)⟩, rfl, by decide, by decide +kernel⟩
  have hnext : IsFurtherText ("\"next\"", "[\x7b\x7d]") :=
    ⟨(some "next", .array [.object []]), ⟨Tree.ofText?_eq_some_iff.2 (by decide +kernel),
      Tree.ofText?_eq_some_iff.2 (by decide +kernel)⟩, rfl, by decide, by decide +kernel⟩
  obtain ⟨hagree, -⟩ := listings_agree hlist (by decide +kernel) hkey
    (List.forall_mem_singleton.2 htotal) (List.forall_mem_singleton.2 hnext)
  refine ⟨by decide +kernel, ?_⟩
  have htext : wrapped = Tree.objectText ([("\"total\"", "2")] ++
      ("\"saved\\u005fsearches\" ", list) :: [("\"next\"", "[\x7b\x7d]")]) := by decide +kernel
  rw [htext]
  exact hagree

end Wire

end NoteSearch
