-- SUMMARY: A patch does what its single actions do, in whatever order they come.
import NoteSearch.Search.Filter

/-!
# Patches

A patch stores all its values and then decides once about the page; single actions store one value
each, and each of them decides about the page. Values of different fields do not interfere, so the
single actions of a patch may come in any order (`patch_in_any_order`). `merged` says field by field
which filter that leads to.
-/

namespace NoteSearch.Filter

variable {f : Filter} {p : Patch} {c d : Change} {a b : Action}

/-! ## What a patch carries -/

/-- Whether a patch has the value of a change for the field of the change. -/
def Patch.Carries (p : Patch) : Change → Prop
  | .tags v => p.tags = some v
  | .excludedTags v => p.excludedTags = some v
  | .tagMode v => p.tagMode = some v
  | .noteType v => p.noteType = some v
  | .createdAfter v => p.createdAfter = some v
  | .createdBefore v => p.createdBefore = some v
  | .updatedAfter v => p.updatedAfter = some v
  | .updatedBefore v => p.updatedBefore = some v
  | .titleOnly v => p.titleOnly = some v
  | .hasAttachments v => p.hasAttachments = some v
  | .sortBy v => p.sortBy = some v
  | .perPage v => p.perPage = some v
  | .page v => p.page = some v

/-- Whether an action is one of those that a patch stands for besides its page. -/
def Patch.Asks (p : Patch) : Action → Prop
  | .setQuery text => p.query = some text
  | .change c => c.isPage = false ∧ p.Carries c
  | _ => False

theorem Patch.mem_changes : c ∈ p.changes ↔ p.Carries c := by
  cases c <;> simp [Patch.changes, Patch.Carries]

/-- A patch is page-only if it has a value for no other field, so the empty patch is, too. -/
theorem Patch.isPageOnly_iff : p.isPageOnly = true ↔ p = { page := p.page } := by
  constructor
  · intro h
    rw [Patch.isPageOnly, Bool.and_eq_true, Option.isNone_iff_eq_none, List.all_eq_true] at h
    obtain ⟨hquery, hpage⟩ := h
    have hnone {α : Type} {o : Option α} (change : α → Change)
        (hchange : ∀ v, o = some v → p.Carries (change v) ∧ (change v).isPage = false) :
        o = none := by
      refine Option.eq_none_iff_forall_ne_some.2 fun v hv => ?_
      obtain ⟨hcarries, hother⟩ := hchange v hv
      exact absurd (hpage _ (Patch.mem_changes.2 hcarries)) (by simp [hother])
    cases p
    simp only [Patch.mk.injEq, and_true]
    exact ⟨hquery,
      hnone .tags fun _ h => ⟨h, rfl⟩,
      hnone .excludedTags fun _ h => ⟨h, rfl⟩,
      hnone .tagMode fun _ h => ⟨h, rfl⟩,
      hnone .noteType fun _ h => ⟨h, rfl⟩,
      hnone .createdAfter fun _ h => ⟨h, rfl⟩,
      hnone .createdBefore fun _ h => ⟨h, rfl⟩,
      hnone .updatedAfter fun _ h => ⟨h, rfl⟩,
      hnone .updatedBefore fun _ h => ⟨h, rfl⟩,
      hnone .titleOnly fun _ h => ⟨h, rfl⟩,
      hnone .hasAttachments fun _ h => ⟨h, rfl⟩,
      hnone .sortBy fun _ h => ⟨h, rfl⟩,
      hnone .perPage fun _ h => ⟨h, rfl⟩⟩
  · intro h
    rw [h]
    cases p.page <;> rfl

/-! ## Field by field -/

/-- A filter with the values that a patch has. It is on the page of the patch if that is all there
is to it, and otherwise on the first one. -/
def merged (f : Filter) (p : Patch) : Filter where
  query := p.query.elim f.query normalQuery
  tags := p.tags.elim f.tags .ofList
  tagMode := p.tagMode.getD f.tagMode
  excludedTags := p.excludedTags.elim f.excludedTags .ofList
  noteType := p.noteType.getD f.noteType
  created := ⟨p.createdAfter.getD f.created.after, p.createdBefore.getD f.created.before⟩
  updated := ⟨p.updatedAfter.getD f.updated.after, p.updatedBefore.getD f.updated.before⟩
  titleOnly := p.titleOnly.getD f.titleOnly
  hasAttachments := p.hasAttachments.getD f.hasAttachments
  sortBy := p.sortBy.elim f.sortBy normalSort
  page := if p = { page := p.page } then p.page.elim f.page atLeastOne else 1
  perPage := p.perPage.elim f.perPage atLeastOne

theorem foldl_store_toList {α : Type} (f : Filter) (o : Option α) (change : α → Change) :
    (o.map change).toList.foldl store f = o.elim f fun v => f.store (change v) := by
  cases o <;> rfl

theorem patch_eq_merged (f : Filter) (p : Patch) : f.patch p = f.merged p := by
  -- Storing a value if there is one changes its own field and no other.
  have query (f : Filter) (o : Option String) :
      f.storeQuery o = { f with query := o.elim f.query normalQuery } := by cases o <;> rfl
  have tags (f : Filter) (o : Option (List String)) : (o.elim f fun v => f.store (.tags v)) =
      { f with tags := o.elim f.tags .ofList } := by cases o <;> rfl
  have excludedTags (f : Filter) (o : Option (List String)) :
      (o.elim f fun v => f.store (.excludedTags v)) =
        { f with excludedTags := o.elim f.excludedTags .ofList } := by cases o <;> rfl
  have tagMode (f : Filter) (o : Option TagMode) : (o.elim f fun v => f.store (.tagMode v)) =
      { f with tagMode := o.getD f.tagMode } := by cases o <;> rfl
  have noteType (f : Filter) (o : Option (Option NoteType)) :
      (o.elim f fun v => f.store (.noteType v)) = { f with noteType := o.getD f.noteType } := by
    cases o <;> rfl
  have createdAfter (f : Filter) (o : Option (Option Calendar.Date)) :
      (o.elim f fun v => f.store (.createdAfter v)) =
        { f with created := ⟨o.getD f.created.after, f.created.before⟩ } := by cases o <;> rfl
  have createdBefore (f : Filter) (o : Option (Option Calendar.Date)) :
      (o.elim f fun v => f.store (.createdBefore v)) =
        { f with created := ⟨f.created.after, o.getD f.created.before⟩ } := by cases o <;> rfl
  have updatedAfter (f : Filter) (o : Option (Option Calendar.Date)) :
      (o.elim f fun v => f.store (.updatedAfter v)) =
        { f with updated := ⟨o.getD f.updated.after, f.updated.before⟩ } := by cases o <;> rfl
  have updatedBefore (f : Filter) (o : Option (Option Calendar.Date)) :
      (o.elim f fun v => f.store (.updatedBefore v)) =
        { f with updated := ⟨f.updated.after, o.getD f.updated.before⟩ } := by cases o <;> rfl
  have titleOnly (f : Filter) (o : Option Bool) : (o.elim f fun v => f.store (.titleOnly v)) =
      { f with titleOnly := o.getD f.titleOnly } := by cases o <;> rfl
  have hasAttachments (f : Filter) (o : Option (Option Bool)) :
      (o.elim f fun v => f.store (.hasAttachments v)) =
        { f with hasAttachments := o.getD f.hasAttachments } := by cases o <;> rfl
  have sortBy (f : Filter) (o : Option String) : (o.elim f fun v => f.store (.sortBy v)) =
      { f with sortBy := o.elim f.sortBy normalSort } := by cases o <;> rfl
  have perPage (f : Filter) (o : Option UInt32) : (o.elim f fun v => f.store (.perPage v)) =
      { f with perPage := o.elim f.perPage atLeastOne } := by cases o <;> rfl
  have page (f : Filter) (o : Option UInt32) : (o.elim f fun v => f.store (.page v)) =
      { f with page := o.elim f.page atLeastOne } := by cases o <;> rfl
  simp only [Filter.patch, Patch.changes, List.foldl_append, foldl_store_toList, query, tags,
    excludedTags, tagMode, noteType, createdAfter, createdBefore, updatedAfter, updatedBefore,
    titleOnly, hasAttachments, sortBy, perPage, page, Patch.isPageOnly_iff, merged]
  split <;> rfl

/-! ## One after the other -/

/-- The two changes are the same one, or they are for different fields. -/
theorem Patch.Carries.store_comm (hc : p.Carries c) (hd : p.Carries d) (f : Filter) :
    (f.store c).store d = (f.store d).store c := by
  cases c <;> cases d <;> first | (cases Option.some.inj (Eq.trans (Eq.symm hc) hd); rfl) | rfl

theorem store_store (f : Filter) (c : Change) : (f.store c).store c = f.store c := by
  cases c <;> rfl

theorem storeQuery_store (f : Filter) (c : Change) (query : Option String) :
    (f.storeQuery query).store c = (f.store c).storeQuery query := by
  cases query <;> cases c <;> rfl

theorem toFirstPage_store (hc : c.isPage = false) (f : Filter) :
    f.toFirstPage.store c = (f.store c).toFirstPage := by
  cases c with
  | page page => cases hc
  | _ => rfl

theorem act_setQuery (f : Filter) (text : String) :
    f.act (.setQuery text) = (f.storeQuery (some text)).toFirstPage := rfl

theorem act_change (hc : c.isPage = false) (f : Filter) :
    f.act (.change c) = (f.store c).toFirstPage :=
  if_neg (Bool.eq_false_iff.1 hc)

theorem Patch.Asks.act_comm (ha : p.Asks a) (hb : p.Asks b) (f : Filter) :
    (f.act a).act b = (f.act b).act a := by
  have hquery (text : String) {c : Change} (hc : c.isPage = false) :
      (f.act (.setQuery text)).act (.change c) = (f.act (.change c)).act (.setQuery text) := by
    rw [act_change hc, act_change hc, act_setQuery, act_setQuery, toFirstPage_store hc,
      storeQuery_store]
    rfl
  cases a with
  | setQuery text =>
    cases b with
    | setQuery other => cases Option.some.inj (Eq.trans (Eq.symm ha) hb); rfl
    | change d => exact hquery text hb.1
    | _ => cases hb
  | change c =>
    cases b with
    | setQuery text => exact (hquery text ha.1).symm
    | change d =>
      rw [act_change ha.1, act_change hb.1, act_change hb.1, act_change ha.1,
        toFirstPage_store hb.1, toFirstPage_store ha.1, ha.2.store_comm hb.2]
    | _ => cases hb
  | _ => cases ha

theorem Patch.Asks.act_act (ha : p.Asks a) (f : Filter) : (f.act a).act a = f.act a := by
  cases a with
  | setQuery text => rfl
  | change c =>
    rw [act_change ha.1, act_change ha.1, toFirstPage_store ha.1, store_store]
    rfl
  | _ => cases ha

/-- A single action of a patch after others of them might as well come before them. -/
theorem Patch.Asks.act_foldl (ha : p.Asks a) {l : List Action} (hl : ∀ b ∈ l, p.Asks b)
    (f : Filter) : (l.foldl act f).act a = l.foldl act (f.act a) := by
  induction l generalizing f with
  | nil => rfl
  | cons b rest ih =>
    have hb : p.Asks b := hl b List.mem_cons_self
    rw [List.foldl_cons, List.foldl_cons, ih fun d hd => hl d (List.mem_cons_of_mem _ hd),
      hb.act_comm ha]

/-- A single action of a patch has no effect after it has been made. -/
theorem Patch.Asks.act_foldl_of_mem {l : List Action} (hl : ∀ b ∈ l, p.Asks b) (ha : a ∈ l)
    (f : Filter) : (l.foldl act f).act a = l.foldl act f := by
  induction l generalizing f with
  | nil => cases ha
  | cons b rest ih =>
    have hrest : ∀ b ∈ rest, p.Asks b := fun d hd => hl d (List.mem_cons_of_mem _ hd)
    rcases List.mem_cons.1 ha with rfl | ha
    · have ha : p.Asks a := hl a List.mem_cons_self
      rw [List.foldl_cons, ha.act_foldl hrest, ha.act_act]
    · exact ih hrest ha _

/-- Neither the order of the single actions of a patch matters nor how often they are made. -/
theorem Patch.foldl_act_eq {l m : List Action} (hl : ∀ a, a ∈ l ↔ p.Asks a)
    (hm : ∀ a, a ∈ m ↔ p.Asks a) (f : Filter) : l.foldl act f = m.foldl act f := by
  -- What has been made once is not missed at the end.
  have habsorb {l m : List Action} (hl : ∀ a ∈ l, p.Asks a) (hm : ∀ a ∈ m, a ∈ l) :
      m.foldl act (l.foldl act f) = l.foldl act f := by
    induction m with
    | nil => rfl
    | cons a rest ih =>
      rw [List.foldl_cons, Patch.Asks.act_foldl_of_mem hl (hm a List.mem_cons_self)]
      exact ih fun b hb => hm b (List.mem_cons_of_mem _ hb)
  have hperm : (l ++ m).foldl act f = (m ++ l).foldl act f := by
    refine List.perm_append_comm.foldl_eq' (fun a ha b hb g => ?_) f
    have hasks {a : Action} (ha : a ∈ l ++ m) : p.Asks a :=
      (List.mem_append.1 ha).elim (hl a).1 (hm a).1
    exact (hasks ha).act_comm (hasks hb) g
  calc l.foldl act f
      = m.foldl act (l.foldl act f) :=
        (habsorb (fun a => (hl a).1) fun a ha => (hl a).2 ((hm a).1 ha)).symm
    _ = l.foldl act (m.foldl act f) := by rw [← List.foldl_append, hperm, List.foldl_append]
    _ = m.foldl act f := habsorb (fun a => (hm a).1) fun a ha => (hm a).2 ((hl a).1 ha)

/-! ## All at once -/

/-- The changes of a patch to other fields than the page. -/
def Patch.others (p : Patch) : List Change := { p with page := none }.changes

/-- The single actions of a patch, the query first. -/
def Patch.actions (p : Patch) : List Action :=
  (p.query.map Action.setQuery).toList ++ p.others.map Action.change

theorem Patch.mem_others : c ∈ p.others ↔ c.isPage = false ∧ p.Carries c := by
  rw [Patch.others, Patch.mem_changes]
  cases c <;> simp [Patch.Carries, Change.isPage]

theorem Patch.mem_actions : a ∈ p.actions ↔ p.Asks a := by
  cases a <;> simp [Patch.actions, Patch.Asks, Patch.mem_others]

/-- The page is the last change of a patch. -/
theorem Patch.changes_eq (p : Patch) :
    p.changes = p.others ++ (p.page.map Change.page).toList := by
  simp [Patch.changes, Patch.others]

theorem foldl_store_toFirstPage {l : List Change} (hl : ∀ c ∈ l, c.isPage = false) (f : Filter) :
    l.foldl store f.toFirstPage = (l.foldl store f).toFirstPage := by
  induction l generalizing f with
  | nil => rfl
  | cons c rest ih =>
    rw [List.foldl_cons, toFirstPage_store (hl c List.mem_cons_self), List.foldl_cons]
    exact ih (fun d hd => hl d (List.mem_cons_of_mem _ hd)) _

/-- On the first page a change need not go back to it. -/
theorem foldl_act_change {l : List Change} (hl : ∀ c ∈ l, c.isPage = false) (f : Filter) :
    (l.map Action.change).foldl act f.toFirstPage = (l.foldl store f).toFirstPage := by
  induction l generalizing f with
  | nil => rfl
  | cons c rest ih =>
    have hc := hl c List.mem_cons_self
    have hfirst : f.toFirstPage.act (.change c) = (f.store c).toFirstPage := by
      rw [act_change hc, toFirstPage_store hc]
      rfl
    rw [List.map_cons, List.foldl_cons, hfirst, List.foldl_cons]
    exact ih (fun d hd => hl d (List.mem_cons_of_mem _ hd)) _

/-- A patch that does more than move to another page. -/
theorem patch_of_ne (h : p ≠ { page := p.page }) (f : Filter) :
    f.patch p = (p.others.foldl store (f.storeQuery p.query)).toFirstPage := by
  have hpage (g : Filter) : ((p.page.map Change.page).toList.foldl store g).toFirstPage =
      g.toFirstPage := by cases p.page <;> rfl
  rw [Filter.patch, if_neg fun hpage => h (Patch.isPageOnly_iff.1 hpage), Patch.changes_eq,
    List.foldl_append, hpage]

theorem foldl_actions (f : Filter) (p : Patch) :
    p.actions.foldl act (p.page.elim f f.setPage) = f.patch p := by
  by_cases h : p = { page := p.page }
  · obtain ⟨page, rfl⟩ : ∃ page, p = { page := page } := ⟨_, h⟩
    cases page <;> rfl
  have hothers : ∀ c ∈ p.others, c.isPage = false := fun c hc => (Patch.mem_others.1 hc).1
  have hstart (query : Option String) :
      ((p.page.elim f f.setPage).storeQuery query).toFirstPage =
        (f.storeQuery query).toFirstPage := by
    cases p.page <;> cases query <;> rfl
  rw [patch_of_ne h, Patch.actions, List.foldl_append]
  cases hquery : p.query with
  | some text =>
    calc (p.others.map Action.change).foldl act ((p.page.elim f f.setPage).act (.setQuery text))
        = (p.others.map Action.change).foldl act (f.storeQuery (some text)).toFirstPage := by
          rw [act_setQuery, hstart]
      _ = _ := foldl_act_change hothers _
  | none =>
    cases hchanges : p.others with
    | nil =>
      refine absurd (Patch.isPageOnly_iff.1 ?_) h
      rw [Patch.isPageOnly, hquery, Patch.changes_eq, hchanges]
      cases p.page <;> rfl
    | cons c rest =>
      rw [hchanges] at hothers
      have hc := hothers c List.mem_cons_self
      have hrest : ∀ d ∈ rest, d.isPage = false := fun d hd => hothers d (List.mem_cons_of_mem _ hd)
      let start := p.page.elim f f.setPage
      calc (rest.map Action.change).foldl act (start.act (.change c))
          = (rest.map Action.change).foldl act (start.store c).toFirstPage := by
            rw [act_change hc]
        _ = ((c :: rest).foldl store start).toFirstPage := foldl_act_change hrest _
        _ = (c :: rest).foldl store start.toFirstPage := (foldl_store_toFirstPage hothers _).symm
        _ = (c :: rest).foldl store f.toFirstPage := by
          rw [show start.toFirstPage = f.toFirstPage from hstart none]
        _ = ((c :: rest).foldl store f).toFirstPage := foldl_store_toFirstPage hothers _

/-- A patch comes to the same as its page, if it has one, and after that its query and its other
changes, in any order. Each field that it has a value for is changed and no other one, and as soon
as it has a value for another field its page does not matter. -/
theorem patch_in_any_order (f : Filter) (p : Patch) (l : List Action)
    (hl : ∀ a, a ∈ l ↔ p.Asks a) :
    f.patch p = l.foldl act (p.page.elim f f.setPage) ∧ f.patch p = f.merged p ∧
    (p ≠ { page := p.page } → f.patch p = f.patch { p with page := none }) := by
  refine ⟨?_, patch_eq_merged f p, fun h => ?_⟩
  · rw [← foldl_actions, Patch.foldl_act_eq hl fun _ => Patch.mem_actions]
  · have hother : { p with page := none } ≠ ({ page := none } : Patch) := by
      intro heq
      apply h
      cases p
      simpa using heq
    rw [patch_of_ne h, patch_of_ne hother]
    rfl

/-- Three values of a patch, with its query in the middle; its page is lost. -/
theorem patch_around_query :
    let f : Filter := { titleOnly := true, page := 3 }
    let p : Patch :=
      { query := some "budget", tags := some ["b", " a"], sortBy := some " ", page := some 9 }
    let l : List Action :=
      [.change (.sortBy " "), .setQuery "budget", .change (.tags ["b", " a"])]
    (∀ a, a ∈ l ↔ p.Asks a) ∧ f.patch p = l.foldl act (f.setPage 9) ∧
      f.patch p = { query := "budget", tags := .ofList ["a", "b"], titleOnly := true } := by
  intro f p l
  have hl : ∀ a, a ∈ l ↔ p.Asks a := by
    intro a
    cases a with
    | setQuery text => simp [l, p, Patch.Asks, eq_comm]
    | change c => cases c <;> simp [l, p, Patch.Asks, Patch.Carries, Change.isPage, eq_comm]
    | _ => simp [l, Patch.Asks]
  obtain ⟨hsingle, hmerged, -⟩ := patch_in_any_order f p l hl
  exact ⟨hl, hsingle, hmerged.trans (by decide +kernel)⟩

end NoteSearch.Filter
