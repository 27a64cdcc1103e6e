-- SUMMARY: Whatever is done to a filter, it keeps its form, and it goes back to the first page.
import NoteSearch.Proofs.Search.NormalForm
import NoteSearch.Proofs.Search.Patches

/-!
# Pages of a filter

What is on another page depends on what is searched for, so an action that changes that leads to the
first page. Only an action that asks for nothing but a page (`MovesTo`) leads elsewhere, and it
changes nothing else. `actions_keep_form` puts this together with the normal form that every action
keeps.
-/

namespace NoteSearch.Filter

variable {a : Action} {page : Option UInt32}

/-- An action that asks for nothing but a page. A patch need not even ask for that. -/
inductive Action.MovesTo : Action → Option UInt32 → Prop where
  | setPage (page : UInt32) : MovesTo (.setPage page) (some page)
  | change (page : UInt32) : MovesTo (.change (.page page)) (some page)
  | patch (page : Option UInt32) : MovesTo (.patch { page }) page

theorem Action.MovesTo.act_eq (h : a.MovesTo page) (f : Filter) :
    f.act a = { f with page := page.elim f.page atLeastOne } := by
  cases h with
  | setPage page => rfl
  | change page => rfl
  | patch page => cases page <;> rfl

theorem page_patch {p : Patch} (h : p ≠ { page := p.page }) (f : Filter) :
    (f.patch p).page = 1 := by
  rw [patch_of_ne h]
  rfl

/-- Any other action leads to the first page. -/
theorem page_act (h : ∀ page, ¬ a.MovesTo page) (f : Filter) : (f.act a).page = 1 := by
  cases a with
  | change c =>
    have hc : c.isPage = false := by
      cases c with
      | page page => exact absurd (.change page) (h (some page))
      | _ => rfl
    rw [act_change hc]
    rfl
  | patch p =>
    refine page_patch (fun hp => h p.page ?_) f
    rw [hp]
    exact .patch p.page
  | setPage page => exact absurd (.setPage page) (h (some page))
  | _ => rfl

theorem activeFacets_eq_zero (query sortBy : String) (perPage : UInt32) :
    ({ query, sortBy, perPage } : Filter).activeFacets = 0 := rfl

theorem reached_concat (start : Option Request) (actions : List Action) (a : Action) :
    reached start (actions ++ [a]) = (reached start actions).act a := by
  simp [reached]

/-- However a filter has come about, its query is empty or not blank, its tags and its order of
results are trimmed and not empty, and its pages count from one. Only an action that asks for
nothing but a page leads to another page than the first one, and it changes nothing else. Resetting
the facets keeps query, order and page size, clearing keeps the page size, and no facet is active
after either. -/
theorem actions_keep_form (start : Option Request) (actions : List Action) :
    let f := reached start actions
    let next := fun a => reached start (actions ++ [a])
    (f.query = "" ∨ Text.isBlankString f.query = false) ∧
    (∀ tag, tag ∈ f.tags.toList ∨ tag ∈ f.excludedTags.toList →
      Text.trimmed tag = tag ∧ tag ≠ "") ∧
    (Text.trimmed f.sortBy = f.sortBy ∧ Text.isBlankString f.sortBy = false) ∧
    (1 ≤ f.page ∧ 1 ≤ f.perPage) ∧
    (∀ a, (∀ page, ¬ a.MovesTo page) → (next a).page = 1) ∧
    (∀ a page, a.MovesTo page → next a = { f with page := page.elim f.page atLeastOne }) ∧
    (next .resetFacets = { query := f.query, sortBy := f.sortBy, perPage := f.perPage } ∧
      (next .resetFacets).activeFacets = 0) ∧
    next .clear = { perPage := f.perPage } ∧ (next .clear).activeFacets = 0 := by
  intro f next
  have hnormal : f.Normal := normal_reached start actions
  have hnext (a : Action) : next a = f.act a := reached_concat start actions a
  have htag (tag : String) (h : Text.IsTrimmed tag) : Text.trimmed tag = tag ∧ tag ≠ "" := by
    obtain ⟨hblank, htrim⟩ := Text.isTrimmed_iff.1 h
    refine ⟨htrim, ?_⟩
    rintro rfl
    cases hblank
  refine ⟨hnormal.query, ?_, (Text.isTrimmed_iff.1 hnormal.sortBy).symm,
    ⟨hnormal.page, hnormal.perPage⟩, ?_, ?_, ?_, ?_⟩
  · rintro tag (h | h)
    · exact htag tag (hnormal.tags tag h)
    · exact htag tag (hnormal.excludedTags tag h)
  · intro a h
    rw [hnext]
    exact page_act h f
  · intro a page h
    rw [hnext]
    exact h.act_eq f
  · rw [hnext]
    exact ⟨rfl, activeFacets_eq_zero ..⟩
  · rw [hnext]
    exact ⟨rfl, activeFacets_eq_zero ..⟩

/-- Tags and a page at once lead from the fourth page to the first one, the page alone leads there,
and the empty patch stays. -/
theorem tags_lead_to_first_page :
    let f := reached none [.setQuery "budget", .setPage 4]
    let tagged := reached none [.setQuery "budget", .setPage 4,
      .patch { tags := some [" a "], page := some 9 }]
    f.page = 4 ∧ tagged.page = 1 ∧
      reached none [.setQuery "budget", .setPage 4, .patch { page := some 9 }] =
        { f with page := 9 } ∧
      reached none [.setQuery "budget", .setPage 4, .patch {}] = f := by
  intro f tagged
  obtain ⟨-, -, -, -, hfirst, hmoves, -⟩ :=
    actions_keep_form none [.setQuery "budget", .setPage 4]
  refine ⟨by decide +kernel, hfirst _ ?_, ?_, ?_⟩
  · rintro page ⟨⟩
  · exact hmoves _ _ (.patch (some 9))
  · exact hmoves _ _ (.patch none)

end NoteSearch.Filter
