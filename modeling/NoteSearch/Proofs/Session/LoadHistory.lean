-- SUMMARY: Loads of usage numbers as the effects of a session tell them.
import NoteSearch.Proofs.Session.PaneContents

/-!
# The history of loads

A load of usage numbers asks for three parts with three calls in a row, and it ends when all of them
have been answered. Which loads have begun, what they have brought and in which order they have
ended can be read off the effects of a session (`loadsBegun`, `loaded?`, `loadMarks`).
-/

namespace NoteSearch

/-- Popular queries, trending queries and totals. -/
abbrev Insights.Sections : Type := List PopularQuery × List TrendingQuery × Option UsageStats

def Insights.sections (p : Insights) : Insights.Sections := (p.popular, p.trending, p.stats)

namespace InsightsPart

/-- The popular queries that a part brings; a failure brings none. -/
def popular? : InsightsPart → Option (List PopularQuery)
  | popular a => some (a.toOption.getD [])
  | _ => none

/-- The trending queries that a part brings; a failure brings none. -/
def trending? : InsightsPart → Option (List TrendingQuery)
  | trending a => some (a.toOption.getD [])
  | _ => none

/-- The totals that a part brings; a failure brings none. -/
def stats? : InsightsPart → Option (Option UsageStats)
  | stats a => some a.toOption
  | _ => none

end InsightsPart

/-- Whether an event is the command to load the usage numbers. -/
def Event.isLoad : Event → Bool
  | .command _ .loadInsights => true
  | _ => false

/-- The number of the first call of the load that an effect begins. -/
def Effect.beginsLoad? : Effect → Option Nat
  | .call id (.popular _) => some id
  | _ => none

/-- The part of a load that an effect brings as the answer to the call `id`. -/
def Effect.partFor? (id : Nat) : Effect → Option InsightsPart
  | .answered i r => if i = id then r.part? else none
  | _ => none

/-- The part that has been the answer to the call `id`. -/
def partOf? (id : Nat) (past : List Effect) : Option InsightsPart := past.findSome? (·.partFor? id)

/-- The loads that have begun, each by the number of its first call, the latest one first. -/
def loadsBegun (past : List Effect) : List Nat := past.filterMap Effect.beginsLoad?

/-- What a load has brought, if all of its calls have been answered. -/
def loaded? (past : List Effect) (id : Nat) : Option Insights.Sections :=
  match (partOf? id past).bind (·.popular?), (partOf? (id + 1) past).bind (·.trending?),
    (partOf? (id + 2) past).bind (·.stats?) with
  | some popular, some trending, some stats => some (popular, trending, stats)
  | _, _, _ => none

/-- A load begins, or all of its calls have been answered. -/
inductive LoadMark where
  | began (id : Nat)
  | ended (id : Nat)
  deriving DecidableEq

/-- The load that an effect ends. -/
def endedBy? (x : Effect) (past : List Effect) : Option Nat :=
  (loadsBegun past).find? fun id => (loaded? past id).isNone && (loaded? (x :: past) id).isSome

/-- The beginnings and the ends of loads, the latest one first. -/
def loadMarks : List Effect → List LoadMark
  | [] => []
  | x :: past =>
    ((x.beginsLoad?.map .began).or ((endedBy? x past).map .ended)).toList ++ loadMarks past

/-- The load that has ended last. -/
def lastEnded? (marks : List LoadMark) : Option Nat :=
  marks.findSome? fun
    | .began _ => none
    | .ended id => some id

/-- A load as the history tells it. -/
def loadAt (past : List Effect) (number id : Nat) : InsightsLoad where
  number
  popular := (partOf? id past).bind (·.popular?)
  trending := (partOf? (id + 1) past).bind (·.trending?)
  stats := (partOf? (id + 2) past).bind (·.stats?)

variable {past fx : List Effect} {x : Effect} {id : Nat}

/-! ## Histories -/

theorem partOf?_cons_of_none (h : x.partFor? id = none) :
    partOf? id (x :: past) = partOf? id past := by
  simp [partOf?, h]

theorem partOf?_cons_of_some {part : InsightsPart} (h : x.partFor? id = some part) :
    partOf? id (x :: past) = some part := by
  simp [partOf?, h]

/-- Whoever has brought a part has answered. -/
theorem answered_of_partOf? {part : InsightsPart} (h : partOf? id past = some part) :
    ∃ r, .answered id r ∈ past := by
  obtain ⟨x, hx, hpart⟩ := List.exists_of_findSome?_eq_some h
  unfold Effect.partFor? at hpart
  split at hpart
  · split at hpart
    · rename_i i r hi
      exact ⟨r, hi ▸ hx⟩
    · cases hpart
  · cases hpart

/-- The three calls of a load have been answered if it has ended. -/
theorem exists_partOf?_of_loaded? {sections : Insights.Sections}
    (h : loaded? past id = some sections) {place : Nat} (hplace : place < 3) :
    ∃ part, partOf? (id + place) past = some part := by
  unfold loaded? at h
  split at h
  · rename_i popular trending stats hpopular htrending hstats
    match place, hplace with
    | 0, _ => exact (Option.bind_eq_some_iff.1 hpopular).imp fun _ hpart => hpart.1
    | 1, _ => exact (Option.bind_eq_some_iff.1 htrending).imp fun _ hpart => hpart.1
    | 2, _ => exact (Option.bind_eq_some_iff.1 hstats).imp fun _ hpart => hpart.1
  · cases h

/-- A load is as it was if none of its calls has been answered. -/
theorem parts_cons (past : List Effect) (h : ∀ place < 3, x.partFor? (id + place) = none) :
    partOf? id (x :: past) = partOf? id past ∧
      partOf? (id + 1) (x :: past) = partOf? (id + 1) past ∧
      partOf? (id + 2) (x :: past) = partOf? (id + 2) past :=
  ⟨partOf?_cons_of_none (h 0 (by decide)), partOf?_cons_of_none (h 1 (by decide)),
    partOf?_cons_of_none (h 2 (by decide))⟩

theorem loadAt_cons (h : ∀ place < 3, x.partFor? (id + place) = none) (number : Nat) :
    loadAt (x :: past) number id = loadAt past number id := by
  obtain ⟨hpopular, htrending, hstats⟩ := parts_cons past h
  simp only [loadAt, hpopular, htrending, hstats]

theorem loaded?_cons (h : ∀ place < 3, x.partFor? (id + place) = none) :
    loaded? (x :: past) id = loaded? past id := by
  obtain ⟨hpopular, htrending, hstats⟩ := parts_cons past h
  simp only [loaded?, hpopular, htrending, hstats]

/-- An answer to one of the calls of a load is stored in it. -/
theorem store_loadAt {part : InsightsPart} (number : Nat)
    (h : ∀ i, x.partFor? i = if i = id + part.place then some part else none) :
    (loadAt past number id).store part = loadAt (x :: past) number id := by
  have hnew : partOf? (id + part.place) (x :: past) = some part :=
    partOf?_cons_of_some (by simp [h])
  have hold {i : Nat} (hi : i ≠ id + part.place) : partOf? i (x :: past) = partOf? i past :=
    partOf?_cons_of_none (by simp [h, hi])
  cases part with
  | popular a =>
    have htrending := @hold (id + 1) (by simp [InsightsPart.place])
    have hstats := @hold (id + 2) (by simp [InsightsPart.place])
    cases a <;> simp_all [loadAt, InsightsLoad.store, InsightsPart.place, InsightsPart.popular?,
      Except.toOption]
  | trending a =>
    have hpopular := @hold id (by simp [InsightsPart.place])
    have hstats := @hold (id + 2) (by simp [InsightsPart.place])
    cases a <;> simp_all [loadAt, InsightsLoad.store, InsightsPart.place, InsightsPart.trending?,
      Except.toOption]
  | stats a =>
    have hpopular := @hold id (by simp [InsightsPart.place])
    have htrending := @hold (id + 1) (by simp [InsightsPart.place])
    cases a <;> simp_all [loadAt, InsightsLoad.store, InsightsPart.place, InsightsPart.stats?,
      Except.toOption]

/-- The panel shows a load that has ended. -/
theorem finish?_loadAt (p : Insights) (number : Nat) :
    p.finish? (loadAt past number id) = (loaded? past id).map fun sections =>
      { p with
        popular := sections.1
        trending := sections.2.1
        stats := sections.2.2
        loading := false
        loads := p.loads.filter fun m => m.number != number } := by
  unfold Insights.finish? loaded? loadAt
  dsimp only
  split <;> simp_all

/-- The panel takes a part of a load: it shows the load if this ends it, and keeps the part
otherwise. -/
theorem receive_loadAt {part : InsightsPart} {number : Nat} (p : Insights)
    (hfound : p.loads.find? (fun l => l.number == number) = some (loadAt past number id))
    (h : ∀ i, x.partFor? i = if i = id + part.place then some part else none) :
    (p.receive number part).1 =
      match loaded? (x :: past) id with
      | some sections =>
        { p with
          popular := sections.1
          trending := sections.2.1
          stats := sections.2.2
          loading := false
          loads := p.loads.filter fun m => m.number != number }
      | none =>
        { p with loads := p.loads.map fun m =>
            if m.number = number then loadAt (x :: past) number id else m } := by
  simp only [Insights.receive, hfound, store_loadAt number h, finish?_loadAt]
  cases loaded? (x :: past) id <;> rfl

theorem loadsBegun_cons (h : x.beginsLoad? = none) : loadsBegun (x :: past) = loadsBegun past := by
  simp [loadsBegun, h]

theorem endedBy?_eq_none
    (h : ∀ j ∈ loadsBegun past, loaded? (x :: past) j = loaded? past j) :
    endedBy? x past = none := by
  refine List.find?_eq_none.2 fun j hj => ?_
  rw [h j hj]
  cases loaded? past j <;> simp

/-- An effect that concerns one load can end only this one. -/
theorem endedBy?_eq (hbegun : id ∈ loadsBegun past) (hopen : loaded? past id = none)
    (hothers : ∀ j ∈ loadsBegun past, j ≠ id → loaded? (x :: past) j = loaded? past j) :
    endedBy? x past = if (loaded? (x :: past) id).isSome then some id else none := by
  cases hloaded : loaded? (x :: past) id with
  | none =>
    refine endedBy?_eq_none fun j hj => ?_
    by_cases hid : j = id
    · rw [hid, hopen, hloaded]
    · exact hothers j hj hid
  | some sections =>
    have hfound : (endedBy? x past).isSome = true :=
      List.find?_isSome.2 ⟨id, hbegun, by simp [hopen, hloaded]⟩
    obtain ⟨j, hj⟩ := Option.isSome_iff_exists.1 hfound
    by_cases hid : j = id
    · rw [hj, hid]
      rfl
    · have hends := List.find?_some hj
      rw [hothers j (List.mem_of_find?_eq_some hj) hid] at hends
      cases hbefore : loaded? past j <;> simp [hbefore] at hends

/-- Whether an effect neither begins a load nor brings a part of one. -/
def Effect.Quiet (x : Effect) : Prop := x.beginsLoad? = none ∧ ∀ i, x.partFor? i = none

/-- Quiet effects leave no trace in the history of loads. -/
theorem history_append (past : List Effect) (h : ∀ x ∈ fx, x.Quiet) :
    loadsBegun (fx ++ past) = loadsBegun past ∧ loaded? (fx ++ past) = loaded? past ∧
      loadAt (fx ++ past) = loadAt past ∧ loadMarks (fx ++ past) = loadMarks past := by
  induction fx with
  | nil => exact ⟨rfl, rfl, rfl, rfl⟩
  | cons x fx ih =>
    obtain ⟨hbegins, hparts⟩ := h x List.mem_cons_self
    obtain ⟨hbegun, hloaded, hload, hmarks⟩ := ih fun y hy => h y (List.mem_cons_of_mem _ hy)
    have hsame (j : Nat) : loaded? (x :: (fx ++ past)) j = loaded? (fx ++ past) j :=
      loaded?_cons fun place _ => hparts _
    refine ⟨?_, ?_, ?_, ?_⟩
    · simpa [loadsBegun, hbegins] using hbegun
    · exact (funext hsame).trans hloaded
    · exact (funext fun n => funext fun j => loadAt_cons (fun place _ => hparts _) n).trans hload
    · simpa [loadMarks, hbegins, endedBy?_eq_none fun j _ => hsame j] using hmarks

/-- If nothing has happened to the loads since one of them began, it is the latest one. -/
theorem head_loadsBegun (h : (loadMarks past).head? = some (.began id)) :
    (loadsBegun past).head? = some id := by
  induction past with
  | nil => cases h
  | cons x past ih =>
    unfold loadMarks at h
    cases hbegins : x.beginsLoad? with
    | some j =>
      simp only [hbegins, Option.map_some, Option.some_or, Option.toList_some, List.cons_append,
        List.head?_cons, Option.some.injEq, LoadMark.began.injEq] at h
      simp [loadsBegun, hbegins, h]
    | none =>
      have hsame : loadsBegun (x :: past) = loadsBegun past := by simp [loadsBegun, hbegins]
      rw [hsame]
      cases hends : endedBy? x past with
      | some j => simp [hbegins, hends] at h
      | none => exact ih (by simpa [hbegins, hends] using h)

theorem ended_mem {marks : List LoadMark} (h : lastEnded? marks = some id) :
    .ended id ∈ marks := by
  obtain ⟨mark, hmark, hid⟩ := List.exists_of_findSome?_eq_some h
  cases mark <;> cases hid
  exact hmark

end NoteSearch
