-- SUMMARY: Requests, drafts and saved searches are read back from their documents.
import Mathlib.Data.List.Nodup
import NoteSearch.Wire.SavedSearch
import NoteSearch.Proofs.Json.Documents
import NoteSearch.Proofs.Calendar.TimestampText

/-!
# Records are read back

A record is written as an object with all of its fields, so a reader that looks for just these
fields finds each of them once (`fields?_ofMembers`). What is left is that each field is read as it
is written, which holds of all but instants: those are read in plain years only.
-/

namespace NoteSearch.Wire

open Json Calendar
open Json.Tree (IsWritten fields? findMember? countMember)
open Date (IsPlainYear)
open Text (bind_of_eq_some)

/-! ## Fields -/

theorem findMember?_of_mem {l : List (String × Tree)} (hl : (l.map Prod.fst).Nodup)
    {m : String × Tree} (hm : m ∈ l) :
    findMember? m.1 (l.map fun m => (some m.1, m.2)) = some m.2 := by
  induction l with
  | nil => cases hm
  | cons first rest ih =>
    obtain ⟨hfresh, hrest⟩ := List.nodup_cons.1 hl
    rcases List.mem_cons.1 hm with rfl | hm
    · simp [findMember?]
    · have hother : first.1 ≠ m.1 := fun h => hfresh (h ▸ List.mem_map_of_mem hm)
      simpa [findMember?, hother] using ih hrest hm

theorem countMember_le_one {l : List (String × Tree)} (hl : (l.map Prod.fst).Nodup)
    (name : String) : countMember name (l.map fun m => (some m.1, m.2)) ≤ 1 := by
  have hcount : countMember name (l.map fun m => (some m.1, m.2)) =
      (l.map Prod.fst).count name := by
    simp [countMember, List.count, List.countP_map, Function.comp_def]
  rw [hcount]
  exact List.nodup_iff_count_le_one.1 hl name

/-- All fields of a record are found in the object that it is written as. -/
theorem fields?_ofMembers {l : List (String × Tree)} {names : List String} (hnames : names.Nodup)
    (hl : l.map Prod.fst = names) (least : Nat) :
    fields? names least (ofMembers l) = some (l.map fun m => some m.2) := by
  subst hl
  have htext : (l.map fun m => (some m.1, m.2)).all (·.1.isSome) = true := by simp
  have honce : (l.map Prod.fst).all
      (countMember · (l.map fun m => (some m.1, m.2)) ≤ 1) = true := by
    simp [countMember_le_one hnames]
  have hfound : ∀ m ∈ l, findMember? m.1 (l.map fun m => (some m.1, m.2)) = some m.2 :=
    fun m => findMember?_of_mem hnames
  simpa [ofMembers, fields?, htext, honce] using hfound

/-! ## Fields of one type -/

variable {α : Type} {read : Reader α} {write : α → Tree}

theorem required_of_eq {t : Tree} {a : α} (h : read t = some a) :
    Reader.required read (some t) = some a := h

theorem withDefault_of_eq {t : Tree} {default a : α} (h : read t = some a) :
    Reader.withDefault read default (some t) = some a := h

theorem optional_ofOption_none : Reader.optional read (some (ofOption write none)) = some none :=
  rfl

theorem optional_ofOption_some (hnull : ∀ a, write a ≠ .null) (a : α) :
    Reader.optional read (some (ofOption write (some a))) = (read (write a)).map some := by
  show Reader.option read (write a) = _
  cases ht : write a with
  | null => exact absurd ht (hnull a)
  | _ => rfl

/-- A field that may be absent is read back, as no value that it has is written `null`. -/
@[simp] theorem optional_ofOption (h : ∀ a, read (write a) = some a) (hnull : ∀ a, write a ≠ .null)
    (a : Option α) : Reader.optional read (some (ofOption write a)) = some a := by
  cases a with
  | none => exact optional_ofOption_none
  | some a =>
    rw [optional_ofOption_some hnull, h]
    rfl

@[simp] theorem ofString_ne_null (s : String) : ofString s ≠ .null := by
  simp [ofString]

theorem bool_ne_null (b : Bool) : Tree.bool b ≠ .null := by
  simp

@[simp] theorem ofStrings_ne_null (l : List String) : ofStrings l ≠ .null := by
  simp [ofStrings]

@[simp] theorem bool_bool (b : Bool) : Reader.bool (.bool b) = some b := by
  simp [Reader.bool]

@[simp] theorem string_ofString (s : String) : Reader.string (ofString s) = some s := by
  simp [Reader.string, ofString]

theorem list_map {l : List α} (h : ∀ a ∈ l, read (write a) = some a) :
    Reader.list read (.array (l.map write)) = some l := by
  show Reader.items read (l.map write) = some l
  induction l with
  | nil => rfl
  | cons a l ih =>
    rw [List.forall_mem_cons] at h
    simp [Reader.items, h.1, ih h.2]

@[simp] theorem strings_ofStrings (l : List String) :
    Reader.list Reader.string (ofStrings l) = some l :=
  list_map fun s _ => string_ofString s

theorem int_ofInt (i : Int) : Reader.int (.number (.ofInt i)) = some i := by
  simp only [Reader.int, Number.toInt?, Number.ofInt, Number.digitsValue,
    Nat.ofDigitChars_ten_toDigits, decide_eq_true_eq]
  split
  · rw [if_neg (by omega)]
    congr
    omega
  · congr
    omega

theorem int_ofNat (n : Nat) : Reader.int (ofNat n) = some (n : Int) := int_ofInt n

@[simp] theorem uint32_ofNat (n : UInt32) : Reader.uint32 (ofNat n.toNat) = some n := by
  have hn : (n.toNat : Int) < UInt32.size := by exact_mod_cast n.toNat_lt
  rw [Reader.uint32, int_ofNat, Option.bind_some, if_pos ⟨Int.natCast_nonneg _, hn⟩,
    Int.toNat_natCast, UInt32.ofNat_toNat]

@[simp] theorem int64_ofInt64 (i : Int64) : Reader.int64 (ofInt64 i) = some i := by
  have hlow : Int64.minValue.toInt ≤ i.toInt := Int64.le_iff_toInt_le.1 (Int64.minValue_le i)
  have hhigh : i.toInt ≤ Int64.maxValue.toInt := Int64.le_iff_toInt_le.1 (Int64.le_maxValue i)
  rw [Reader.int64, ofInt64, int_ofInt, Option.bind_some, if_pos ⟨hlow, hhigh⟩, Int64.ofInt_toInt]

@[simp] theorem tagMode_toText (m : TagMode) : tagMode (ofString m.toText) = some m := by
  cases m <;> rfl

@[simp] theorem noteType_toText (k : NoteType) : noteType (ofString k.toText) = some k := by
  cases k <;> rfl

@[simp] theorem date_toText (d : Date) : date (ofString d.toText) = some d := by
  rw [date, string_ofString, Option.bind_some, Date.ofText?_toText]

theorem timestamp_toText (t : Timestamp) :
    timestamp (ofString t.toText) = if IsPlainYear t.date.year then some t else none := by
  rw [timestamp, string_ofString, Option.bind_some, Timestamp.ofText?_toText]

/-! ## Records -/

theorem request_ofRequest (r : Request) : request (ofRequest r) = some r := by
  have hnames : requestFields.Nodup := by decide
  have hfields : (ofRequest r).fields? requestFields 0 = some _ := fields?_ofMembers hnames rfl 0
  have htext := optional_ofOption string_ofString ofString_ne_null
  have htags := optional_ofOption strings_ofStrings ofStrings_ne_null
  have htype := optional_ofOption noteType_toText fun k => ofString_ne_null k.toText
  have hdate := optional_ofOption date_toText fun d => ofString_ne_null d.toText
  have hflag := optional_ofOption bool_bool bool_ne_null
  refine bind_of_eq_some hfields ?_
  refine bind_of_eq_some (htext r.query) ?_
  refine bind_of_eq_some (htags r.tags) ?_
  refine bind_of_eq_some (withDefault_of_eq (tagMode_toText r.tagMode)) ?_
  refine bind_of_eq_some (htags r.excludedTags) ?_
  refine bind_of_eq_some (htype r.noteType) ?_
  refine bind_of_eq_some (hdate r.created.after) ?_
  refine bind_of_eq_some (hdate r.created.before) ?_
  refine bind_of_eq_some (hdate r.updated.after) ?_
  refine bind_of_eq_some (hdate r.updated.before) ?_
  refine bind_of_eq_some (withDefault_of_eq (bool_bool r.titleOnly)) ?_
  refine bind_of_eq_some (hflag r.hasAttachments) ?_
  refine bind_of_eq_some (withDefault_of_eq (string_ofString r.sortBy)) ?_
  refine bind_of_eq_some (withDefault_of_eq (uint32_ofNat r.page)) ?_
  exact bind_of_eq_some (withDefault_of_eq (uint32_ofNat r.perPage)) rfl

theorem draft_ofDraft (d : SavedSearch.Draft) : draft (ofDraft d) = some d := by
  have hnames : ["name", "search_query"].Nodup := by decide
  have hfields : (ofDraft d).fields? ["name", "search_query"] 0 = some _ :=
    fields?_ofMembers hnames rfl 0
  refine bind_of_eq_some hfields ?_
  refine bind_of_eq_some (required_of_eq (string_ofString d.name)) ?_
  exact bind_of_eq_some (required_of_eq (request_ofRequest d.request)) rfl

/-- An instant, if there is one, is in a year that is written without a sign. -/
def IsPlainTime (t : Option Timestamp) : Prop := ∀ u ∈ t, IsPlainYear u.date.year

instance (t : Option Timestamp) : Decidable (IsPlainTime t) :=
  inferInstanceAs (Decidable (∀ u ∈ t, IsPlainYear u.date.year))

theorem isPlainTime_none : IsPlainTime none := by
  simp [IsPlainTime]

theorem isPlainTime_some {t : Timestamp} : IsPlainTime (some t) ↔ IsPlainYear t.date.year := by
  simp [IsPlainTime]

theorem optional_timestamp (t : Option Timestamp) :
    Reader.optional timestamp (some (ofOption (fun t => ofString t.toText) t)) =
      if IsPlainTime t then some t else none := by
  have hnull (u : Timestamp) : ofString u.toText ≠ .null := ofString_ne_null _
  cases t with
  | none => rw [optional_ofOption_none, if_pos isPlainTime_none]
  | some t =>
    rw [optional_ofOption_some hnull, timestamp_toText]
    simp only [isPlainTime_some]
    split <;> rfl

/-- Two instants are read if both are in years that are written without a sign. -/
theorem bind_optional_timestamp {α : Type} (t u : Option Timestamp)
    (f : Option Timestamp → Option Timestamp → Option α) :
    (do
      let t ← Reader.optional timestamp (some (ofOption (fun t => ofString t.toText) t))
      let u ← Reader.optional timestamp (some (ofOption (fun t => ofString t.toText) u))
      f t u) = if IsPlainTime t ∧ IsPlainTime u then f t u else none := by
  rw [optional_timestamp, optional_timestamp]
  by_cases ht : IsPlainTime t
  · by_cases hu : IsPlainTime u
    · simp [ht, hu]
    · simp [ht, hu]
  · simp [ht]

/-- All instants of a saved search are in years that are written without a sign. -/
def HasPlainTimes (s : SavedSearch) : Prop := IsPlainTime s.lastUsedAt ∧ IsPlainTime s.createdAt

instance (s : SavedSearch) : Decidable (HasPlainTimes s) :=
  inferInstanceAs (Decidable (IsPlainTime s.lastUsedAt ∧ IsPlainTime s.createdAt))

theorem savedSearch_ofSavedSearch (s : SavedSearch) :
    savedSearch (ofSavedSearch s) = if HasPlainTimes s then some s else none := by
  have hnames : savedSearchFields.Nodup := by decide
  have hfields : (ofSavedSearch s).fields? savedSearchFields 0 = some _ :=
    fields?_ofMembers hnames rfl 0
  refine bind_of_eq_some hfields ?_
  refine bind_of_eq_some (required_of_eq (int64_ofInt64 s.id)) ?_
  refine bind_of_eq_some (required_of_eq (string_ofString s.name)) ?_
  refine bind_of_eq_some (required_of_eq (request_ofRequest s.request)) ?_
  refine bind_of_eq_some (withDefault_of_eq (uint32_ofNat s.useCount)) ?_
  exact bind_optional_timestamp s.lastUsedAt s.createdAt _

/-! ## Documents of records -/

@[simp] theorem isWritten_ofString (s : String) : (ofString s).IsWritten :=
  Tree.isWritten_string.2 rfl

@[simp] theorem isWritten_ofStrings (l : List String) : (ofStrings l).IsWritten := by
  simp [ofStrings]

@[simp] theorem isWritten_ofNat (n : Nat) : (ofNat n).IsWritten :=
  Tree.isWritten_number.2 (Number.isLiteral_ofNat n)

@[simp] theorem isWritten_ofInt64 (i : Int64) : (ofInt64 i).IsWritten :=
  Tree.isWritten_number.2 (Number.isLiteral_ofInt _)

@[simp] theorem isWritten_ofOption (h : ∀ a, (write a).IsWritten) (a : Option α) :
    (ofOption write a).IsWritten := by
  cases a with
  | none => exact Tree.isWritten_null
  | some a => exact h a

@[simp] theorem isWritten_ofMembers {l : List (String × Tree)} :
    (ofMembers l).IsWritten ↔ ∀ m ∈ l, m.2.IsWritten := by
  simp only [ofMembers, Tree.isWritten_object, List.forall_mem_map, Option.isSome_some, true_and]

theorem isWritten_ofRequest (r : Request) : (ofRequest r).IsWritten := by
  simp [ofRequest]

theorem isWritten_ofDraft (d : SavedSearch.Draft) : (ofDraft d).IsWritten := by
  simp [ofDraft, isWritten_ofRequest]

theorem isWritten_ofSavedSearch (s : SavedSearch) : (ofSavedSearch s).IsWritten := by
  simp [ofSavedSearch, isWritten_ofRequest]

end NoteSearch.Wire
