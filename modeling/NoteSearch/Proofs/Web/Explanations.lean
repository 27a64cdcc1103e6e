-- SUMMARY: What the user is told of an error: the texts that the service gives, even if several are all blank.
import NoteSearch.Proofs.Text.Utf8
import NoteSearch.Web.Client

/-!
# Explanations of errors

The detail in the body of an error is a text or a list of objects with messages, and the user is
told the text, or the messages with separators between them. A blank explanation is none, so one
blank text is left aside as if it had not been given. But the test comes after the separators, and a
separator is not blank: two blank messages or more are shown, and nothing but blanks and separators
is seen of them (`Client.explanations_shown_iff`).

All this holds of the text in the body, whatever its encoding is and whatever the encodings with
tables make of its bytes.
-/

namespace NoteSearch

/-- Why a call failed, if it did. -/
def failureOf {α : Type} : Except Failure α → Option Failure
  | .ok _ => none
  | .error f => some f

/-- Why the call failed that a reply answers, if it did. -/
def Reply.failure? : Reply → Option Failure
  | .search r => failureOf r
  | .suggestions r => failureOf r
  | .listSaved r => failureOf r
  | .createSaved r => failureOf r
  | .executeSaved r => failureOf r
  | .deleteSaved r => failureOf r
  | .popular r => failureOf r
  | .trending r => failureOf r
  | .stats r => failureOf r
  | .notes r => failureOf r

namespace Web.Client

open Json

variable {texts : List String} {r : HttpResponse} (tables : Tables)

/-! ## Joined texts -/

/-- Several texts with separators between them. -/
def joined (texts : List String) : String := "; ".intercalate texts

/-- Texts that are blank and are not held apart by a separator. -/
def NothingShown (texts : List String) : Prop :=
  texts.length ≤ 1 ∧ ∀ text ∈ texts, Text.isBlankString text = true

instance (texts : List String) : Decidable (NothingShown texts) :=
  inferInstanceAs (Decidable (_ ∧ _))

theorem isBlankString_append (s t : String) :
    Text.isBlankString (s ++ t) = (Text.isBlankString s && Text.isBlankString t) := by
  simp [Text.isBlankString]

/-- A separator is not blank, so the joined texts are blank only if there is none. -/
theorem isBlankString_joined (texts : List String) :
    Text.isBlankString (joined texts) = true ↔ NothingShown texts := by
  match texts with
  | [] => simp [joined, NothingShown, Text.isBlankString]
  | [text] => simp [joined, NothingShown]
  | first :: second :: rest =>
    have hseparator : Text.isBlankString "; " = false := by decide +kernel
    simp [joined, NothingShown, isBlankString_append, hseparator]

/-! ## Texts of bodies -/

theorem decodeUtf8_bytes (text : String) :
    String.ofList (Charset.decodeUtf8 (Form.bytes text)) = text := by
  rw [Charset.decodeUtf8, Form.bytes, Text.Utf8.read_encode, List.map_map]
  exact (congrArg String.ofList (List.map_id _)).trans String.ofList_toList

/-- The bytes of a text do not begin like UTF-16. -/
theorem bytes_ne_utf16 (text : String) (t : List UInt8) :
    Form.bytes text ≠ 0xFF :: 0xFE :: t ∧ Form.bytes text ≠ 0xFE :: 0xFF :: t := by
  have hread := Text.Utf8.read_encode text.toList
  have hgap (b : UInt8) (hb : (Text.Utf8.start b.toNat).1 = [none]) (t : List UInt8) :
      Form.bytes text ≠ b :: t := by
    intro hbytes
    rw [← Form.bytes, hbytes, Text.Utf8.read, hb] at hread
    cases hchars : text.toList <;> simp [hchars] at hread
  exact ⟨hgap _ (by decide) _, hgap _ (by decide) _⟩

/-- Unless it begins with a byte order mark, a text is the text of its bytes. -/
theorem bodyText_bytes {text : String} (h : text.toList.head? ≠ some '\uFEFF') (status : UInt16) :
    bodyText tables { status, body := Form.bytes text } = text := by
  have hread := Text.Utf8.read_encode text.toList
  show Charset.decode tables .utf8 (Form.bytes text) = text
  unfold Charset.decode
  split
  · rename_i t hbytes
    have hmark := Text.Utf8.read_three (v := 0xFEFF) (by omega) (by omega) (by omega) t
    rw [← Form.bytes, hbytes] at hread
    have hhead := congrArg List.head? (hmark.symm.trans hread)
    rw [List.head?_cons, List.head?_map, eq_comm, Option.map_eq_some_iff] at hhead
    obtain ⟨c, hc, hmark⟩ := hhead
    rw [Option.some.inj hmark] at hc
    exact absurd hc h
  · exact absurd ‹_› (bytes_ne_utf16 text _).1
  · exact absurd ‹_› (bytes_ne_utf16 text _).2
  · exact decodeUtf8_bytes text

/-- Behind a byte order mark every text can come, whatever encoding is named. -/
theorem bodyText_marked (text : String) (status : UInt16) (contentType : Option String) :
    bodyText tables { status, contentType, body := 0xEF :: 0xBB :: 0xBF :: Form.bytes text } =
      text := decodeUtf8_bytes text

/-! ## Texts of the service -/

/-- The texts in the detail of an error: the detail itself, or the messages of a list. -/
def textsOf : Value → List String
  | .string text => [text]
  | .array items => messages items
  | _ => []

/-- The detail in the body of an error, if the body is an object that has one. -/
def detail? (body : String) : Option Value := do
  let doc ← Tree.ofText? body
  let [detail] ← doc.fields? ["detail"] 1 | none
  Value.ofTree? (Value.maxDepth - 1) (← detail)

/-- The texts that the service has put into the body of an error. -/
def servedTexts (r : HttpResponse) : List String :=
  ((detail? (bodyText tables r)).map textsOf).getD []

theorem explanationText?_eq (detail : Value) : explanationText? detail =
    if textsOf detail = [] then none else some (joined (textsOf detail)) := by
  cases detail with
  | string text => simp [explanationText?, textsOf, joined]
  | array items => cases h : messages items <;> simp [explanationText?, textsOf, joined, h]
  | null | bool _ | int _ | float _ | object _ => rfl

theorem explanation?_eq (body : String) :
    explanation? body = (detail? body).bind explanationText? := by
  unfold explanation? detail?
  cases Tree.ofText? body with
  | none => rfl
  | some doc =>
    cases hfields : doc.fields? ["detail"] 1 with
    | none => simp [hfields]
    | some fields => rcases fields with _ | ⟨_ | detail, _ | ⟨_, _⟩⟩ <;> simp [hfields]

/-- The user is told the texts of the service, or the fallback if the texts show nothing. -/
theorem userMessage_failure (r : HttpResponse) (fallback : String) :
    (failure tables r).userMessage fallback =
      if NothingShown (servedTexts tables r) then fallback else joined (servedTexts tables r) := by
  have hnone : NothingShown [] := by simp [NothingShown]
  rw [failure, explanation?_eq, servedTexts]
  cases detail? (bodyText tables r) with
  | none => simp [Failure.userMessage, Failure.explanation?, hnone]
  | some detail =>
    simp only [Option.bind_some, explanationText?_eq, Option.map_some, Option.getD_some]
    by_cases hempty : textsOf detail = []
    · simp [hempty, Failure.userMessage, Failure.explanation?, hnone]
    · simp only [if_neg hempty, Failure.userMessage, Failure.explanation?, Text.nonBlank?,
        isBlankString_joined]
      split <;> rfl

/-- Any response that is no success is the failure of the call that it answers. -/
theorem failure?_reply (c : Client) (call : Call) (h : r.isSuccess = false) :
    (c.reply tables call (some r)).failure? = some (failure tables r) := by
  cases call <;> simp [reply, value, acknowledged, h, Reply.failure?, failureOf]

/-! ## What is shown -/

/-- A message that shows the texts, one of which has a character that is not blank. -/
def ShowsTexts (texts : List String) (message : String) : Prop :=
  message = joined texts ∧ ∃ text ∈ texts, ∃ c ∈ text.toList, Text.isBlank c = false

/-- Two texts or more, each of them blank. -/
def AllBlank (texts : List String) : Prop :=
  2 ≤ texts.length ∧ ∀ text ∈ texts, Text.isBlankString text = true

instance (texts : List String) : Decidable (AllBlank texts) :=
  inferInstanceAs (Decidable (_ ∧ _))

theorem AllBlank.not_nothingShown (h : AllBlank texts) : ¬ NothingShown texts := by
  rintro ⟨hfew, -⟩
  exact absurd h.1 (by omega)

theorem showsTexts_joined (hshown : ¬ NothingShown texts) (hblank : ¬ AllBlank texts) :
    ShowsTexts texts (joined texts) := by
  by_cases hall : ∀ text ∈ texts, Text.isBlankString text = true
  · have hfew : ¬ 2 ≤ texts.length := fun hmany => hblank ⟨hmany, hall⟩
    exact absurd ⟨by omega, hall⟩ hshown
  · exact ⟨rfl, by simpa [Text.isBlankString] using hall⟩

theorem not_showsTexts (hblank : AllBlank texts) (message : String) :
    ¬ ShowsTexts texts message := by
  rintro ⟨-, text, htext, c, hc, hsome⟩
  have hall : ∀ c ∈ text.toList, Text.isBlank c = true := by
    simpa [Text.isBlankString] using hblank.2 text htext
  rw [hall c hc] at hsome
  cases hsome

/-- Of blank texts nothing is seen but the separators between them. -/
theorem mem_joined (h : ∀ text ∈ texts, Text.isBlankString text = true) :
    ∀ c ∈ (joined texts).toList, Text.isBlank c = true ∨ c = ';' := by
  have hseparator : ∀ c ∈ "; ".toList, Text.isBlank c = true ∨ c = ';' := by
    simp [Text.isBlank]
  induction texts with
  | nil => simp [joined]
  | cons first rest ih =>
    rw [List.forall_mem_cons] at h
    have hfirst : ∀ c ∈ first.toList, Text.isBlank c = true := by
      simpa [Text.isBlankString] using h.1
    cases rest with
    | nil =>
      intro c hc
      exact .inl (hfirst c (by simpa [joined] using hc))
    | cons second rest =>
      intro c hc
      simp only [joined, String.intercalate_cons_cons, String.toList_append, List.mem_append] at hc
      rcases hc with (hc | hc) | hc
      · exact .inl (hfirst c hc)
      · exact hseparator c hc
      · exact ih h.2 c hc

/-- Every call that is answered without success fails, and the user is told the texts that the
service has put into the body, with separators between them, or the fallback if there is no text or
a single one that is blank. So the user is told the fallback or sees a character of the service that
is not blank, unless there are two texts or more and all of them are blank: then nothing but blanks
and separators is seen. -/
theorem explanations_shown_iff (tables : Tables) (c : Client) (call : Call) (r : HttpResponse)
    (h : r.isSuccess = false) :
    (c.reply tables call (some r)).failure? = some (failure tables r) ∧
    (∀ fallback, (failure tables r).userMessage fallback =
      if NothingShown (servedTexts tables r) then fallback else joined (servedTexts tables r)) ∧
    ((∀ fallback, (failure tables r).userMessage fallback = fallback ∨
        ShowsTexts (servedTexts tables r) ((failure tables r).userMessage fallback)) ↔
      ¬ AllBlank (servedTexts tables r)) ∧
    (AllBlank (servedTexts tables r) → ∀ fallback,
      ∀ c ∈ ((failure tables r).userMessage fallback).toList, Text.isBlank c = true ∨ c = ';') := by
  refine ⟨failure?_reply tables c call h, userMessage_failure tables r, ⟨fun hshown hblank => ?_,
    fun hblank fallback => ?_⟩, fun hblank fallback c => ?_⟩
  · have hempty : (failure tables r).userMessage "" = "" :=
      (hshown "").resolve_right (not_showsTexts hblank _)
    rw [userMessage_failure, if_neg hblank.not_nothingShown] at hempty
    have hnothing : Text.isBlankString (joined (servedTexts tables r)) = true := by rw [hempty]; rfl
    exact hblank.not_nothingShown ((isBlankString_joined _).1 hnothing)
  · rw [userMessage_failure]
    split
    · exact .inl rfl
    · exact .inr (showsTexts_joined ‹_› hblank)
  · rw [userMessage_failure, if_neg hblank.not_nothingShown]
    exact mem_joined hblank.2 c

/-- One message of two is blank, and the other one is told with what stands before it. -/
theorem explanation_with_blank_message :
    let body := "\x7b\"detail\":[\x7b\"msg\":\" \"\x7d,\x7b\"msg\":\"must be positive\"\x7d]\x7d"
    let r : HttpResponse := { status := 422, body := Form.bytes body }
    let tables : Tables := fun _ bytes => bytes.map fun _ => replacement
    r.isSuccess = false ∧ servedTexts tables r = [" ", "must be positive"] ∧
      ((of "http://localhost:8000/api" none).reply tables .stats (some r)).failure? =
        some (failure tables r) ∧
      (failure tables r).userMessage "Search failed" = " ; must be positive" := by
  intro body r tables
  have hfailed : r.isSuccess = false := by decide
  have htexts : servedTexts tables r = [" ", "must be positive"] := by
    rw [servedTexts, bodyText_bytes tables (by decide +kernel)]
    decide +kernel
  obtain ⟨hreply, hmessage, -, -⟩ :=
    explanations_shown_iff tables (of "http://localhost:8000/api" none) .stats r hfailed
  refine ⟨hfailed, htexts, hreply, ?_⟩
  rw [hmessage, htexts]
  decide +kernel

/-- Two messages are empty, and the user is told the separator between them. -/
theorem explanation_of_empty_messages :
    let body := "\x7b\"detail\":[\x7b\"msg\":\"\"\x7d,\x7b\"msg\":\"\"\x7d]\x7d"
    let r : HttpResponse := { status := 422, body := Form.bytes body }
    let tables : Tables := fun _ bytes => bytes.map fun _ => replacement
    let message := (failure tables r).userMessage "Search failed"
    r.isSuccess = false ∧ servedTexts tables r = ["", ""] ∧ message = "; " ∧
      ¬ (message = "Search failed" ∨ ShowsTexts (servedTexts tables r) message) := by
  intro body r tables message
  have htexts : servedTexts tables r = ["", ""] := by
    rw [servedTexts, bodyText_bytes tables (by decide +kernel)]
    decide +kernel
  have hmessage : message = "; " := by decide +kernel
  refine ⟨by decide, htexts, hmessage, ?_⟩
  rintro (hfallback | hshown)
  · rw [hmessage] at hfallback
    exact absurd hfallback (by decide)
  · rw [htexts] at hshown
    exact not_showsTexts (by decide +kernel) message hshown

end Web.Client

end NoteSearch
