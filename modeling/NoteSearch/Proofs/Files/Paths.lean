-- SUMMARY: The parts of a joined path are those of both paths; a file name is put together from stem and extension.
import Mathlib.Data.List.TakeWhile
import NoteSearch.Files.FilePath
import NoteSearch.Proofs.Text.Words

/-!
# Joined paths and names of files

Joining puts the parts of two paths one after the other, with or without a slash in front of the
second one. A name behind a path is the last part, and the path without it is the path again. A file
name with an extension is its stem, a dot and the extension, and nothing else.
-/

namespace NoteSearch.Files.FilePath

variable {p q dir : FilePath} {name sub : String}

/-- A text that can name a file or a directory. -/
structure IsName (name : String) : Prop where
  ne_empty : name ≠ ""
  ne_dot : name ≠ "."
  ne_parent : name ≠ ".."
  no_slash : '/' ∉ name.toList

/-! ## Pieces between slashes -/

theorem pieces_slash (t u : List Char) : Text.pieces (· == '/') (t ++ '/' :: u) =
    Text.pieces (· == '/') t ++ Text.pieces (· == '/') u := by
  simp only [Text.pieces_eq_splitOnP]
  exact List.splitOnP_append_cons t u (beq_self_eq_true '/')

theorem pieces_of_no_slash {t : List Char} (h : '/' ∉ t) : Text.pieces (· == '/') t = [t] := by
  rw [Text.pieces_eq_splitOnP]
  refine List.splitOnP_eq_singleton fun c hc => ?_
  rw [beq_eq_false_iff_ne]
  rintro rfl
  exact h hc

theorem intercalate_pieces (text : String) :
    "/".intercalate ((Text.pieces (· == '/') text.toList).map String.ofList) = text := by
  have hlists : String.toList ∘ String.ofList = id := funext fun t => String.toList_ofList
  rw [← String.toList_inj, String.toList_intercalate, List.map_map, hlists, List.map_id,
    Text.pieces_eq_splitOnP]
  exact List.intercalate_splitOn '/'

/-! ## Parts -/

theorem parts_slash (a b : String) : (⟨a ++ "/" ++ b⟩ : FilePath).parts =
    (⟨a⟩ : FilePath).parts ++ (⟨b⟩ : FilePath).parts := by
  have hchars : (a ++ "/" ++ b).toList = a.toList ++ '/' :: b.toList := by simp
  simp only [parts, hchars, pieces_slash, List.filter_append, List.map_append]

theorem IsName.isPart (h : IsName name) : isPart name.toList = true := by
  have hne : name.toList ≠ [] := mt String.toList_eq_nil_iff.1 h.ne_empty
  have hdot : name.toList ≠ ['.'] := fun hdot => h.ne_dot (String.toList_inj.1 hdot)
  simp [FilePath.isPart, hne, hdot]

theorem IsName.parts (h : IsName name) : (⟨name⟩ : FilePath).parts = [name] := by
  simp [FilePath.parts, pieces_of_no_slash h.no_slash, h.isPart]

theorem IsName.isAbsolute (h : IsName name) : (⟨name⟩ : FilePath).isAbsolute = false := by
  rw [FilePath.isAbsolute, beq_eq_false_iff_ne]
  exact fun hhead => h.no_slash (List.mem_of_head? hhead)

/-! ## Joining -/

/-- A relative path stands behind a slash, if there is anything in front of it. -/
theorem join_cases (p : FilePath) (hq : q.isAbsolute = false) :
    (p.text = "" ∧ p.join q = q) ∨
    ∃ before : String, (⟨before⟩ : FilePath).parts = p.parts ∧
      p.join q = ⟨before ++ "/" ++ q.text⟩ := by
  unfold join
  rw [if_neg (Bool.eq_false_iff.1 hq)]
  split
  · rename_i htakes
    rcases Bool.or_eq_true_iff.1 htakes with hempty | hslash
    · have htext : p.text = "" := String.isEmpty_iff.1 hempty
      exact .inl ⟨htext, by rw [htext, String.empty_append]⟩
    · obtain ⟨before, hbefore⟩ := List.getLast?_eq_some_iff.1 (beq_iff_eq.1 hslash)
      have htext : p.text = String.ofList before ++ "/" ++ "" := by
        rw [← String.toList_inj, hbefore]
        simp
      refine .inr ⟨String.ofList before, ?_, by rw [htext, String.append_empty]⟩
      calc (⟨String.ofList before⟩ : FilePath).parts
          = (⟨String.ofList before ++ "/" ++ ""⟩ : FilePath).parts := by
            rw [parts_slash]
            exact (List.append_nil _).symm
        _ = p.parts := by rw [← htext]
  · exact .inr ⟨p.text, rfl, rfl⟩

theorem parts_join (p : FilePath) (hq : q.isAbsolute = false) :
    (p.join q).parts = p.parts ++ q.parts := by
  rcases join_cases p hq with ⟨htext, hjoin⟩ | ⟨before, hbefore, hjoin⟩
  · have hparts : p.parts = [] := by
      rw [parts, htext]
      rfl
    rw [hjoin, hparts, List.nil_append]
  · rw [hjoin, parts_slash, hbefore]

theorem isAbsolute_join (p : FilePath) (hq : q.isAbsolute = false) :
    (p.join q).isAbsolute = p.isAbsolute := by
  unfold join
  rw [if_neg (Bool.eq_false_iff.1 hq)]
  cases hchars : p.text.toList with
  | nil =>
    have htext : p.text = "" := String.toList_eq_nil_iff.1 hchars
    simpa [takesName, isAbsolute, htext] using hq
  | cons c cs => split <;> simp [isAbsolute, hchars]

theorem utf8ByteSize_join (p : FilePath) (hq : q.isAbsolute = false) :
    p.text.utf8ByteSize ≤ (p.join q).text.utf8ByteSize := by
  unfold join
  rw [if_neg (Bool.eq_false_iff.1 hq)]
  split <;> simp only [String.utf8ByteSize_append] <;> omega

theorem join_text_ne_empty (p : FilePath) (h : IsName name) : (p.join ⟨name⟩).text ≠ "" := by
  intro hempty
  have hparts := parts_join p h.isAbsolute
  rw [h.parts, parts, hempty] at hparts
  simp [isPart] at hparts

/-- A path that leads to a name has the name as its last piece. -/
theorem pieces_join (p : FilePath) (h : IsName name) :
    ∃ front, Text.pieces (· == '/') (p.join ⟨name⟩).text.toList = front ++ [name.toList] := by
  rcases join_cases p h.isAbsolute with ⟨-, hjoin⟩ | ⟨before, -, hjoin⟩
  · rw [hjoin]
    exact ⟨[], pieces_of_no_slash h.no_slash⟩
  · have hchars : (before ++ "/" ++ name).toList = before.toList ++ '/' :: name.toList := by simp
    rw [hjoin, hchars, pieces_slash, pieces_of_no_slash h.no_slash]
    exact ⟨_, rfl⟩

theorem endsInDot_join (p : FilePath) (h : IsName name) : (p.join ⟨name⟩).endsInDot = false := by
  obtain ⟨front, hpieces⟩ := pieces_join p h
  have hempty : name.toList.isEmpty = false := by simp [h.ne_empty]
  have hdot : name.toList ≠ ['.'] := fun hdot => h.ne_dot (String.toList_inj.1 hdot)
  simp [endsInDot, hpieces, hempty, hdot]

theorem endsInSlash_join (p : FilePath) (h : IsName name) :
    (p.join ⟨name⟩).endsInSlash = false := by
  obtain ⟨c, hc⟩ : ∃ c, name.toList.getLast? = some c :=
    Option.isSome_iff_exists.1 (List.getLast?_isSome.2 (mt String.toList_eq_nil_iff.1 h.ne_empty))
  have hslash : c ≠ '/' := by
    rintro rfl
    exact h.no_slash (List.mem_of_getLast? hc)
  rcases join_cases p h.isAbsolute with ⟨-, hjoin⟩ | ⟨before, -, hjoin⟩
  · simp [hjoin, endsInSlash, hc, hslash]
  · simp [hjoin, endsInSlash, List.getLast?_append, List.getLast?_cons, hc, hslash]

theorem takesName_join (p : FilePath) (h : IsName name) : (p.join ⟨name⟩).takesName = false := by
  simp [takesName, endsInSlash_join p h, join_text_ne_empty p h]

theorem steps_join (p : FilePath) (h : IsName name) :
    (p.join ⟨name⟩).steps = p.parts ++ [name] := by
  simp [steps, endsInDot_join p h, endsInSlash_join p h, parts_join p h.isAbsolute, h.parts]

theorem mem_steps {step : String} (h : step ∈ p.steps) : step ∈ p.parts ∨ step = "." := by
  unfold steps at h
  split at h
  · simpa using h
  · exact .inl h

/-- The path in front of a name is the path that the name was put behind. -/
theorem parent_join (dir : FilePath) (hname : IsName name) (hsub : IsName sub) :
    ((dir.join ⟨name⟩).join ⟨sub⟩).parent = dir.join ⟨name⟩ := by
  obtain ⟨front, hpieces⟩ := pieces_join dir hname
  have htakes := takesName_join dir hname
  have hjoin : (dir.join ⟨name⟩).join ⟨sub⟩ = ⟨(dir.join ⟨name⟩).text ++ "/" ++ sub⟩ := by
    rw [join, if_neg (Bool.eq_false_iff.1 hsub.isAbsolute), if_neg (Bool.eq_false_iff.1 htakes)]
  have hchars : ((dir.join ⟨name⟩).text ++ "/" ++ sub).toList =
      (dir.join ⟨name⟩).text.toList ++ '/' :: sub.toList := by simp
  have hall := intercalate_pieces (dir.join ⟨name⟩).text
  rw [hpieces, List.map_append, List.map_singleton, String.ofList_toList] at hall
  rw [hjoin, parent, hchars, pieces_slash, pieces_of_no_slash hsub.no_slash, hpieces]
  simp [hname.isPart, hsub.isPart, hall]

/-! ## Stems and extensions -/

theorem splitName_of_no_dot {file : List Char} (h : '.' ∉ file) :
    splitName file = (file, none) := by
  have hall : file.reverse.takeWhile (· != '.') = file.reverse := by
    rw [List.takeWhile_eq_self_iff]
    intro c hc
    rw [bne_iff_ne]
    rintro rfl
    exact h (List.mem_reverse.1 hc)
  simp [splitName, hall]

/-- The last dot of a name separates its extension, unless nothing or just a dot is in front. -/
theorem splitName_append (before : List Char) {behind : List Char} (h : '.' ∉ behind) :
    splitName (before ++ '.' :: behind) =
      if before = [] ∨ before ++ '.' :: behind = ['.', '.'] then (before ++ '.' :: behind, none)
      else (before, some behind) := by
  have hplain : ∀ c ∈ behind.reverse, (c != '.') = true := by
    intro c hc
    rw [bne_iff_ne]
    rintro rfl
    exact h (List.mem_reverse.1 hc)
  have hbehind : ((before ++ '.' :: behind).reverse.takeWhile (· != '.')).reverse = behind := by
    rw [List.reverse_append, List.reverse_cons, List.append_assoc,
      List.takeWhile_append_of_pos hplain]
    simp
  have hlength : (before ++ '.' :: behind).length = behind.length + 1 + before.length := by
    simp only [List.length_append, List.length_cons]
    omega
  have hbefore : (before ++ '.' :: behind).take
      ((before ++ '.' :: behind).length - behind.length - 1) = before := by
    rw [hlength, Nat.sub_sub, Nat.add_sub_cancel_left, List.take_left]
  have hdot : (before ++ '.' :: behind).length ≠ behind.length := by omega
  simp only [splitName, hbehind, hbefore, hdot, List.isEmpty_iff, false_or]

theorem splitName_eq_iff {file before behind : List Char} :
    splitName file = (before, some behind) ↔
      '.' ∉ behind ∧ before ≠ [] ∧ file ≠ ['.', '.'] ∧ file = before ++ '.' :: behind := by
  constructor
  · intro h
    by_cases hdot : '.' ∈ file
    · obtain ⟨last, first, hsplit, hlast⟩ :=
        List.eq_append_cons_of_mem (List.mem_reverse.2 hdot)
      have hfile : file = first.reverse ++ '.' :: last.reverse := by
        rw [← List.reverse_reverse file, hsplit]
        simp
      have hbehind : '.' ∉ last.reverse := fun hmem => hlast (List.mem_reverse.1 hmem)
      rw [hfile, splitName_append _ hbehind] at h
      split at h
      · cases h
      · rename_i hne
        cases h
        rw [not_or] at hne
        exact ⟨hbehind, hne.1, hfile ▸ hne.2, hfile⟩
    · rw [splitName_of_no_dot hdot] at h
      cases h
  · rintro ⟨hbehind, hbefore, hne, rfl⟩
    rw [splitName_append _ hbehind, if_neg (not_or.2 ⟨hbefore, hne⟩)]

end NoteSearch.Files.FilePath
