import Mathlib.Logic.Relation
import TaggerFeatures.Proofs.Architecture.Expansion

/-!
Blanks beside commas and parentheses, and at the ends of a text. Every text has a form without them,
and cutting an architecture into tokens and expanding its macros come to the same for both.
-/
namespace TaggerFeatures.Architecture
open Text

def isDelimiter (c : Char) : Bool := c == '(' || c == ')' || c == ','

/-- The second text is the first one with blanks put at an end or beside a delimiter. -/
inductive Widens : List Char → List Char → Prop
  | front {b s} : AllBlank b → Widens s (b ++ s)
  | back {b s} : AllBlank b → Widens s (s ++ b)
  | behind {b s d t} : AllBlank b → isDelimiter d = true → Widens (s ++ d :: t) (s ++ d :: (b ++ t))
  | before {b s d t} : AllBlank b → isDelimiter d = true → Widens (s ++ d :: t) (s ++ (b ++ d :: t))

/-- One text comes from the other one by putting blanks beside delimiters and at the ends, and by
taking some away there. -/
def Respaced (arch arch' : String) : Prop := Relation.EqvGen Widens arch.toList arch'.toList

/-- The rest of a text behind characters that are no delimiters, without blanks beside delimiters
and at the ends. -/
def squeezeBehind : (plain : List Char) → List Char → List Char
  | plain, [] => trim plain
  | plain, c :: cs =>
    if isDelimiter c then trim plain ++ c :: squeezeBehind [] cs
    else squeezeBehind (plain ++ [c]) cs

/-- The text without blanks beside delimiters and at the ends. -/
def squeeze (s : List Char) : List Char := squeezeBehind [] s

def squeezed (arch : String) : String := String.ofList (squeeze arch.toList)

variable {d : Char} {p s t b : List Char} {inside : Bool}

/-! ## Texts between delimiters -/

theorem isPlain_iff : IsPlain s ↔ ∀ c ∈ s, isDelimiter c = false := by
  simp only [IsPlain, isDelimiter, Bool.or_eq_false_iff, beq_eq_false_iff_ne, and_assoc]

theorem IsPlain.append (hs : IsPlain s) (ht : IsPlain t) : IsPlain (s ++ t) :=
  List.forall_mem_append.mpr ⟨hs, ht⟩

theorem isBlank_of_isDelimiter (hd : isDelimiter d = true) : isBlank d = false := by
  simp only [isDelimiter, Bool.or_eq_true, beq_iff_eq] at hd
  rcases hd with (rfl | rfl) | rfl <;> rfl

/-- A text has no delimiters, or has a first one. -/
@[elab_as_elim]
theorem delimiter_induction {motive : List Char → Prop} (plain : ∀ p, IsPlain p → motive p)
    (cons : ∀ p d s, IsPlain p → isDelimiter d = true → motive s → motive (p ++ d :: s))
    (s : List Char) : motive s := by
  -- The characters in front of the next delimiter go from `s` to `p` one by one.
  suffices h : ∀ p, IsPlain p → motive (p ++ s) from h [] (List.forall_mem_nil _)
  induction s with
  | nil =>
      intro p hp
      rw [List.append_nil]
      exact plain p hp
  | cons c cs ih =>
      intro p hp
      by_cases hc : isDelimiter c = true
      · exact cons p c cs hp hc (ih [] (List.forall_mem_nil _))
      · have hpc : IsPlain (p ++ [c]) := hp.append (isPlain_iff.mpr (by simpa using hc))
        have h := ih (p ++ [c]) hpc
        rwa [List.append_assoc] at h

/-! ## Without blanks -/

theorem squeezeBehind_plain_append (hp : IsPlain p) (q s : List Char) :
    squeezeBehind q (p ++ s) = squeezeBehind (q ++ p) s := by
  induction p generalizing q with
  | nil => rw [List.nil_append, List.append_nil]
  | cons c cs ih =>
      have hplain := isPlain_iff.mp hp
      rw [List.cons_append, squeezeBehind, if_neg (by simp [hplain c]),
        ih (isPlain_cons.mp hp).2, List.append_assoc]
      rfl

theorem squeeze_plain (hp : IsPlain p) : squeeze p = trim p := by
  have h := squeezeBehind_plain_append hp [] []
  rwa [List.append_nil] at h

theorem squeeze_plain_append_cons (hp : IsPlain p) (hd : isDelimiter d = true) (s : List Char) :
    squeeze (p ++ d :: s) = trim p ++ d :: squeeze s := by
  rw [squeeze, squeezeBehind_plain_append hp, squeezeBehind, if_pos hd]
  rfl

theorem squeeze_append_cons (hd : isDelimiter d = true) (s t : List Char) :
    squeeze (s ++ d :: t) = squeeze s ++ d :: squeeze t := by
  induction s using delimiter_induction with
  | plain p hp => rw [squeeze_plain_append_cons hp hd, squeeze_plain hp]
  | cons p d' s hp hd' ih =>
      rw [List.append_assoc, List.cons_append, squeeze_plain_append_cons hp hd', ih,
        squeeze_plain_append_cons hp hd', List.append_assoc, List.cons_append]

theorem squeeze_blank_append (hb : AllBlank b) (s : List Char) : squeeze (b ++ s) = squeeze s := by
  have hplain := isPlain_of_allBlank hb
  induction s using delimiter_induction with
  | plain p hp => rw [squeeze_plain (hplain.append hp), squeeze_plain hp, trim_blank_append hb]
  | cons p d s hp hd _ =>
      rw [← List.append_assoc, squeeze_plain_append_cons (hplain.append hp) hd,
        squeeze_plain_append_cons hp hd, trim_blank_append hb]

theorem squeeze_append_blank (hb : AllBlank b) (s : List Char) : squeeze (s ++ b) = squeeze s := by
  induction s using delimiter_induction with
  | plain p hp =>
      rw [squeeze_plain (hp.append (isPlain_of_allBlank hb)), squeeze_plain hp,
        trim_append_blank hb]
  | cons p d s hp hd ih =>
      rw [List.append_assoc, List.cons_append, squeeze_plain_append_cons hp hd,
        squeeze_plain_append_cons hp hd, ih]

theorem Widens.squeeze_eq (h : Widens s t) : squeeze s = squeeze t := by
  cases h with
  | front hb => rw [squeeze_blank_append hb]
  | back hb => rw [squeeze_append_blank hb]
  | behind hb hd => rw [squeeze_append_cons hd, squeeze_append_cons hd, squeeze_blank_append hb]
  | before hb hd =>
      rw [← List.append_assoc, squeeze_append_cons hd, squeeze_append_cons hd,
        squeeze_append_blank hb]

theorem squeeze_eq_of_eqvGen (h : Relation.EqvGen Widens s t) : squeeze s = squeeze t := by
  induction h with
  | rel s t h => exact h.squeeze_eq
  | refl s => rfl
  | symm s t _ ih => exact ih.symm
  | trans s t u _ _ ih ih' => exact ih.trans ih'

theorem Respaced.squeezed_eq {arch arch' : String} (h : Respaced arch arch') :
    squeezed arch = squeezed arch' :=
  congrArg String.ofList (squeeze_eq_of_eqvGen h)

theorem squeeze_trim (s : List Char) : squeeze (trim s) = squeeze s := by
  obtain ⟨b, b', hb, hb', h⟩ := exists_trim s
  conv => rhs; rw [h]
  rw [squeeze_blank_append hb, squeeze_append_blank hb']

theorem trimEnd_squeeze (s : List Char) : trimEnd (squeeze s) = squeeze s := by
  induction s using delimiter_induction with
  | plain p hp => rw [squeeze_plain hp, trimEnd_trim]
  | cons p d s hp hd ih =>
      rw [squeeze_plain_append_cons hp hd, trimEnd_append_cons (isBlank_of_isDelimiter hd), ih]

theorem trim_squeeze (s : List Char) : trim (squeeze s) = squeeze s := by
  induction s using delimiter_induction with
  | plain p hp => rw [squeeze_plain hp, trim_trim]
  | cons p d s hp hd _ =>
      rw [squeeze_plain_append_cons hp hd, trim_append_cons (isBlank_of_isDelimiter hd),
        trimStart_trim, trimEnd_squeeze]

theorem squeeze_eq_nil_iff : squeeze s = [] ↔ AllBlank s := by
  induction s using delimiter_induction with
  | plain p hp => rw [squeeze_plain hp, trim_eq_nil_iff]
  | cons p d s hp hd _ =>
      rw [squeeze_plain_append_cons hp hd]
      refine iff_of_false (by simp) fun hb => ?_
      have hblank := hb d (by simp)
      rw [isBlank_of_isDelimiter hd] at hblank
      cases hblank

theorem mem_of_mem_squeeze {c : Char} (h : c ∈ squeeze s) : c ∈ s := by
  induction s using delimiter_induction with
  | plain p hp =>
      rw [squeeze_plain hp] at h
      exact mem_of_mem_trim h
  | cons p d s hp hd ih =>
      rw [squeeze_plain_append_cons hp hd, List.mem_append, List.mem_cons] at h
      rw [List.mem_append, List.mem_cons]
      exact h.imp mem_of_mem_trim (.imp_right ih)

theorem squeeze_eq_self (h : ∀ c ∈ s, isBlank c = false) : squeeze s = s := by
  induction s using delimiter_induction with
  | plain p hp => rw [squeeze_plain hp, trim_of_not_blank h]
  | cons p d s hp hd ih =>
      obtain ⟨hb, hs⟩ := List.forall_mem_append.mp h
      rw [squeeze_plain_append_cons hp hd, trim_of_not_blank hb, ih (List.forall_mem_cons.mp hs).2]

theorem isPlain_of_squeeze (h : IsPlain (squeeze s)) : IsPlain s := by
  induction s using delimiter_induction with
  | plain p hp => exact hp
  | cons p d s hp hd _ =>
      rw [squeeze_plain_append_cons hp hd] at h
      have hno := isPlain_iff.mp h d (by simp)
      rw [hd] at hno
      cases hno

/-! ## Tokens -/

/-- A character is a comma between pieces, or belongs to the first piece of what is behind it. -/
theorem pieces_cons_cases (depth : Nat) (d : Char) :
    (∀ s, pieces depth (d :: s) = [] :: pieces depth s) ∨
      ∃ after, ∀ s, pieces depth (d :: s) = consHead d (pieces after s) := by
  by_cases hopen : d = '('
  · exact Or.inr ⟨depth + 1, fun s => by rw [pieces, if_pos hopen]⟩
  · by_cases hclose : d = ')'
    · exact Or.inr ⟨depth - 1, fun s => by rw [pieces, if_neg hopen, if_pos hclose]⟩
    · by_cases hcomma : d = ',' ∧ depth = 0
      · exact Or.inl fun s => by rw [pieces, if_neg hopen, if_neg hclose, if_pos hcomma]
      · exact Or.inr ⟨depth, fun s => by
          rw [pieces, if_neg hopen, if_neg hclose, if_neg hcomma]⟩

theorem pieces_squeeze (depth : Nat) (s : List Char) :
    pieces depth (squeeze s) = (pieces depth s).map squeeze := by
  induction s using delimiter_induction generalizing depth with
  | plain p hp =>
      rw [squeeze_plain hp, pieces_of_depthAfter? (depthAfter?_of_plain hp.trim depth),
        pieces_of_depthAfter? (depthAfter?_of_plain hp depth), List.map_singleton,
        squeeze_plain hp]
  | cons p d s hp hd ih =>
      rw [squeeze_plain_append_cons hp hd, pieces_append (depthAfter?_of_plain hp.trim depth),
        pieces_append (depthAfter?_of_plain hp depth)]
      rcases pieces_cons_cases depth d with hcut | ⟨after, hkeep⟩
      · rw [hcut, hcut, ih, foldr_consHead, foldr_consHead, List.append_nil, List.append_nil,
          List.map_cons, squeeze_plain hp]
      · obtain ⟨q, qs, hq⟩ := List.exists_cons_of_ne_nil (pieces_sound after s).1.ne_nil
        rw [hkeep, hkeep, ih, hq, List.map_cons, consHead, consHead, foldr_consHead,
          foldr_consHead, List.map_cons, squeeze_plain_append_cons hp hd]

theorem isPiece_squeeze : IsPiece inside (squeeze s) ↔ IsPiece inside s := by
  induction s using delimiter_induction generalizing inside with
  | plain p hp => rw [squeeze_plain hp, isPiece_trim]
  | cons p d s hp hd ih =>
      rw [squeeze_plain_append_cons hp hd, isPiece_plain_append hp.trim, isPiece_plain_append hp]
      simp only [IsPiece, ih]

theorem tidy_map_squeeze (ps : List (List Char)) :
    tidy (ps.map squeeze) = (tidy ps).map squeeze := by
  induction ps with
  | nil => rfl
  | cons p rest ih =>
      rw [List.map_cons]
      by_cases hb : trim p = []
      · have hs : trim (squeeze p) = [] := by
          rw [trim_squeeze, squeeze_eq_nil_iff, ← trim_eq_nil_iff, hb]
        rw [tidy_cons_of_blank hs, tidy_cons_of_blank hb, ih]
      · have hs : trim (squeeze p) ≠ [] := by
          rwa [trim_squeeze, ne_eq, squeeze_eq_nil_iff, ← trim_eq_nil_iff]
        rw [tidy_cons_of_ne_nil hs, tidy_cons_of_ne_nil hb, ih, trim_squeeze, List.map_cons,
          squeeze_trim]

variable {arch token : String}

theorem split_squeezed (arch : String) : split (squeezed arch) = (split arch).map squeezed := by
  have hcomp : String.ofList ∘ squeeze = squeezed ∘ String.ofList :=
    funext fun s => by simp [squeezed]
  rw [split, splitChars, squeezed, String.toList_ofList, pieces_squeeze, tidy_map_squeeze,
    List.map_map, hcomp, ← List.map_map]
  rfl

theorem inOrder_squeezed_iff : InOrder (squeezed arch) ↔ InOrder arch := by
  rw [InOrder, split_squeezed, List.forall_mem_map]
  simp only [squeezed, String.toList_ofList, isPiece_squeeze]
  rfl

/-! ## Macros -/

theorem squeezed_eq_self (h : ∀ c ∈ token.toList, isBlank c = false) : squeezed token = token := by
  rw [squeezed, squeeze_eq_self h, String.ofList_toList]

theorem Macro.squeezed_name (m : Macro) : squeezed m.name = m.name :=
  squeezed_eq_self (not_blank_of_any (by cases m <;> decide))

theorem Macro.squeezed_expansion (m : Macro) : squeezed m.expansion = m.expansion :=
  squeezed_eq_self (not_blank_of_any (by cases m <;> decide))

theorem Macro.isPlain_name (m : Macro) : IsPlain m.name.toList := by
  cases m <;> decide

theorem trim_token (h : token ∈ split arch) :
    trim token.toList = token.toList ∧ token.toList ≠ [] := by
  obtain ⟨s, hs, rfl⟩ := List.mem_map.mp h
  obtain ⟨⟨p, _, rfl⟩, hne⟩ := mem_tidy.mp hs
  rw [String.toList_ofList, trim_trim]
  exact ⟨rfl, hne⟩

/-- A token names a macro just if it does so without blanks, as the names have no delimiters. -/
theorem expandToken_squeezed (h : token ∈ split arch) :
    expandToken (squeezed token) = squeezed (expandToken token) := by
  rcases expandToken_cases token with ⟨m, hm, rfl, he⟩ | ⟨hm, he⟩
  · rw [m.squeezed_name, he, m.squeezed_expansion]
  · rw [he]
    rcases expandToken_cases (squeezed token) with ⟨m, _, hname, _⟩ | ⟨_, he'⟩
    · have hplain : IsPlain token.toList := by
        apply isPlain_of_squeeze
        have hp := m.isPlain_name
        rwa [hname, squeezed, String.toList_ofList] at hp
      rw [squeezed, squeeze_plain hplain, (trim_token h).1, String.ofList_toList] at hname
      rw [← hname, m.ofName?_name] at hm
      cases hm
    · exact he'

theorem split_expand_squeezed (arch : String) :
    split (expand (squeezed arch)) = (split (expand arch)).map squeezed := by
  rw [split_expand, split_expand, split_squeezed, List.flatMap_map, List.map_flatMap]
  apply List.flatMap_congr
  intro token h
  rw [expandToken_squeezed h, split_squeezed]

end TaggerFeatures.Architecture
