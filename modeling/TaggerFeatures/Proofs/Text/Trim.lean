import Mathlib.Data.List.TakeWhile
import TaggerFeatures.Text.Blank

/-! Trimming takes blanks away at both ends, and nothing else. -/
namespace TaggerFeatures.Text

/-- The text has no other characters than blanks. -/
def AllBlank (s : List Char) : Prop := ∀ c ∈ s, isBlank c = true

variable {c : Char} {s b : List Char}

theorem AllBlank.reverse (hb : AllBlank b) : AllBlank b.reverse :=
  fun c hc => hb c (List.mem_reverse.mp hc)

theorem allBlank_takeWhile (s : List Char) : AllBlank (s.takeWhile isBlank) :=
  fun _ hc => List.mem_takeWhile_imp hc

theorem trimStart_blank_append (hb : AllBlank b) (s : List Char) :
    trimStart (b ++ s) = trimStart s :=
  List.dropWhile_append_of_pos hb

theorem trimEnd_append_blank (hb : AllBlank b) (s : List Char) : trimEnd (s ++ b) = trimEnd s := by
  unfold trimEnd
  rw [List.reverse_append, trimStart_blank_append hb.reverse]

theorem trim_blank_append (hb : AllBlank b) (s : List Char) : trim (b ++ s) = trim s := by
  unfold trim
  rw [trimStart_blank_append hb]

theorem trim_append_blank (hb : AllBlank b) (s : List Char) : trim (s ++ b) = trim s := by
  unfold trim
  by_cases hs : trimStart s = []
  · have h : trimStart (s ++ b) = trimStart b := by
      simp only [trimStart] at hs ⊢
      simp [List.dropWhile_append, hs]
    have hbb : trimStart b = [] := by
      have := trimStart_blank_append hb []
      rwa [List.append_nil] at this
    rw [h, hbb, hs]
  · have h : trimStart (s ++ b) = trimStart s ++ b := by
      simp only [trimStart] at hs ⊢
      simp [List.dropWhile_append, hs]
    rw [h, trimEnd_append_blank hb]

theorem exists_trimStart (s : List Char) : ∃ b, AllBlank b ∧ s = b ++ trimStart s :=
  ⟨_, allBlank_takeWhile s, (List.takeWhile_append_dropWhile).symm⟩

theorem exists_trimEnd (s : List Char) : ∃ b, AllBlank b ∧ s = trimEnd s ++ b := by
  obtain ⟨b, hb, h⟩ := exists_trimStart s.reverse
  refine ⟨b.reverse, hb.reverse, ?_⟩
  rw [trimEnd, ← List.reverse_append, ← h, List.reverse_reverse]

/-- A text is its trimmed form between blanks. -/
theorem exists_trim (s : List Char) :
    ∃ b b', AllBlank b ∧ AllBlank b' ∧ s = b ++ (trim s ++ b') := by
  obtain ⟨b, hb, h⟩ := exists_trimStart s
  obtain ⟨b', hb', h'⟩ := exists_trimEnd (trimStart s)
  exact ⟨b, b', hb, hb', by rw [trim, ← h', ← h]⟩

@[simp] theorem trim_trim (s : List Char) : trim (trim s) = trim s := by
  obtain ⟨b, b', hb, hb', h⟩ := exists_trim s
  have ht := congrArg trim h
  rw [trim_blank_append hb, trim_append_blank hb'] at ht
  exact ht.symm

theorem trimStart_eq_self (h : ∀ c ∈ s.head?, isBlank c = false) : trimStart s = s := by
  cases s with
  | nil => rfl
  | cons c cs => exact List.dropWhile_cons_of_neg (by simp [h c rfl])

/-- A text without a blank at either end is left as it is. -/
theorem trim_eq_self (hhead : ∀ c ∈ s.head?, isBlank c = false)
    (hlast : ∀ c ∈ s.getLast?, isBlank c = false) : trim s = s := by
  rw [trim, trimStart_eq_self hhead, trimEnd, trimStart_eq_self (by simpa using hlast),
    List.reverse_reverse]

theorem not_blank_of_any (h : s.any isBlank = false) : ∀ c ∈ s, isBlank c = false := by
  simpa using h

theorem trim_of_not_blank (h : ∀ c ∈ s, isBlank c = false) : trim s = s :=
  trim_eq_self (fun c hc => h c (List.mem_of_head? hc)) fun c hc => h c (List.mem_of_getLast? hc)

theorem mem_of_mem_trim (h : c ∈ trim s) : c ∈ s := by
  obtain ⟨b, b', _, _, hs⟩ := exists_trim s
  rw [hs]
  exact List.mem_append_right b (List.mem_append_left b' h)

theorem trim_eq_nil_iff : trim s = [] ↔ AllBlank s := by
  constructor
  · intro h
    obtain ⟨b, b', hb, hb', hs⟩ := exists_trim s
    rw [h, List.nil_append] at hs
    rw [hs]
    exact List.forall_mem_append.mpr ⟨hb, hb'⟩
  · intro hs
    have h := trim_blank_append hs []
    rwa [List.append_nil] at h

theorem trimEnd_eq_nil_iff : trimEnd s = [] ↔ AllBlank s := by
  constructor
  · intro h
    obtain ⟨b, hb, hs⟩ := exists_trimEnd s
    rw [h, List.nil_append] at hs
    rwa [hs]
  · exact fun hs => trimEnd_append_blank hs []

theorem trimStart_append_cons (hc : isBlank c = false) (s t : List Char) :
    trimStart (s ++ c :: t) = trimStart s ++ c :: t := by
  induction s with
  | nil => exact List.dropWhile_cons_of_neg (by simp [hc])
  | cons d s ih =>
      by_cases hd : isBlank d = true
      · rw [List.cons_append, trimStart, List.dropWhile_cons_of_pos hd, trimStart,
          List.dropWhile_cons_of_pos hd]
        exact ih
      · rw [List.cons_append, trimStart, List.dropWhile_cons_of_neg hd, trimStart,
          List.dropWhile_cons_of_neg hd]
        rfl

theorem trimEnd_append_cons (hc : isBlank c = false) (s t : List Char) :
    trimEnd (s ++ c :: t) = s ++ c :: trimEnd t := by
  have hreverse : (s ++ c :: t).reverse = t.reverse ++ c :: s.reverse := by simp
  rw [trimEnd, hreverse, trimStart_append_cons hc, trimEnd]
  simp

/-- Trimming leaves alone what stands between characters that are no blanks. -/
theorem trim_append_cons (hc : isBlank c = false) (s t : List Char) :
    trim (s ++ c :: t) = trimStart s ++ c :: trimEnd t := by
  rw [trim, trimStart_append_cons hc, trimEnd_append_cons hc]

theorem trimStart_trim (s : List Char) : trimStart (trim s) = trim s := by
  rw [trim]
  cases h : trimStart s with
  | nil => rfl
  | cons c t =>
      have hc : isBlank c = false := by
        have hstop := List.head?_dropWhile_not isBlank s
        rw [trimStart] at h
        rwa [h] at hstop
      rw [← List.nil_append (c :: t), trimEnd_append_cons hc]
      exact List.dropWhile_cons_of_neg (by simp [hc])

theorem trimEnd_trim (s : List Char) : trimEnd (trim s) = trim s := by
  have h := trim_trim s
  rwa [trim, trimStart_trim] at h

end TaggerFeatures.Text
