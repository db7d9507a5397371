import Mathlib.Data.List.Induction
import Mathlib.Data.List.TakeWhile
import TaggerFeatures.Text.Blank

/-! Cutting a text at the first place of a character, and joining pieces with a separator. -/
namespace TaggerFeatures.Text

variable {a : Char} {s b r : List Char}

theorem bne_of_not_mem (h : a ∉ s) : ∀ c ∈ s, (c != a) = true := by
  intro c hc
  rw [bne_iff_ne]
  rintro rfl
  exact h hc

theorem beq_of_not_mem (h : a ∉ s) : ∀ c ∈ s, (c == a) = false := by
  intro c hc
  rw [beq_eq_false_iff_ne]
  rintro rfl
  exact h hc

theorem dropWhile_ne_eq_nil (h : a ∉ s) : s.dropWhile (· != a) = [] :=
  List.dropWhile_eq_nil_iff.mpr (bne_of_not_mem h)

theorem dropWhile_ne_append_cons (h : a ∉ b) : (b ++ a :: r).dropWhile (· != a) = a :: r := by
  rw [List.dropWhile_append_of_pos (bne_of_not_mem h)]
  simp

theorem takeWhile_ne_append_cons (h : a ∉ b) : (b ++ a :: r).takeWhile (· != a) = b := by
  rw [List.takeWhile_append_of_pos (bne_of_not_mem h)]
  simp

/-- Up to the first place of a character two texts agree just if they do so behind it. -/
theorem append_cons_inj {b' r' : List Char} (hb : a ∉ b) (hb' : a ∉ b')
    (h : b ++ a :: r = b' ++ a :: r') : b = b' ∧ r = r' := by
  have htake := congrArg (List.takeWhile (· != a)) h
  rw [takeWhile_ne_append_cons hb, takeWhile_ne_append_cons hb'] at htake
  subst htake
  exact ⟨rfl, (List.cons.inj (List.append_cancel_left h)).2⟩

theorem append_cons_inj_of_last {b' r' : List Char} (hr : a ∉ r) (hr' : a ∉ r')
    (h : b ++ a :: r = b' ++ a :: r') : b = b' ∧ r = r' := by
  have hreverse := congrArg List.reverse h
  simp only [List.reverse_append, List.reverse_cons, List.append_assoc,
    List.singleton_append] at hreverse
  obtain ⟨hrr, hbb⟩ := append_cons_inj (by simpa using hr) (by simpa using hr') hreverse
  exact ⟨List.reverse_inj.mp hbb, List.reverse_inj.mp hrr⟩

theorem join_cons_cons (sep p q : List Char) (rest : List (List Char)) :
    join sep (p :: q :: rest) = p ++ (sep ++ join sep (q :: rest)) := by
  simp [join, List.intercalate]

@[simp] theorem join_nil (sep : List Char) : join sep [] = [] := by
  simp [join, List.intercalate]

@[simp] theorem join_singleton (sep p : List Char) : join sep [p] = p := by
  simp [join, List.intercalate]

theorem join_cons_of_ne_nil {rest : List (List Char)} (h : rest ≠ []) (sep p : List Char) :
    join sep (p :: rest) = p ++ (sep ++ join sep rest) := by
  rw [join, List.intercalate_cons_of_ne_nil h, List.append_assoc, join]

theorem join_append {ps qs : List (List Char)} (hps : ps ≠ []) (hqs : qs ≠ []) (sep : List Char) :
    join sep (ps ++ qs) = join sep ps ++ (sep ++ join sep qs) := by
  induction ps with
  | nil => exact absurd rfl hps
  | cons p rest ih =>
      by_cases hr : rest = []
      · rw [hr, join_singleton, List.singleton_append, join_cons_of_ne_nil hqs]
      · rw [List.cons_append, join_cons_of_ne_nil (List.append_ne_nil_of_left_ne_nil hr qs), ih hr,
          join_cons_of_ne_nil hr]
        simp only [List.append_assoc]

section
variable {x x' : List Char} {front front' back back' : List (List Char)}

theorem join_front_inj (hfront : ∀ p ∈ front, a ∉ p) (hfront' : ∀ p ∈ front', a ∉ p)
    (hl : front.length = front'.length)
    (h : join [a] (front ++ x :: back) = join [a] (front' ++ x' :: back')) :
    front = front' ∧ join [a] (x :: back) = join [a] (x' :: back') := by
  induction front generalizing front' with
  | nil =>
      rw [List.length_eq_zero_iff.mp hl.symm] at h ⊢
      exact ⟨rfl, h⟩
  | cons p front ih =>
      cases front' with
      | nil => cases hl
      | cons p' front' =>
          obtain ⟨hp, hrest⟩ := List.forall_mem_cons.mp hfront
          obtain ⟨hp', hrest'⟩ := List.forall_mem_cons.mp hfront'
          rw [List.cons_append, List.cons_append, join_cons_of_ne_nil (by simp),
            join_cons_of_ne_nil (by simp), List.singleton_append, List.singleton_append] at h
          obtain ⟨hhead, htail⟩ := append_cons_inj hp hp' h
          obtain ⟨hfronts, hbacks⟩ := ih hrest hrest' (Nat.succ.inj hl) htail
          exact ⟨by rw [hhead, hfronts], hbacks⟩

theorem join_back_inj (hback : ∀ p ∈ back, a ∉ p) (hback' : ∀ p ∈ back', a ∉ p)
    (hl : back.length = back'.length) (h : join [a] (x :: back) = join [a] (x' :: back')) :
    x = x' ∧ back = back' := by
  -- From the back, since only there the first separator met is not one of `x`.
  induction back using List.reverseRecOn generalizing back' with
  | nil =>
      rw [List.length_eq_zero_iff.mp hl.symm] at h ⊢
      exact ⟨by simpa using h, rfl⟩
  | append_singleton back p ih =>
      cases back' using List.reverseRecOn with
      | nil => simp at hl
      | append_singleton back' p' =>
          obtain ⟨hinit, hp⟩ := List.forall_mem_append.mp hback
          obtain ⟨hinit', hp'⟩ := List.forall_mem_append.mp hback'
          rw [← List.cons_append, ← List.cons_append, join_append (by simp) (by simp),
            join_append (by simp) (by simp), join_singleton, join_singleton,
            List.singleton_append, List.singleton_append] at h
          obtain ⟨hfirst, hlast⟩ := append_cons_inj_of_last (hp p List.mem_cons_self)
            (hp' p' List.mem_cons_self) h
          obtain ⟨hx, hbacks⟩ := ih hinit hinit' (by simpa using hl) hfirst
          exact ⟨hx, by rw [hbacks, hlast]⟩

/-- Parts are found again in their join as long as at most one of them holds the separator. -/
theorem join_inj (hfront : ∀ p ∈ front, a ∉ p) (hfront' : ∀ p ∈ front', a ∉ p)
    (hback : ∀ p ∈ back, a ∉ p) (hback' : ∀ p ∈ back', a ∉ p) (hl : front.length = front'.length)
    (hl' : back.length = back'.length)
    (h : join [a] (front ++ x :: back) = join [a] (front' ++ x' :: back')) :
    front ++ x :: back = front' ++ x' :: back' := by
  obtain ⟨hfronts, hrest⟩ := join_front_inj hfront hfront' hl h
  obtain ⟨hx, hbacks⟩ := join_back_inj hback hback' hl' hrest
  rw [hfronts, hx, hbacks]

end

theorem mem_join {sep : List Char} {parts : List (List Char)} {c : Char} (h : c ∈ join sep parts) :
    c ∈ sep ∨ ∃ p ∈ parts, c ∈ p := by
  induction parts with
  | nil => cases h
  | cons p rest ih =>
      by_cases hr : rest = []
      · rw [hr, join_singleton] at h
        exact Or.inr ⟨p, List.mem_cons_self, h⟩
      · rw [join_cons_of_ne_nil hr, List.mem_append, List.mem_append] at h
        rcases h with hp | hsep | hrest
        · exact Or.inr ⟨p, List.mem_cons_self, hp⟩
        · exact Or.inl hsep
        · exact (ih hrest).imp_right fun ⟨q, hq, hc⟩ => ⟨q, List.mem_cons_of_mem p hq, hc⟩

/-- Joins of parts, joined in their turn, are the join of all parts. -/
theorem join_map_join {α : Type} {f : α → List (List Char)} {xs : List α} (h : ∀ x ∈ xs, f x ≠ [])
    (sep : List Char) : join sep (xs.map fun x => join sep (f x)) = join sep (xs.flatMap f) := by
  induction xs with
  | nil => rfl
  | cons x rest ih =>
      obtain ⟨hx, hrest⟩ := List.forall_mem_cons.mp h
      cases rest with
      | nil => simp
      | cons y rest =>
          have hne : (y :: rest).flatMap f ≠ [] := by simp [hrest y (by simp)]
          rw [List.map_cons, join_cons_of_ne_nil (by simp), ih hrest, ← join_append hx hne]
          rfl

theorem join_consHead (sep : List Char) (c : Char) (ps : List (List Char)) :
    join sep (consHead c ps) = c :: join sep ps := by
  rcases ps with _ | ⟨p, _ | ⟨q, rest⟩⟩
  · simp [consHead]
  · simp [consHead]
  · simp [consHead, join_cons_cons]

theorem foldr_consHead (p q : List Char) (rest : List (List Char)) :
    p.foldr consHead (q :: rest) = (p ++ q) :: rest := by
  induction p with
  | nil => rfl
  | cons c p ih => rw [List.foldr_cons, ih]; rfl

theorem splitWhen_eq_singleton {p : Char → Bool} (h : ∀ c ∈ s, p c = false) :
    splitWhen p s = [s] := by
  induction s with
  | nil => rfl
  | cons c cs ih =>
      obtain ⟨hc, hcs⟩ := List.forall_mem_cons.mp h
      rw [splitWhen, hc, ih hcs]
      rfl

theorem splitWhen_append_cons {p : Char → Bool} (h : ∀ c ∈ b, p c = false) (ha : p a = true)
    (r : List Char) : splitWhen p (b ++ a :: r) = b :: splitWhen p r := by
  induction b with
  | nil => rw [List.nil_append, splitWhen, if_pos ha]
  | cons c cs ih =>
      obtain ⟨hc, hcs⟩ := List.forall_mem_cons.mp h
      rw [List.cons_append, splitWhen, hc, ih hcs]
      rfl

/-- Parts without commas are found again in their join. -/
theorem splitWhen_join {parts : List (List Char)} (hne : parts ≠ [])
    (h : ∀ p ∈ parts, ',' ∉ p) : splitWhen (· == ',') (join [','] parts) = parts := by
  induction parts with
  | nil => exact absurd rfl hne
  | cons p rest ih =>
      obtain ⟨hp, hrest⟩ := List.forall_mem_cons.mp h
      cases rest with
      | nil => rw [join_singleton, splitWhen_eq_singleton (beq_of_not_mem hp)]
      | cons q rest =>
          rw [join_cons_cons, List.singleton_append, splitWhen_append_cons (beq_of_not_mem hp) rfl,
            ih (List.cons_ne_nil _ _) hrest]

theorem splitWhen_comma_sound (s : List Char) :
    splitWhen (· == ',') s ≠ [] ∧ (∀ p ∈ splitWhen (· == ',') s, ',' ∉ p) ∧
      join [','] (splitWhen (· == ',') s) = s := by
  induction s with
  | nil => exact ⟨by simp [splitWhen], by simp [splitWhen], by simp [splitWhen]⟩
  | cons c cs ih =>
      obtain ⟨hne, hcomma, hjoin⟩ := ih
      rw [splitWhen]
      split
      · rename_i hc
        refine ⟨List.cons_ne_nil _ _, List.forall_mem_cons.mpr ⟨List.not_mem_nil, hcomma⟩, ?_⟩
        rw [join_cons_of_ne_nil hne, hjoin, beq_iff_eq.mp hc]
        rfl
      · rename_i hc
        obtain ⟨p, rest, hparts⟩ := List.exists_cons_of_ne_nil hne
        rw [hparts, List.forall_mem_cons] at hcomma
        have hp : ',' ∉ c :: p := by
          rw [List.mem_cons, not_or]
          exact ⟨fun h => hc (by simp [← h]), hcomma.1⟩
        refine ⟨by rw [hparts]; exact List.cons_ne_nil _ _, ?_, by rw [join_consHead, hjoin]⟩
        rw [hparts]
        exact List.forall_mem_cons.mpr ⟨hp, hcomma.2⟩

/-- The parts of a text between its commas are the only ones without commas that it is joined of. -/
theorem splitWhen_comma_iff {parts : List (List Char)} :
    splitWhen (· == ',') s = parts ↔
      parts ≠ [] ∧ (∀ p ∈ parts, ',' ∉ p) ∧ join [','] parts = s := by
  constructor
  · rintro rfl
    exact splitWhen_comma_sound s
  · rintro ⟨hne, hcomma, rfl⟩
    exact splitWhen_join hne hcomma

theorem toList_joinWith (separator : String) (parts : List String) :
    (joinWith separator parts).toList = join separator.toList (parts.map String.toList) := by
  induction parts with
  | nil => rfl
  | cons p rest ih =>
      cases rest with
      | nil => rw [List.map_singleton, join_singleton, joinWith]
      | cons q rest =>
          change (p ++ separator ++ joinWith separator (q :: rest)).toList = _
          rw [String.toList_append, String.toList_append, ih, List.append_assoc]
          exact (join_cons_cons _ _ _ _).symm

end TaggerFeatures.Text
