import TaggerFeatures.Proofs.Text.Cut
import TaggerFeatures.Proofs.Text.Trim

/-!
The items of a text. A text has just those items that it consists of, one after the other with
blanks between neighbours.
-/
namespace TaggerFeatures.Text

/-- Characters without a blank among them, and at least one. -/
structure IsItem (s : List Char) : Prop where
  ne_nil : s ≠ []
  not_blank : ∀ c ∈ s, isBlank c = false

/-- The text consists of the items in order. Blanks stand between neighbours, and may stand at
either end. -/
inductive Spaced : List (List Char) → List Char → Prop
  | nil {b} : AllBlank b → Spaced [] b
  | cons {b item rest s} : AllBlank b → (∀ c ∈ s.head?, isBlank c = true) → Spaced rest s →
      Spaced (item :: rest) (b ++ (item ++ s))

variable {c : Char} {b s item : List Char} {parts : List (List Char)}

/-! ## The items of a spaced text -/

theorem items_cons_of_blank (hc : isBlank c = true) (s : List Char) : items (c :: s) = items s := by
  rw [items, splitWhen, if_pos hc]
  rfl

theorem items_blank_append (hb : AllBlank b) (s : List Char) : items (b ++ s) = items s := by
  induction b with
  | nil => rfl
  | cons c b ih =>
      obtain ⟨hc, hb⟩ := List.forall_mem_cons.mp hb
      rw [List.cons_append, items_cons_of_blank hc, ih hb]

theorem items_append (hi : IsItem item) (hs : ∀ c ∈ s.head?, isBlank c = true) :
    items (item ++ s) = item :: items s := by
  cases s with
  | nil => simp [items, splitWhen_eq_singleton hi.not_blank, splitWhen, hi.ne_nil]
  | cons c s =>
      have hc : isBlank c = true := hs c rfl
      rw [items_cons_of_blank hc]
      simp [items, splitWhen_append_cons hi.not_blank hc, hi.ne_nil]

theorem items_of_spaced (h : Spaced parts s) (hp : ∀ p ∈ parts, IsItem p) : items s = parts := by
  induction h with
  | nil hb =>
      have h := items_blank_append hb []
      rwa [List.append_nil] at h
  | cons hb hs _ ih =>
      obtain ⟨hi, hrest⟩ := List.forall_mem_cons.mp hp
      rw [items_blank_append hb, items_append hi hs, ih hrest]

/-! ## Every text is spaced -/

theorem Spaced.blank_cons (h : Spaced parts s) (hc : isBlank c = true) : Spaced parts (c :: s) := by
  cases h with
  | nil hb => exact .nil (List.forall_mem_cons.mpr ⟨hc, hb⟩)
  | cons hb hs h => exact .cons (List.forall_mem_cons.mpr ⟨hc, hb⟩) hs h

theorem Spaced.head (h : Spaced parts s) (hs : ∀ c ∈ s.head?, isBlank c = true) :
    Spaced (item :: parts) (item ++ s) :=
  .cons (List.forall_mem_nil _) hs h

/-- A character in front of a text makes its first item longer, or is an item by itself. -/
theorem exists_spaced_cons (hc : isBlank c = false) (h : Spaced parts s)
    (hp : ∀ p ∈ parts, IsItem p) :
    ∃ parts', Spaced parts' (c :: s) ∧ ∀ p ∈ parts', IsItem p := by
  have halone : IsItem [c] := ⟨List.cons_ne_nil _ _, List.forall_mem_singleton.mpr hc⟩
  by_cases hs : ∀ d ∈ s.head?, isBlank d = true
  · exact ⟨[c] :: parts, h.head hs, List.forall_mem_cons.mpr ⟨halone, hp⟩⟩
  · cases h with
    | @nil b hb => exact absurd (fun d hd => hb d (List.mem_of_head? hd)) hs
    | @cons b item rest s hb hs' h =>
        obtain ⟨hi, hrest⟩ := List.forall_mem_cons.mp hp
        cases b with
        | cons d b => exact absurd (fun d' hd => hb d' (List.mem_of_head? hd)) hs
        | nil =>
            have hlonger : IsItem (c :: item) :=
              ⟨List.cons_ne_nil _ _, List.forall_mem_cons.mpr ⟨hc, hi.not_blank⟩⟩
            exact ⟨(c :: item) :: rest, h.head hs', List.forall_mem_cons.mpr ⟨hlonger, hrest⟩⟩

theorem exists_spaced (s : List Char) : ∃ parts, Spaced parts s ∧ ∀ p ∈ parts, IsItem p := by
  induction s with
  | nil => exact ⟨[], .nil (List.forall_mem_nil _), List.forall_mem_nil _⟩
  | cons c s ih =>
      obtain ⟨parts, h, hp⟩ := ih
      cases hc : isBlank c with
      | true => exact ⟨parts, h.blank_cons hc, hp⟩
      | false => exact exists_spaced_cons hc h hp

theorem items_eq_iff : items s = parts ↔ Spaced parts s ∧ ∀ p ∈ parts, IsItem p := by
  constructor
  · rintro rfl
    obtain ⟨parts, h, hp⟩ := exists_spaced s
    rw [items_of_spaced h hp]
    exact ⟨h, hp⟩
  · rintro ⟨h, hp⟩
    exact items_of_spaced h hp

theorem isItem_of_mem_items (h : item ∈ items s) : IsItem item :=
  (items_eq_iff.mp rfl).2 item h

end TaggerFeatures.Text
