import Mathlib.Data.Char
import Mathlib.Data.List.Sort
import Mathlib.Data.List.Perm.Subperm
import TaggerFeatures.WordShape

/-!
What a word shape keeps of a word. Up to four characters it is their classes one by one. Of a longer
word it is the classes of two characters at either end and the set of the classes between them; all
of these are found again in the shape, and nothing else is.
-/
namespace TaggerFeatures

namespace WordShape

variable {c x : Char} {cs ds : List Char}

/-! ## Sets of classes -/

theorem mem_insertClass_iff : x ∈ insertClass c cs ↔ x = c ∨ x ∈ cs := by
  induction cs with
  | nil => simp [insertClass]
  | cons d rest ih =>
      rw [insertClass]
      split
      · exact List.mem_cons
      · split
        · rename_i hc
          rw [hc, List.mem_cons, or_self_left]
        · rw [List.mem_cons, List.mem_cons, ih, or_left_comm]

theorem pairwise_insertClass (h : cs.Pairwise (· < ·)) : (insertClass c cs).Pairwise (· < ·) := by
  induction cs with
  | nil => exact List.pairwise_singleton _ _
  | cons d rest ih =>
      obtain ⟨hd, hrest⟩ := List.pairwise_cons.mp h
      rw [insertClass]
      split
      · rename_i hlt
        refine List.pairwise_cons.mpr ⟨?_, h⟩
        intro y hy
        rcases List.mem_cons.mp hy with rfl | hy
        · exact hlt
        · exact hlt.trans (hd y hy)
      · split
        · exact h
        · rename_i hlt hne
          refine List.pairwise_cons.mpr ⟨?_, ih hrest⟩
          intro y hy
          rcases mem_insertClass_iff.mp hy with rfl | hy
          · exact lt_of_le_of_ne (not_lt.mp hlt) (Ne.symm hne)
          · exact hd y hy

theorem mem_classSet_iff : x ∈ classSet cs ↔ x ∈ cs := by
  induction cs with
  | nil => exact Iff.rfl
  | cons d rest ih =>
      change x ∈ insertClass d (classSet rest) ↔ _
      rw [mem_insertClass_iff, ih, List.mem_cons]

theorem pairwise_classSet (cs : List Char) : (classSet cs).Pairwise (· < ·) := by
  induction cs with
  | nil => exact List.Pairwise.nil
  | cons d rest ih => exact pairwise_insertClass ih

/-- In a set of classes neither their order nor how often they occur is left. -/
theorem classSet_eq_iff : classSet cs = classSet ds ↔ ∀ x, x ∈ cs ↔ x ∈ ds := by
  constructor
  · intro h x
    rw [← mem_classSet_iff, h, mem_classSet_iff]
  · intro h
    apply (pairwise_classSet cs).eq_of_mem_iff (pairwise_classSet ds)
    intro x
    rw [mem_classSet_iff, mem_classSet_iff, h]

theorem length_classSet_le {names : List Char} (h : ∀ x ∈ cs, x ∈ names) :
    (classSet cs).length ≤ names.length := by
  have hsubset : classSet cs ⊆ names := fun x hx => h x (mem_classSet_iff.mp hx)
  exact (List.subperm_of_subset (pairwise_classSet cs).nodup hsubset).length_le

/-! ## The collapsed form -/

/-- What stands between the two first and the two last characters. -/
def between (s : List Char) : List Char := (s.take (s.length - 2)).drop 2

/-- Words that cannot be told apart once their characters are known by class only, and of words of
more than four characters just the set of the classes between two characters at either end. -/
inductive Alike (classOf : Char → Char) (u v : List Char) : Prop
  | short : u.length ≤ 4 → v.length ≤ 4 → u.map classOf = v.map classOf → Alike classOf u v
  | long : 4 < u.length → 4 < v.length →
      (u.take 2).map classOf = (v.take 2).map classOf →
      (u.drop (u.length - 2)).map classOf = (v.drop (v.length - 2)).map classOf →
      (∀ x, x ∈ (between u).map classOf ↔ x ∈ (between v).map classOf) → Alike classOf u v

theorem between_map (f : Char → Char) (s : List Char) : between (s.map f) = (between s).map f := by
  rw [between, between, List.length_map, List.map_drop, List.map_take]

theorem collapse_of_short (h : cs.length ≤ 4) : collapse cs = cs := if_pos h

theorem collapse_of_long (h : 4 < cs.length) :
    collapse cs = cs.take 2 ++ (classSet (between cs) ++ cs.drop (cs.length - 2)) := by
  have hlong : ¬ cs.length ≤ 2 * edge := Nat.not_le.mpr h
  have hlast : edge + (cs.length - 2 * edge) = cs.length - 2 := by
    simp only [edge]
    omega
  have hbetween : (cs.drop edge).take (cs.length - 2 * edge) = between cs := by
    rw [List.take_drop, hlast]
    rfl
  simp only [collapse, if_neg hlong, hbetween, hlast, List.append_assoc]
  rfl

/-- A longer word has a longer form, since at least one class is between the ends. -/
theorem length_collapse_of_long (h : 4 < cs.length) : 4 < (collapse cs).length := by
  have hlength : (between cs).length ≠ 0 := by
    simp only [between, List.length_drop, List.length_take]
    omega
  obtain ⟨x, hx⟩ := List.exists_mem_of_length_pos (Nat.pos_of_ne_zero hlength)
  have hset := List.length_pos_of_mem (mem_classSet_iff.mpr hx)
  rw [collapse_of_long h]
  simp only [List.length_append, List.length_drop, List.length_take]
  omega

theorem length_collapse_le_four_iff : (collapse cs).length ≤ 4 ↔ cs.length ≤ 4 := by
  by_cases h : cs.length ≤ 4
  · rw [collapse_of_short h]
  · exact iff_of_false (Nat.not_le.mpr (length_collapse_of_long (Nat.not_le.mp h))) h

/-- The ends of the form have their two characters each, so the set between them is what is left. -/
theorem collapse_long_eq_iff (hcs : 4 < cs.length) (hds : 4 < ds.length) :
    collapse cs = collapse ds ↔ cs.take 2 = ds.take 2 ∧
      classSet (between cs) = classSet (between ds) ∧
      cs.drop (cs.length - 2) = ds.drop (ds.length - 2) := by
  rw [collapse_of_long hcs, collapse_of_long hds]
  constructor
  · intro h
    obtain ⟨hfirst, hrest⟩ := List.append_inj h (by simp only [List.length_take]; omega)
    obtain ⟨hset, hlast⟩ := List.append_inj' hrest (by simp only [List.length_drop]; omega)
    exact ⟨hfirst, hset, hlast⟩
  · rintro ⟨hfirst, hset, hlast⟩
    rw [hfirst, hset, hlast]

theorem collapse_map_eq_iff {classOf : Char → Char} {u v : List Char} :
    collapse (u.map classOf) = collapse (v.map classOf) ↔ Alike classOf u v := by
  have hlengths : collapse (u.map classOf) = collapse (v.map classOf) →
      (u.length ≤ 4 ↔ v.length ≤ 4) := by
    intro h
    rw [← List.length_map classOf, ← length_collapse_le_four_iff, h, length_collapse_le_four_iff,
      List.length_map]
  constructor
  · intro h
    by_cases hu : u.length ≤ 4
    · have hv := (hlengths h).mp hu
      rw [collapse_of_short (by rwa [List.length_map]),
        collapse_of_short (by rwa [List.length_map])] at h
      exact .short hu hv h
    · have hv := mt (hlengths h).mpr hu
      rw [Nat.not_le] at hu hv
      rw [collapse_long_eq_iff (by rwa [List.length_map]) (by rwa [List.length_map]),
        classSet_eq_iff, between_map, between_map, List.length_map, List.length_map,
        ← List.map_take, ← List.map_take, ← List.map_drop, ← List.map_drop] at h
      exact .long hu hv h.1 h.2.2 h.2.1
  · rintro (⟨hu, hv, h⟩ | ⟨hu, hv, hfirst, hlast, hset⟩)
    · rw [h]
    · rw [collapse_long_eq_iff (by rwa [List.length_map]) (by rwa [List.length_map]),
        classSet_eq_iff, between_map, between_map, List.length_map, List.length_map,
        ← List.map_take, ← List.map_take, ← List.map_drop, ← List.map_drop]
      exact ⟨hfirst, hset, hlast⟩

/-! ## Classes by category -/

/-- The classes of characters, other than the characters that are classes of their own. -/
def classes : List Char :=
  ['d', 'x', 'X', 's', 'c', '$', '+', '|', '(', ')', '\x60', '\'', '%', '.', '_', '-', 'q']

theorem categoryClass_mem (c : Char) : categoryClass c ∈ classes := by
  unfold categoryClass
  cases Unicode.Category.ofChar c <;> dsimp only <;> split_ifs <;> decide

theorem length_collapse_categoryClass_le (s : List Char) :
    (collapse (s.map categoryClass)).length ≤ 21 := by
  have hnames : ∀ x ∈ between (s.map categoryClass), x ∈ classes := by
    intro x hx
    rw [between_map] at hx
    obtain ⟨c, _, rfl⟩ := List.mem_map.mp hx
    exact categoryClass_mem c
  have hset := length_classSet_le hnames
  by_cases h : (s.map categoryClass).length ≤ 4
  · rw [collapse_of_short h]
    omega
  · rw [collapse_of_long (Nat.not_le.mp h)]
    simp only [List.length_append, List.length_drop, List.length_take]
    have hcount : classes.length = 17 := rfl
    omega

end WordShape

namespace Shaper
open WordShape

/-- The shaper goes by these classes of characters. -/
inductive GoesBy : Shaper → (Char → Char) → Prop
  | chris2 : GoesBy chris2 simpleClass
  | chris4 : GoesBy chris4 categoryClass

theorem GoesBy.shape_eq {shaper : Shaper} {classOf : Char → Char} (hs : shaper.GoesBy classOf)
    (word : String) : shaper.shape word = String.ofList (collapse (word.toList.map classOf)) := by
  cases hs with
  | chris2 | chris4 => rfl

/-- Shapes tell words apart just as far as the classes of their characters do, up to the order and
the number of those between the ends of a word of more than four. Such a word shares its shape with
no shorter one, and by category a shape has at most 21 characters. -/
theorem shape_eq_iff_alike {shaper : Shaper} {classOf : Char → Char}
    (hs : shaper.GoesBy classOf) (u v : String) :
    (shaper.shape u = shaper.shape v ↔ Alike classOf u.toList v.toList) ∧
    (u.length ≤ 4 → 4 < v.length → shaper.shape u ≠ shaper.shape v) ∧
    (chris4.shape u).length ≤ 21 := by
  have hiff : shaper.shape u = shaper.shape v ↔ Alike classOf u.toList v.toList := by
    rw [hs.shape_eq, hs.shape_eq, String.ofList_inj, collapse_map_eq_iff]
  refine ⟨hiff, ?_, ?_⟩
  · intro hu hv h
    rw [← String.length_toList] at hu hv
    rcases hiff.mp h with ⟨-, hv', -⟩ | ⟨hu', -⟩
    · omega
    · omega
  · have hshape : chris4.shape u = String.ofList (collapse (u.toList.map categoryClass)) := rfl
    rw [hshape, String.length_ofList]
    exact length_collapse_categoryClass_le u.toList

/-- Hyphens and digits in another order and number, a full stop that makes a word longer than four
characters, and a word with characters of all classes between its ends. -/
theorem shape_eq_iff_alike_hyphens :
    chris4.GoesBy categoryClass ∧
    Alike categoryClass "NN-7-aa".toList "JJ3-zz".toList ∧
    chris4.shape "NN-7-aa" = chris4.shape "JJ3-zz" ∧
    chris4.shape "U.S." ≠ chris4.shape "U.S.." ∧
    (chris4.shape "ab1aA 中$+©()«»%._-^yz").length = 21 := by
  have hs : chris4.GoesBy categoryClass := .chris4
  have hsame : chris4.shape "NN-7-aa" = chris4.shape "JJ3-zz" := by decide +kernel
  have hall : (chris4.shape "ab1aA 中$+©()«»%._-^yz").length = 21 := by decide +kernel
  exact ⟨hs, (shape_eq_iff_alike hs _ _).1.mp hsame, hsame,
    (shape_eq_iff_alike hs _ _).2.1 (by decide) (by decide), hall⟩

end Shaper
end TaggerFeatures
