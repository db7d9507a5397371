import TaggerFeatures.Proofs.Architecture.Arguments
import TaggerFeatures.Proofs.Architecture.Emission
import TaggerFeatures.Proofs.Template.Printed

/-!
What architectures are compiled to can be printed. An argument that is read has no more digits than
are written, and the offsets that a keyword makes of its arguments lie between them.
-/
namespace TaggerFeatures

namespace Numeral

theorem not_wide_of_between {a b n : Int} (ha : ¬ Wide a) (hb : ¬ Wide b) (hlow : a ≤ n)
    (hhigh : n ≤ b) : ¬ Wide n := by
  rw [Wide] at *
  omega

theorem not_wide_zero : ¬ Wide 0 := not_wide_iff.mpr (by decide)

theorem digitValue_lt {c : Char} (h : isDigit c = true) : digitValue c < 10 := by
  simp only [isDigit, Bool.and_eq_true, decide_eq_true_eq, Char.le_def] at h
  have hhigh : c.toNat ≤ 57 := h.2
  have hzero : '0'.toNat = 48 := rfl
  rw [digitValue, hzero]
  omega

/-- Digits that are few enough to be read make an integer with few enough digits. -/
theorem Writes.not_wide {n : Numeral} {s : List Char} (h : n.Writes s)
    (hl : n.digits.length ≤ maxDigits) : ¬ Wide n.toInt := by
  have hdigits : ∀ d ∈ n.digits.reverse.map digitValue, d < 10 := by
    refine List.forall_mem_map.mpr fun c hc => digitValue_lt ?_
    have hc := List.mem_reverse.mp hc
    rcases h with ⟨_, hd⟩ | ⟨_, hd⟩ | ⟨_, hd⟩ <;> exact hd c hc
  have hlt := Nat.ofDigits_lt_base_pow_length (by decide) hdigits
  rw [List.length_map, List.length_reverse] at hlt
  have hvalue : n.toInt.natAbs = Nat.ofDigits 10 (n.digits.reverse.map digitValue) := by
    unfold toInt
    split <;> simp
  exact not_wide_of_lt hl (hvalue ▸ hlt)

end Numeral

namespace Template

variable {t : Template}

/-- Where the offsets of a template can be written, so can its tag context. -/
theorem Printable.not_wide_context (h : t.Printable) :
    ¬ Numeral.Wide t.leftContext ∧ ¬ Numeral.Wide t.rightContext := by
  have hzero := Numeral.not_wide_zero
  cases t with
  | tag offset | tagWindow offset =>
      have hoffset := h offset rfl
      simp only [Numeral.Wide, leftContext, rightContext, leftOf, rightOf] at *
      omega
  | wordTag _ offset =>
      have hoffset := h offset (Or.inr rfl)
      simp only [Numeral.Wide, leftContext, rightContext, leftOf, rightOf] at *
      omega
  | twoWordsTag _ offset =>
      have hoffset := h offset (Or.inr (Or.inr rfl))
      simp only [Numeral.Wide, leftContext, rightContext, leftOf, rightOf] at *
      omega
  | twoTags offsets | wordTwoTags _ offsets =>
      have hlow := h offsets.low (Or.inl rfl)
      have hhigh : ¬ Numeral.Wide offsets.high := h _ (by simp [Mentions])
      simp only [Numeral.Wide, leftContext, rightContext, leftOf, rightOf] at *
      omega
  | threeTags offsets =>
      have hlow := h offsets.low (Or.inl rfl)
      have hhigh := h offsets.high (Or.inr (Or.inr rfl))
      simp only [Numeral.Wide, leftContext, rightContext, leftOf, rightOf] at *
      omega
  | _ => exact ⟨hzero, hzero⟩

theorem mentions_of {a b n : Int} (h : n = (OffsetPair.of a b).low ∨ n = (OffsetPair.of a b).high) :
    n = a ∨ n = b := by
  have hmem : n ∈ [(OffsetPair.of a b).low, (OffsetPair.of a b).high] := by simpa using h
  simpa using (OffsetPair.perm_of a b).mem_iff.mp hmem

theorem printable_ofPair {a b : Int} (ha : ¬ Numeral.Wide a) (hb : ¬ Numeral.Wide b) :
    (twoWords (.of a b)).Printable ∧ (twoTags (.of a b)).Printable := by
  have hboth : ∀ n, n = (OffsetPair.of a b).low ∨ n = (OffsetPair.of a b).high →
      ¬ Numeral.Wide n := by
    intro n hn
    rcases mentions_of hn with rfl | rfl
    · exact ha
    · exact hb
  exact ⟨hboth, hboth⟩

end Template

namespace Architecture
open Template

variable {source : RawDictionary} {arch : String} {templates : List Template}

theorem Token.not_wide_of_denotes {s : List Char} {i : Int} (h : Token.Denotes s i) :
    ¬ Numeral.Wide i := by
  obtain ⟨n, hwrites, hl, rfl⟩ := h
  exact hwrites.not_wide hl

theorem Token.not_wide_of_integers {token : Token} {arguments : List Int}
    (h : token.integers = .ok arguments) : ∀ n ∈ arguments, ¬ Numeral.Wide n := by
  intro n hn
  unfold Token.integers at h
  split at h
  · cases h
    cases hn
  · split at h
    · cases h
      cases hn
    · obtain ⟨s, _, hs⟩ := exists_of_mem_of_mapM_ok h hn
      exact Token.not_wide_of_denotes (Token.readArgument_eq_ok_iff.mp hs)

theorem FixedSet.printable (set : FixedSet) : ∀ t ∈ set.templates, t.Printable := by
  have hsmall : ∀ n : Int, n.natAbs < 10 ^ 1 → ¬ Numeral.Wide n :=
    fun n => Numeral.not_wide_of_lt (by decide)
  cases set <;>
    simp [templates, Printable, Mentions, OffsetPair.of, hsmall]

theorem Keyword.printable_of_rung {offset : Int} {t : Template}
    (ho : ¬ Numeral.Wide offset) (h : rung offset = some t) : t.Printable := by
  unfold rung at h
  split at h
  · cases h
  · split at h
    · cases h
      rintro n rfl
      exact ho
    · cases h
      rintro n rfl
      exact ho

section
variable {arguments : List Int} (ha : ∀ n ∈ arguments, ¬ Numeral.Wide n)
include ha

theorem Keyword.not_wide_argument (i : Nat) : ¬ Numeral.Wide (argument arguments i) := by
  rw [argument, List.getD_eq_getElem?_getD]
  cases hi : arguments[i]? with
  | none => exact Numeral.not_wide_zero
  | some n => exact ha n (List.mem_of_getElem? hi)

/-- Offsets between two arguments can be written. -/
theorem Keyword.not_wide_of_mem_upTo {i j : Nat} {offset : Int}
    (h : offset ∈ Offsets.upTo (argument arguments i) (argument arguments j)) :
    ¬ Numeral.Wide offset := by
  obtain ⟨hlow, hhigh⟩ := ((Offsets.lists_upTo _ _).mem_iff offset).mp h
  exact Numeral.not_wide_of_between (not_wide_argument ha i) (not_wide_argument ha j) hlow hhigh

theorem Keyword.printable (k : Keyword) {token : String}
    (h : k.templates token arguments source = .ok templates) : ∀ t ∈ templates, t.Printable := by
  intro t ht
  have hargument := not_wide_argument ha
  cases k with
  | words | tags | lowercaseWords | wordShapes | unicodeShapes =>
      cases h
      obtain ⟨offset, hoffset, rfl⟩ := List.mem_map.mp ht
      rintro n rfl
      exact not_wide_of_mem_upTo ha hoffset
  | biwords =>
      cases h
      obtain ⟨offset, hoffset, rfl⟩ := List.mem_map.mp ht
      obtain ⟨hlow, hhigh⟩ := ((Offsets.lists_upTo _ _).mem_iff offset).mp hoffset
      have hbetween : ∀ o, argument arguments 0 ≤ o → o ≤ argument arguments 1 →
          ¬ Numeral.Wide o :=
        fun _ => Numeral.not_wide_of_between (hargument 0) (hargument 1)
      exact (printable_ofPair (hbetween offset hlow (by omega))
        (hbetween (offset + 1) (by omega) (by omega))).1
  | biword =>
      cases h
      cases List.mem_singleton.mp ht
      exact (printable_ofPair (hargument 0) (hargument 1)).1
  | twoTags =>
      cases h
      cases List.mem_singleton.mp ht
      exact (printable_ofPair (hargument 0) (hargument 1)).2
  | wordTag | unicodeShapeConjunction =>
      cases h
      cases List.mem_singleton.mp ht
      rintro n (rfl | rfl)
      · exact hargument 0
      · exact hargument 1
  | wordTwoTags =>
      cases h
      cases List.mem_singleton.mp ht
      have htags := (printable_ofPair (hargument 1) (hargument 2)).2
      rintro n (hn | hn | rfl)
      · exact htags n (Or.inl hn)
      · exact htags n (Or.inr hn)
      · exact hargument 0
  | threeTags =>
      cases h
      cases List.mem_singleton.mp ht
      intro n hn
      have hmem : n ∈ [argument arguments 0, argument arguments 1, argument arguments 2] := by
        rw [← (OffsetTriple.perm_of _ _ _).mem_iff]
        simpa [Mentions] using hn
      simp only [List.mem_cons, List.not_mem_nil, or_false] at hmem
      rcases hmem with rfl | rfl | rfl
      · exact hargument 0
      · exact hargument 1
      · exact hargument 2
  | order =>
      simp only [Keyword.templates] at h
      split at h
      · cases h
      · cases h
        obtain ⟨offset, hoffset, hrung⟩ := List.mem_filterMap.mp ht
        obtain ⟨hlow, hhigh⟩ := ((Offsets.lists_upTo _ _).mem_iff offset).mp hoffset
        have hleft : ¬ Numeral.Wide (-((argument arguments 0).natAbs : Int)) := by
          rw [Numeral.Wide, Int.natAbs_neg, Int.natAbs_natCast]
          exact hargument 0
        exact printable_of_rung
          (Numeral.not_wide_of_between hleft (hargument 1) hlow hhigh) hrung
  | participle =>
      simp only [Keyword.templates] at h
      split at h
      · cases h
        cases List.mem_singleton.mp ht
        rintro n rfl
        exact hargument 0
      · cases h

end

theorem Token.printable {token : Token} (h : token.templates source = .ok templates) :
    ∀ t ∈ templates, t.Printable := by
  unfold Token.templates at h
  split at h
  · cases h
    exact FixedSet.printable _
  · split at h
    · cases h
    · rename_i arguments harguments
      exact Keyword.printable (Token.not_wide_of_integers harguments) _ h
  · cases h
    exact List.forall_mem_nil _
  · cases h
    exact List.forall_mem_nil _

/-- Whatever an architecture is compiled to can be printed. -/
theorem printable_of_compile (h : (compile arch source).outcome = .ok templates) :
    ∀ t ∈ templates, t.Printable := by
  intro t ht
  obtain ⟨token, own, hown, hmem⟩ := exists_token_of_mem h ht
  exact Token.printable hown t hmem

theorem registered_of_compile (h : (compile arch source).outcome = .ok templates) :
    ∀ t ∈ templates, t.Registered := by
  intro t ht
  obtain ⟨token, own, hown, hmem⟩ := exists_token_of_mem h ht
  exact (Token.emittable hown t hmem).registered

end Architecture
end TaggerFeatures
