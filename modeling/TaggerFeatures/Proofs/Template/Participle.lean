import TaggerFeatures.Proofs.SortedMap
import TaggerFeatures.Proofs.Template.OneLine

/-!
The participle rule. Looking back for an auxiliary finds one just if some auxiliary stands before
the word with no boundary and no stopper in between. So the key is settled by the counts and the
ending of the word and by the words before it; tags have no part in it, and neither have words that
lie beyond the sentence.
-/
namespace TaggerFeatures

/-! ## Letters in upper and lower case -/

namespace Unicode

/-- A character is a letter if case is ignored: its lower case begins with the letter, or it is the
dotless `ı` or the long `ſ`, which have the capitals of `i` and `s`. -/
inductive SameLetter : Char → Char → Prop
  | lower {letter c : Char} : (Lowercase.ofChar c).head? = some letter → SameLetter letter c
  | dotless : SameLetter 'i' 'ı'
  | long : SameLetter 's' 'ſ'

end Unicode

namespace Participle
open Unicode Unicode.Lowercase

/-- What the listed words are made of: characters of ASCII other than capitals and `k`. -/
def IsLetter (a : Char) : Prop :=
  (0 < a.toNat ∧ a.toNat < 0x80) ∧ ¬ (0x41 ≤ a.toNat ∧ a.toNat ≤ 0x5A) ∧ a ≠ 'k'

instance : DecidablePred IsLetter := fun _ => inferInstanceAs (Decidable (_ ∧ _))

variable {a c : Char}

theorem capital_iff : ('A' ≤ c ∧ c ≤ 'Z') ↔ (0x41 ≤ c.toNat ∧ c.toNat ≤ 0x5A) := Iff.rfl

/-- Within ASCII the tables have the capitals only. Of the other characters the Kelvin sign alone
comes to lie there. -/
theorem runs_beyond_ascii : ∀ entry ∈ runs ++ everySecond,
    entry = (0x41, 0x5A, 0x61) ∨
      0x80 ≤ entry.1 ∧ (entry = (0x212A, 0x212A, 0x6B) ∨ 0x80 ≤ entry.2.2) := by
  decide +kernel

theorem codePoint_capital {n : Nat} (h : 0x41 ≤ n ∧ n ≤ 0x5A) : codePoint n = n + 32 := by
  rw [codePoint, runs, List.find?_cons_of_pos (by simp [h.1, h.2])]
  simp only
  omega

theorem ofChar_capital (h : 0x41 ≤ c.toNat ∧ c.toNat ≤ 0x5A) :
    ofChar c = [Char.ofNat (c.toNat + 32)] := by
  have hc : c ≠ '\u0130' := by
    rintro rfl
    exact absurd h (by decide)
  rw [ofChar, if_neg hc, codePoint_capital h]

theorem ofChar_letter (ha : IsLetter a) : ofChar a = [a] := by
  obtain ⟨⟨_, hascii⟩, hcapital, _⟩ := ha
  have hc : a ≠ '\u0130' := by
    rintro rfl
    exact absurd hascii (by decide)
  rw [ofChar, if_neg hc]
  rcases codePoint_cases a.toNat with hsame | ⟨entry, hentry, hfirst, hlast, _⟩
  · rw [hsame, Char.ofNat_toNat]
  · rcases runs_beyond_ascii entry hentry with rfl | ⟨hbeyond, _⟩
    · exact absurd ⟨hfirst, hlast⟩ hcapital
    · omega

theorem fold_letter (ha : IsLetter a) : fold a = a := by
  obtain ⟨⟨_, hascii⟩, hcapital, _⟩ := ha
  have hne : ∀ b : Char, 0x80 ≤ b.toNat → a ≠ b := by
    rintro b hb rfl
    omega
  rw [fold, if_neg (mt capital_iff.mp hcapital), if_neg (hne _ (by decide)),
    if_neg (by simp [hne '\u0130' (by decide), hne '\u0131' (by decide)])]

/-- Only a letter and its capital have the letter as their lower case, and `İ` has an `i` in it. -/
theorem cases_of_ofChar (ha : IsLetter a) (h : (ofChar c).head? = some a) :
    c = a ∨ (0x41 ≤ c.toNat ∧ c.toNat ≤ 0x5A) ∧ Char.ofNat (c.toNat + 32) = a ∨
      c = '\u0130' ∧ a = 'i' := by
  by_cases hc : c = '\u0130'
  · subst hc
    exact Or.inr (Or.inr ⟨rfl, (Option.some.inj h).symm⟩)
  · rw [ofChar, if_neg hc, List.head?_cons, Option.some.injEq] at h
    rcases codePoint_cases c.toNat with hsame | ⟨entry, hentry, hfirst, hlast, himage⟩
    · rw [hsame, Char.ofNat_toNat] at h
      exact Or.inl h
    · rcases runs_beyond_ascii entry hentry with rfl | ⟨_, rfl | hbeyond⟩
      · rw [codePoint_capital ⟨hfirst, hlast⟩] at h
        exact Or.inr (Or.inl ⟨⟨hfirst, hlast⟩, h⟩)
      · dsimp only at hfirst hlast himage
        have hk : codePoint c.toNat = 0x6B := by omega
        rw [hk] at h
        exact absurd h.symm ha.2.2
      · obtain ⟨⟨hpos, hascii⟩, _⟩ := ha
        by_cases hvalid : (codePoint c.toNat).isValidChar
        · rw [Char.ofNat, dif_pos hvalid] at h
          have hvalue : codePoint c.toNat = a.toNat := congrArg Char.toNat h
          omega
        · rw [Char.ofNat, dif_neg hvalid] at h
          have hvalue : 0 = a.toNat := congrArg Char.toNat h
          omega

/-- Folding a character gives a letter just if it is the letter in upper or lower case. -/
theorem fold_eq_iff (ha : IsLetter a) : fold c = a ↔ SameLetter a c := by
  constructor
  · intro h
    unfold fold at h
    split at h
    · rename_i hcapital
      exact .lower (by rw [ofChar_capital (capital_iff.mp hcapital), h]; rfl)
    · split at h
      · rename_i hlong
        subst hlong
        cases h
        exact .long
      · split at h
        · rename_i hi
          cases h
          rcases hi with rfl | rfl
          · exact .lower rfl
          · exact .dotless
        · subst h
          exact .lower (by rw [ofChar_letter ha]; rfl)
  · rintro (h | _ | _)
    · rcases cases_of_ofChar ha h with rfl | ⟨hcapital, rfl⟩ | ⟨rfl, rfl⟩
      · exact fold_letter ha
      · rw [fold, if_pos (capital_iff.mpr hcapital)]
      · rfl
    · rfl
    · rfl

theorem map_fold_eq_iff {letters cs : List Char} (h : ∀ a ∈ letters, IsLetter a) :
    cs.map fold = letters ↔ List.Forall₂ SameLetter letters cs := by
  induction letters generalizing cs with
  | nil => simp
  | cons a letters ih =>
      obtain ⟨ha, hletters⟩ := List.forall_mem_cons.mp h
      cases cs with
      | nil => simp
      | cons c cs =>
          rw [List.map_cons, List.cons.injEq, List.forall₂_cons, fold_eq_iff ha, ih hletters]

/-! ## Listed words -/

/-- The word is one of the listed ones if case is ignored. -/
def Among (words : List String) (word : String) : Prop :=
  ∃ v ∈ words, List.Forall₂ SameLetter v.toList word.toList

theorem isLetter_of_listed : ∀ v ∈ stoppers ++ auxiliaries, ∀ a ∈ v.toList, IsLetter a := by
  have hall : (stoppers ++ auxiliaries).all fun v => v.toList.all fun a => IsLetter a := by
    decide +kernel
  intro v hv a ha
  have hletters := List.all_eq_true.mp hall v hv
  exact of_decide_eq_true (List.all_eq_true.mp hletters a ha)

theorem listed_iff {words : List String} (h : ∀ v ∈ words, ∀ a ∈ v.toList, IsLetter a)
    {word : String} : listed words word = true ↔ Among words word := by
  rw [listed, List.contains_iff_mem, Among]
  constructor
  · intro hmem
    exact ⟨_, hmem, (map_fold_eq_iff (h _ hmem)).mp (String.toList_ofList).symm⟩
  · rintro ⟨v, hv, hsame⟩
    rwa [(map_fold_eq_iff (h v hv)).mpr hsame, String.ofList_toList]

theorem isStopper_iff {word : String} : isStopper word = true ↔ Among stoppers word :=
  listed_iff fun v hv => isLetter_of_listed v (List.mem_append_left _ hv)

theorem isAuxiliary_iff {word : String} : isAuxiliary word = true ↔ Among auxiliaries word :=
  listed_iff fun v hv => isLetter_of_listed v (List.mem_append_right _ hv)

/-- No auxiliary ends the search for one. -/
theorem isStopper_of_isAuxiliary {word : String} (h : isAuxiliary word = true) :
    word ≠ boundary ∧ isStopper word = false := by
  have hdisjoint : ∀ v ∈ auxiliaries, v ∉ stoppers := by decide
  rw [isAuxiliary, listed, List.contains_iff_mem] at h
  constructor
  · rintro rfl
    revert h
    decide +kernel
  · rw [isStopper, listed]
    simpa using hdisjoint _ h

/-! ## Looking back -/

/-- An auxiliary stands so many words before the cursor, with neither a boundary nor a stopper
between them. -/
structure GovernedFrom (word : Int → String) (k : Int) : Prop where
  auxiliary : Among auxiliaries (word (-k))
  unbroken : ∀ j, 1 ≤ j → j < k → word (-j) ≠ boundary ∧ ¬ Among stoppers (word (-j))

variable {word : Int → String}

/-- An auxiliary ends the search, and what is neither a boundary nor a stopper lets it go on. -/
theorem found_succ_iff (steps : Nat) (offset : Int) :
    found word (steps + 1) offset = true ↔
      isAuxiliary (word offset) = true ∨
        (word offset ≠ boundary ∧ isStopper (word offset) = false) ∧
          found word steps (offset - 1) = true := by
  rw [found]
  by_cases haux : isAuxiliary (word offset) = true
  · obtain ⟨hboundary, hstopper⟩ := isStopper_of_isAuxiliary haux
    simp [haux, hboundary, hstopper]
  · rw [if_neg haux]
    simp [haux]

theorem found_eq_true_iff (steps : Nat) (offset : Int) :
    found word steps offset = true ↔
      ∃ i : Nat, i < steps ∧ isAuxiliary (word (offset - i)) = true ∧
        ∀ j : Nat, j < i →
          word (offset - j) ≠ boundary ∧ isStopper (word (offset - j)) = false := by
  induction steps generalizing offset with
  | zero => simp [found]
  | succ steps ih =>
      have hshift : ∀ i : Nat, offset - 1 - i = offset - (i + 1 : Nat) := by
        intro i
        omega
      have hfirst : offset - (0 : Nat) = offset := Int.sub_zero offset
      rw [found_succ_iff, ih, Nat.exists_lt_succ_left]
      simp only [hshift, Nat.forall_lt_succ_left, hfirst]
      constructor
      · rintro (haux | ⟨hclear, i, hi, haux, hbetween⟩)
        · exact Or.inl ⟨haux, fun j hj => absurd hj (Nat.not_lt_zero j)⟩
        · exact Or.inr ⟨i, hi, haux, hclear, hbetween⟩
      · rintro (⟨haux, -⟩ | ⟨i, hi, haux, hclear, hbetween⟩)
        · exact Or.inl haux
        · exact Or.inr ⟨hclear, i, hi, haux, hbetween⟩

theorem found_before_iff (bound : Int) :
    found word bound.toNat (-1) = true ↔ ∃ k, 1 ≤ k ∧ k ≤ bound ∧ GovernedFrom word k := by
  have hoffset : ∀ i : Nat, (-1 : Int) - i = -((i : Int) + 1) := by
    intro i
    omega
  rw [found_eq_true_iff]
  constructor
  · rintro ⟨i, hi, haux, hclear⟩
    rw [hoffset, isAuxiliary_iff] at haux
    refine ⟨i + 1, by omega, by omega, haux, ?_⟩
    intro j hj hji
    obtain ⟨n, rfl⟩ : ∃ n : Nat, j = n + 1 := ⟨(j - 1).toNat, by omega⟩
    have hn := hclear n (by omega)
    rwa [hoffset, ← Bool.not_eq_true, isStopper_iff] at hn
  · rintro ⟨k, hk, hkb, hgov⟩
    obtain ⟨n, rfl⟩ : ∃ n : Nat, k = n + 1 := ⟨(k - 1).toNat, by omega⟩
    refine ⟨n, by omega, by rw [hoffset, isAuxiliary_iff]; exact hgov.auxiliary, ?_⟩
    intro j hj
    rw [hoffset, ← Bool.not_eq_true, isStopper_iff]
    exact hgov.unbroken _ (by omega) (by omega)

/-! ## The current word -/

def totalOf (counts : List (String × Int)) : Int := (counts.map (·.2)).sum

def countOf (counts : List (String × Int)) (tag : String) : Int := (counts.lookup tag).getD 0

/-- The counts of a word do not speak against a participle, nor does its ending if they say
nothing. -/
structure Compatible (counts : List (String × Int)) (word : String) : Prop where
  weight : ¬ (0 < totalOf counts ∧
    2 * (countOf counts "VBN" + countOf counts "VBD") < totalOf counts)
  ending : ¬ (totalOf counts = 0 ∧
    ¬ (['e', 'd'] <:+ word.toList ∨ ['e', 'n'] <:+ word.toList))

open TagDictionary

variable {entries : List (String × List (String × Int))}

theorem hasEnding_iff {word : String} :
    hasEnding word = true ↔ ['e', 'd'] <:+ word.toList ∨ ['e', 'n'] <:+ word.toList := by
  rw [hasEnding, Bool.or_eq_true, List.isSuffixOf_iff_suffix, List.isSuffixOf_iff_suffix]

theorem mayBe_iff (hd : Distinct entries) {word : String} :
    mayBe (ofEntries entries) word = true ↔ Compatible (given entries word) word := by
  have hfields : Compatible (given entries word) word ↔
      ¬ (0 < totalOf (given entries word) ∧
        2 * (countOf (given entries word) "VBN" + countOf (given entries word) "VBD") <
          totalOf (given entries word)) ∧
      ¬ (totalOf (given entries word) = 0 ∧
        ¬ (['e', 'd'] <:+ word.toList ∨ ['e', 'n'] <:+ word.toList)) :=
    ⟨fun h => ⟨h.weight, h.ending⟩, fun h => ⟨h.1, h.2⟩⟩
  rw [hfields, ← hasEnding_iff, totalOf, countOf, countOf, ← hd.total_ofEntries,
    ← hd.count_ofEntries, ← hd.count_ofEntries]
  simp only [mayBe, Bool.and_eq_true, Bool.not_eq_true', ← Bool.not_eq_true, decide_eq_true_eq,
    beq_iff_eq, Int.mul_comm]

/-! ## The rule -/

/-- The current word may be a participle, and an auxiliary governs it that is at most `bound` words
away. -/
structure Rule (entries : List (String × List (String × Int))) (word : Int → String)
    (bound : Int) : Prop where
  compatible : Compatible (given entries (word 0)) (word 0)
  governed : ∃ k, 1 ≤ k ∧ k ≤ bound ∧ GovernedFrom word k

theorem Rule.mono {bound bound' : Int} (h : Rule entries word bound) (hb : bound ≤ bound') :
    Rule entries word bound' := by
  obtain ⟨hcompatible, k, hk, hkb, hgov⟩ := h
  exact ⟨hcompatible, k, hk, hkb.trans hb, hgov⟩

variable {c : Corpus} {h : Cursor}

theorem key_cases (hd : Distinct entries) (hw : ∀ o, c.wordAt h o = .ok (word o)) (bound : Int) :
    Rule entries word bound ∧
        (Template.participle bound (ofEntries entries)).key c h = .ok "1" ∨
      ¬ Rule entries word bound ∧
        (Template.participle bound (ofEntries entries)).key c h = .ok "0" := by
  have hrule : Rule entries word bound ↔
      (mayBe (ofEntries entries) (word 0) && found word bound.toNat (-1)) = true := by
    rw [Bool.and_eq_true, mayBe_iff hd, found_before_iff]
    exact ⟨fun h => ⟨h.compatible, h.governed⟩, fun h => ⟨h.1, h.2⟩⟩
  rw [Template.key_of_not_dynamic hw rfl, Template.text, hrule]
  cases mayBe (ofEntries entries) (word 0) && found word bound.toNat (-1) <;> simp

theorem key_eq_one_iff (hd : Distinct entries) (hw : ∀ o, c.wordAt h o = .ok (word o))
    (bound : Int) :
    (Template.participle bound (ofEntries entries)).key c h = .ok "1" ↔
      Rule entries word bound := by
  rcases key_cases hd hw bound with ⟨hrule, hone⟩ | ⟨hno, hzero⟩
  · exact iff_of_true hone hrule
  · exact iff_of_false (by simp [hzero]) hno

theorem key_congr (hd : Distinct entries) (hw : ∀ o, c.wordAt h o = .ok (word o))
    {bound bound' : Int} (hsame : Rule entries word bound ↔ Rule entries word bound') :
    (Template.participle bound (ofEntries entries)).key c h =
      (Template.participle bound' (ofEntries entries)).key c h := by
  rcases key_cases hd hw bound with ⟨hrule, hone⟩ | ⟨hno, hzero⟩
  · rw [hone, (key_eq_one_iff hd hw bound').mpr (hsame.mp hrule)]
  · rcases key_cases hd hw bound' with ⟨hrule', _⟩ | ⟨_, hzero'⟩
    · exact absurd (hsame.mpr hrule') hno
    · rw [hzero, hzero']

/-- An auxiliary is inside the sentence. -/
theorem GovernedFrom.le_position (hs : c.Knows h.sentence)
    (hw : ∀ o, c.wordAt h o = .ok (word o)) {k : Int} (hgov : GovernedFrom word k) :
    k ≤ h.position := by
  obtain ⟨s, p⟩ := h
  obtain ⟨n, words, rfl, hwords⟩ := hs.words
  by_contra hk
  change ¬ k ≤ p at hk
  have hout : Corpus.slot? words (p + -k) = none := by
    rw [Corpus.slot?_eq_none_iff]
    omega
  have hword : word (-k) = boundary := by
    have hread := hw (-k)
    rw [Corpus.wordAt_eq hwords, hout] at hread
    exact (Except.ok.inj hread).symm
  exact (isStopper_of_isAuxiliary (isAuxiliary_iff.mpr hgov.auxiliary)).1 hword

end Participle

namespace Template
open Participle TagDictionary

/-- The participle rule holds just where the current word may be a participle and an auxiliary
governs it. There is a key for every position of a known sentence, made of words alone; it cannot be
lost by looking back farther, nor won by looking back beyond the start of the sentence. -/
theorem participle_rule {entries : List (String × List (String × Int))} (hd : Distinct entries)
    {c : Corpus} {h : Cursor} (hs : c.Knows h.sentence) :
    ∃ d word, TagDictionary.ofRaw (toRaw entries) = .ok d ∧
      (∀ o, c.wordAt h o = .ok (word o)) ∧
      (∀ bound, Rule entries word bound ∧ (participle bound d).key c h = .ok "1" ∨
        ¬ Rule entries word bound ∧ (participle bound d).key c h = .ok "0") ∧
      (∀ c' : Corpus, c'.wordsOf h.sentence = c.wordsOf h.sentence →
        ∀ bound, (participle bound d).key c' h = (participle bound d).key c h) ∧
      (∀ bound bound', bound ≤ bound' → (participle bound d).key c h = .ok "1" →
        (participle bound' d).key c h = .ok "1") ∧
      ∀ bound, h.position ≤ bound →
        (participle bound d).key c h = (participle h.position d).key c h := by
  obtain ⟨word, hw⟩ := Corpus.exists_wordAt hs
  refine ⟨_, word, ofRaw_toRaw entries, hw, key_cases hd hw, ?_, ?_, ?_⟩
  · intro c' hwords bound
    have hw' : ∀ o, c'.wordAt h o = .ok (word o) := by
      intro o
      rw [← hw o, Corpus.wordAt, Corpus.wordAt, hwords]
    rw [key_of_not_dynamic hw' rfl, key_of_not_dynamic hw rfl]
  · intro bound bound' hb hone
    rw [key_eq_one_iff hd hw] at hone ⊢
    exact hone.mono hb
  · intro bound hb
    refine key_congr hd hw ⟨?_, fun hrule => hrule.mono hb⟩
    rintro ⟨hcompatible, k, hk, _, hgov⟩
    exact ⟨hcompatible, k, hk, hgov.le_position hs hw, hgov⟩

/-- A word that is as often no participle as it is one. -/
def openedCounts : List (String × List (String × Int)) :=
  [("opened", [("VBN", 2), ("JJ", 5), ("VBD", 3)]), ("door", [("NN", 4)])]

/-- The auxiliary has a long `ſ`, and a word stands between it and the participle. -/
def doorOpened : Corpus := Corpus.empty.run [.add ["But", "it", "WAſ", "just", "opened"] none]

theorem participle_rule_doorOpened :
    Distinct openedCounts ∧ doorOpened.Knows 0 ∧
      ∃ d, TagDictionary.ofRaw (toRaw openedCounts) = .ok d ∧
        (participle 1 d).key doorOpened ⟨0, 4⟩ = .ok "0" ∧
        ∀ bound, 2 ≤ bound → (participle bound d).key doorOpened ⟨0, 4⟩ = .ok "1" := by
  have hd : Distinct openedCounts := ⟨by decide, by decide⟩
  have hs : doorOpened.Knows 0 := by decide
  obtain ⟨d, word, hread, hw, hcases, -, hmono, -⟩ := participle_rule hd (h := ⟨0, 4⟩) hs
  have hword : ∀ o w, doorOpened.wordAt ⟨0, 4⟩ o = .ok w → word o = w := fun o w ho =>
    Except.ok.inj ((hw o).symm.trans ho)
  have hzero : word 0 = "opened" := hword 0 _ rfl
  have hone : word (-1) = "just" := hword (-1) _ rfl
  have htwo : word (-2) = "WAſ" := hword (-2) _ rfl
  have hjust : ¬ Among auxiliaries "just" ∧ ¬ Among stoppers "just" := by
    rw [← isAuxiliary_iff, ← isStopper_iff]
    decide +kernel
  have hgov : GovernedFrom word 2 := by
    refine ⟨htwo ▸ isAuxiliary_iff.mp (by decide +kernel), ?_⟩
    intro j hj hj2
    obtain rfl : j = 1 := by omega
    exact hone ▸ ⟨by decide, hjust.2⟩
  have hcompatible : Compatible (given openedCounts "opened") "opened" :=
    ⟨by decide +kernel, by decide +kernel⟩
  refine ⟨hd, hs, d, hread, ?_, fun bound hb => hmono 2 bound hb ?_⟩
  · rcases hcases 1 with ⟨⟨_, k, hk, hk1, hgov1⟩, _⟩ | ⟨_, hkey⟩
    · obtain rfl : k = 1 := by omega
      exact absurd (hone ▸ hgov1.auxiliary) hjust.1
    · exact hkey
  · rcases hcases 2 with ⟨_, hkey⟩ | ⟨hno, _⟩
    · exact hkey
    · exact absurd ⟨hzero ▸ hcompatible, 2, by decide, by decide, hgov⟩ hno

end Template
end TaggerFeatures
