import TaggerFeatures.Architecture.Compile
import TaggerFeatures.Proofs.Architecture.Grammar
import TaggerFeatures.Proofs.SortedMap

/-!
What a token is, and when compiling it fails. A token that is read is compiled, or is for another
compiler, or is unknown, whatever the order of the tests; only the arguments of a keyword can be
refused.
-/
namespace TaggerFeatures

/-- Every count that is given is an integer. -/
def TagDictionary.AllIntegers (raw : RawDictionary) : Prop :=
  ∀ entry ∈ raw, ∀ count ∈ entry.2, ∃ n, count.2 = .integer n

theorem TagDictionary.AllIntegers.counted {raw : RawDictionary} (h : AllIntegers raw) :
    Counted raw := by
  intro entry hentry count hcount
  obtain ⟨n, hn⟩ := h entry hentry count hcount
  exact ⟨n, by rw [hn, RawCount.toInt]⟩

theorem TagDictionary.allIntegers_toRaw (entries : List (String × List (String × Int))) :
    AllIntegers (toRaw entries) := by
  intro entry hentry count hcount
  obtain ⟨⟨word, counts⟩, _, rfl⟩ := List.mem_map.mp hentry
  obtain ⟨⟨tag, n⟩, _, rfl⟩ := List.mem_map.mp hcount
  exact ⟨n, rfl⟩

namespace Architecture
open Text

/-! ## Classes of tokens -/

/-- The token is the name of a fixed list, or a keyword with parentheses. -/
inductive Token.Compiled (t : Token) : Prop
  | sighan2005 : t.text = "sighan2005" → Compiled t
  | german : lowered t.text = "german" → Compiled t
  | keyword (k : Keyword) : t.parenthesized = true → t.name = k.name → Compiled t

/-- The token is for another compiler. -/
inductive Token.Reserved (t : Token) : Prop
  | word : lowered t.text ∈ reservedWords → Reserved t
  | function : t.parenthesized = true → t.name ∈ reservedFunctions → Reserved t
  | start : reservedStart.toList <+: t.text.toList → Reserved t

/-- The token is for no compiler. -/
def Token.Unknown (t : Token) : Prop := ¬ t.Compiled ∧ ¬ t.Reserved

variable {t : Token}

theorem fixedSet?_eq_none_iff {s : String} :
    fixedSet? s = none ↔ s ≠ "sighan2005" ∧ lowered s ≠ "german" := by
  unfold fixedSet?
  split
  · simp [*]
  · split <;> simp [*]

theorem Keyword.ofName?_eq_none_iff {name : String} :
    ofName? name = none ↔ ∀ k : Keyword, name ≠ k.name := by
  have hall : ∀ k : Keyword, k ∈ all := fun k => by cases k <;> decide
  simp only [ofName?, List.find?_eq_none, beq_iff_eq]
  exact ⟨fun h k he => h k (hall k) he.symm, fun h k _ he => h k he.symm⟩

namespace Token

theorem keyword?_eq_none_iff :
    t.keyword? = none ↔ ¬ (t.parenthesized = true ∧ ∃ k : Keyword, t.name = k.name) := by
  unfold keyword?
  split
  · rename_i hp
    simp [hp, Keyword.ofName?_eq_none_iff]
  · rename_i hp
    simp [hp]

theorem not_compiled_iff : ¬ t.Compiled ↔ fixedSet? t.text = none ∧ t.keyword? = none := by
  rw [fixedSet?_eq_none_iff, keyword?_eq_none_iff]
  constructor
  · exact fun h => ⟨⟨fun hs => h (.sighan2005 hs), fun hg => h (.german hg)⟩,
      fun ⟨hp, k, hk⟩ => h (.keyword k hp hk)⟩
  · rintro ⟨⟨hs, hg⟩, hk⟩ (h | h | ⟨k, hp, h⟩)
    · exact hs h
    · exact hg h
    · exact hk ⟨hp, k, h⟩

theorem reserved_iff : t.Reserved ↔ t.isReserved = true := by
  simp only [isReserved, Bool.or_eq_true, Bool.and_eq_true, List.contains_iff_mem,
    List.isPrefixOf_iff_prefix]
  constructor
  · rintro (h | ⟨hp, h⟩ | h)
    · exact Or.inl (Or.inl h)
    · exact Or.inl (Or.inr ⟨hp, h⟩)
    · exact Or.inr h
  · rintro ((h | ⟨hp, h⟩) | h)
    · exact .word h
    · exact .function hp h
    · exact .start h

instance : DecidablePred Compiled := fun t =>
  decidable_of_iff (¬ (fixedSet? t.text = none ∧ t.keyword? = none))
    (not_iff_comm.mp not_compiled_iff)

instance : DecidablePred Reserved := fun t =>
  decidable_of_iff (t.isReserved = true) reserved_iff.symm

instance : DecidablePred Unknown := fun t =>
  inferInstanceAs (Decidable (¬ t.Compiled ∧ ¬ t.Reserved))

theorem meaning_eq_unknown_iff : t.meaning = .unknown ↔ t.Unknown := by
  rw [Unknown, not_compiled_iff, reserved_iff]
  unfold meaning
  cases fixedSet? t.text with
  | some set => simp
  | none =>
      cases t.keyword? with
      | some k => simp
      | none => cases t.isReserved <;> simp

/-- Only what is compiled has templates, or a failure. -/
theorem templates_of_not_compiled (h : ¬ t.Compiled) (source : RawDictionary) :
    t.templates source = .ok [] := by
  obtain ⟨hf, hk⟩ := not_compiled_iff.mp h
  simp only [templates, meaning, hf, hk]
  cases t.isReserved <;> rfl

end Token

/-! ## The classes are disjoint -/

theorem mem_lowercase_of_mem {s : List Char} (h : '(' ∈ s) : '(' ∈ Unicode.lowercase s := by
  suffices hb : ∀ before, '(' ∈ Unicode.Lowercase.behind before s from hb []
  induction s with
  | nil => cases h
  | cons c cs ih =>
      intro before
      rw [Unicode.Lowercase.behind, List.mem_append]
      rcases List.mem_cons.mp h with rfl | hcs
      · exact Or.inl (by simp; decide)
      · exact Or.inr (ih hcs (c :: before))

theorem head?_lowercase (cs : List Char) : (Unicode.lowercase ('p' :: cs)).head? = some 'p' := by
  rw [Unicode.lowercase, Unicode.Lowercase.behind, if_neg (by simp)]
  rfl

theorem head?_trim {c : Char} (hc : isBlank c = false) (cs : List Char) :
    (trim (c :: cs)).head? = some c := by
  obtain ⟨b, b', hb, hb', h⟩ := exists_trim (c :: cs)
  have hne : ∀ s : List Char, AllBlank s → s.head? ≠ some c := by
    intro s hs hhead
    have := hs c (List.mem_of_head? hhead)
    rw [hc] at this
    cases this
  have hhead := congrArg List.head? h
  cases b with
  | cons d b =>
      exact absurd hhead.symm (hne (d :: b) hb)
  | nil =>
      cases ht : trim (c :: cs) with
      | nil =>
          rw [ht] at hhead
          exact absurd hhead.symm (hne b' hb')
      | cons d ds =>
          rw [ht] at hhead
          exact hhead.symm

theorem head?_of_reservedStart {s : List Char} (h : reservedStart.toList <+: s) :
    s.head? = some 'p' := by
  obtain ⟨rest, rfl⟩ := h
  rfl

theorem Keyword.head?_name_ne (k : Keyword) : k.name.toList.head? ≠ some 'p' := by
  cases k <;> decide

theorem Keyword.name_not_mem_reservedFunctions (k : Keyword) : k.name ∉ reservedFunctions := by
  cases k <;> decide

theorem Segment.mem_of_parenthesized {s : List Char} (h : Segment s (some t))
    (hp : t.parenthesized = true) : '(' ∈ t.text.toList := by
  cases h with
  | bare => cases hp
  | call h => simp [h]

theorem Segment.head?_name {s : List Char} (h : Segment s (some t)) (hp : t.parenthesized = true)
    {c : Char} (hc : isBlank c = false) (hopen : c ≠ '(') (hhead : t.text.toList.head? = some c) :
    t.name.toList.head? = some c := by
  cases h with
  | bare => cases hp
  | @call name _ h =>
      rw [String.toList_ofList, h] at hhead
      rw [String.toList_ofList]
      cases name with
      | nil =>
          cases hhead
          exact absurd rfl hopen
      | cons d ds =>
          cases hhead
          exact head?_trim hc ds

theorem Segment.mem_lowered {s : List Char} (h : Segment s (some t)) (hp : t.parenthesized = true) :
    '(' ∈ (lowered t.text).toList := by
  rw [lowered, String.toList_ofList]
  exact mem_lowercase_of_mem (h.mem_of_parenthesized hp)

/-- Fixed lists have no parentheses. -/
theorem Segment.fixedSet?_eq_none {s : List Char} (h : Segment s (some t))
    (hp : t.parenthesized = true) : fixedSet? t.text = none := by
  refine fixedSet?_eq_none_iff.mpr ⟨?_, ?_⟩
  · intro hs
    have hopen := h.mem_of_parenthesized hp
    rw [hs] at hopen
    exact absurd hopen (by decide)
  · intro hg
    have hopen := h.mem_lowered hp
    rw [hg] at hopen
    exact absurd hopen (by decide)

theorem Segment.lowered_not_mem {s : List Char} (h : Segment s (some t))
    (hp : t.parenthesized = true) : lowered t.text ∉ reservedWords := by
  have hno : ∀ w ∈ reservedWords, '(' ∉ w.toList := by decide +kernel
  exact fun hw => hno _ hw (h.mem_lowered hp)

/-- A token is not at once compiled and for another compiler. -/
theorem Segment.not_compiled {s : List Char} (h : Segment s (some t)) (hr : t.Reserved) :
    ¬ t.Compiled := by
  intro hc
  cases hc with
  | sighan2005 hs =>
      cases hr with
      | word hw =>
          rw [hs] at hw
          revert hw
          decide +kernel
      | function hp _ => exact (fixedSet?_eq_none_iff.mp (h.fixedSet?_eq_none hp)).1 hs
      | start hstart =>
          rw [hs] at hstart
          cases head?_of_reservedStart hstart
  | german hg =>
      cases hr with
      | word hw =>
          rw [hg] at hw
          exact absurd hw (by decide)
      | function hp _ => exact (fixedSet?_eq_none_iff.mp (h.fixedSet?_eq_none hp)).2 hg
      | start hstart =>
          obtain ⟨cs, hcs⟩ := List.head?_eq_some_iff.mp (head?_of_reservedStart hstart)
          have hhead := head?_lowercase cs
          rw [← hcs, ← String.toList_ofList (l := Unicode.lowercase _), ← lowered, hg] at hhead
          cases hhead
  | keyword k hp hk =>
      cases hr with
      | word hw => exact h.lowered_not_mem hp hw
      | function _ hf =>
          rw [hk] at hf
          exact k.name_not_mem_reservedFunctions hf
      | start hstart =>
          have hhead := h.head?_name hp (by decide) (by decide) (head?_of_reservedStart hstart)
          rw [hk] at hhead
          exact k.head?_name_ne hhead

/-! ## Failures -/

/-- Why the arguments of a keyword are refused. -/
inductive Token.Refused (t : Token) : Failure → Prop
  | unreadable {k e} : t.meaning = .keyword k → t.integers = .error e →
      Refused t (.ofArgumentError e)
  | negative {arguments} : t.meaning = .keyword .order → t.integers = .ok arguments →
      Keyword.argument arguments 1 < 0 →
      Refused t (.malformed (.negativeRightOrder (Keyword.argument arguments 1) t.text))

theorem exists_ofRaw {raw : RawDictionary} (h : TagDictionary.AllIntegers raw) :
    ∃ d, TagDictionary.ofRaw raw = .ok d :=
  TagDictionary.exists_ofRaw_iff.mpr h.counted

variable {source : RawDictionary} {e : Failure}

theorem Keyword.templates_eq_error_iff (h : TagDictionary.AllIntegers source) (k : Keyword)
    (token : String) (arguments : List Int) :
    k.templates token arguments source = .error e ↔
      k = .order ∧ argument arguments 1 < 0 ∧
        e = .malformed (.negativeRightOrder (argument arguments 1) token) := by
  obtain ⟨d, hd⟩ := exists_ofRaw h
  cases k with
  | order =>
      simp only [templates]
      split
      · rename_i hb
        simp [hb, eq_comm]
      · rename_i hb
        simp [hb]
  | participle => simp [templates, hd]
  | _ => simp [templates]

/-- With counts that are integers a token fails just if its arguments are refused. -/
theorem Token.templates_eq_error_iff (h : TagDictionary.AllIntegers source) :
    t.templates source = .error e ↔ t.Refused e := by
  constructor
  · intro he
    unfold templates at he
    split at he
    · cases he
    · rename_i k hk
      split at he
      · rename_i e' hi
        cases he
        exact .unreadable hk hi
      · rename_i arguments hi
        obtain ⟨rfl, hneg, rfl⟩ := (k.templates_eq_error_iff h t.text arguments).mp he
        exact .negative hk hi hneg
    · cases he
    · cases he
  · rintro (⟨hk, hi⟩ | ⟨hk, hi, hneg⟩)
    · simp only [templates, hk, hi]
    · simp only [templates, hk, hi]
      exact (Keyword.templates_eq_error_iff h .order t.text _).mpr ⟨rfl, hneg, rfl⟩

end Architecture
end TaggerFeatures
