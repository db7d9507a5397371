import TaggerFeatures.Proofs.Architecture.Limit

/-!
The arguments of a token as integers. A list of arguments is read just if each text between its
commas is a numeral within the limit, and the first one that is not decides the error. Integers are
found again however they are printed.
-/
namespace TaggerFeatures.Architecture
open Text

namespace Token

variable {t : Token} {token : String} {s raw : List Char} {i : Int} {e : ArgumentError}

/-! ## One argument -/

/-- The text denotes an integer: between blanks it is a numeral of that value within the limit. -/
def Denotes (s : List Char) (i : Int) : Prop :=
  ∃ n : Numeral, n.Writes (trim s) ∧ n.digits.length ≤ Numeral.maxDigits ∧ n.toInt = i

/-- What is wrong with a text as an argument of a token: it is no numeral, or one above the
limit. -/
inductive Offends (token : String) (s : List Char) : ArgumentError → Prop
  | notAnInteger : (∀ n : Numeral, ¬ n.Writes (trim s)) →
      Offends token s (.malformed (.notAnInteger (String.ofList (trim s)) token))
  | tooLong {n : Numeral} : n.Writes (trim s) → Numeral.maxDigits < n.digits.length →
      Offends token s (.tooLong ⟨n.digits.length⟩)

theorem readArgument_of_writes {n : Numeral} (h : n.Writes (trim s)) :
    readArgument token s = n.value.mapError .tooLong := by
  rw [readArgument, Numeral.ofChars?_eq_some_iff.mpr h]

theorem readArgument_of_not_writes (h : ∀ n : Numeral, ¬ n.Writes (trim s)) :
    readArgument token s = .error (.malformed (.notAnInteger (String.ofList (trim s)) token)) := by
  have hnone : Numeral.ofChars? (trim s) = none := by
    rw [Option.eq_none_iff_forall_ne_some]
    exact fun n hn => h n (Numeral.ofChars?_eq_some_iff.mp hn)
  rw [readArgument, hnone]

theorem writes_unique {n m : Numeral} (hn : n.Writes s) (hm : m.Writes s) : n = m :=
  Option.some.inj ((Numeral.ofChars?_eq_some_iff.mpr hn).symm.trans
    (Numeral.ofChars?_eq_some_iff.mpr hm))

theorem readArgument_eq_ok_iff : readArgument token s = .ok i ↔ Denotes s i := by
  by_cases h : ∃ n : Numeral, n.Writes (trim s)
  · obtain ⟨n, hn⟩ := h
    rw [readArgument_of_writes hn, mapError_eq_ok_iff, Numeral.value_eq_ok_iff]
    constructor
    · exact fun hvalue => ⟨n, hn, hvalue⟩
    · rintro ⟨m, hm, hvalue⟩
      rwa [writes_unique hn hm]
  · rw [not_exists] at h
    rw [readArgument_of_not_writes h]
    constructor
    · intro hok
      cases hok
    · rintro ⟨n, hn, _⟩
      exact absurd hn (h n)

theorem readArgument_eq_error_iff : readArgument token s = .error e ↔ Offends token s e := by
  by_cases h : ∃ n : Numeral, n.Writes (trim s)
  · obtain ⟨n, hn⟩ := h
    rw [readArgument_of_writes hn, mapError_eq_error_iff]
    constructor
    · rintro ⟨_, hvalue, rfl⟩
      obtain ⟨hlt, rfl⟩ := Numeral.value_eq_error_iff.mp hvalue
      exact .tooLong hn hlt
    · rintro (hno | ⟨hm, hlt⟩)
      · exact absurd hn (hno n)
      · rw [writes_unique hn hm]
        exact ⟨_, Numeral.value_eq_error_iff.mpr ⟨hlt, rfl⟩, rfl⟩
  · rw [not_exists] at h
    rw [readArgument_of_not_writes h]
    constructor
    · intro herror
      cases herror
      exact .notAnInteger h
    · rintro (_ | ⟨hm, _⟩)
      · rfl
      · exact absurd hm (h _)

/-! ## Lists of arguments -/

/-- Parts without commas, at least one, of which a text is joined with commas. -/
structure AreBetweenCommas (s : List Char) (parts : List (List Char)) : Prop where
  ne_nil : parts ≠ []
  not_comma : ∀ p ∈ parts, ',' ∉ p
  join_eq : join [','] parts = s

theorem areBetweenCommas_iff {parts : List (List Char)} :
    AreBetweenCommas s parts ↔ splitWhen (· == ',') s = parts := by
  rw [splitWhen_comma_iff]
  constructor
  · exact fun h => ⟨h.ne_nil, h.not_comma, h.join_eq⟩
  · rintro ⟨hne, hcomma, hjoin⟩
    exact ⟨hne, hcomma, hjoin⟩

/-- No arguments are given, or blanks alone. -/
def NoArguments (t : Token) : Prop := ∀ raw, t.arguments = some raw → AllBlank raw.toList

theorem integers_of_noArguments (h : t.NoArguments) : t.integers = .ok [] := by
  cases harguments : t.arguments with
  | none => simp only [integers, harguments]
  | some raw =>
      have hblank : trim raw.toList = [] := trim_eq_nil_iff.mpr (h raw harguments)
      simp only [integers, harguments, hblank, List.isEmpty_nil, if_true]

theorem integers_of_not_noArguments {parts : List (List Char)} {raw : String}
    (hraw : t.arguments = some raw) (h : ¬ t.NoArguments)
    (hparts : AreBetweenCommas raw.toList parts) :
    t.integers = parts.mapM (readArgument t.text) := by
  have hblank : (trim raw.toList).isEmpty = false := by
    rw [List.isEmpty_eq_false_iff, ne_eq, trim_eq_nil_iff]
    intro hall
    refine h fun raw' hraw' => ?_
    rw [hraw] at hraw'
    cases hraw'
    exact hall
  simp only [integers, hraw, hblank, areBetweenCommas_iff.mp hparts, Bool.false_eq_true, if_false]

theorem integers_eq_nil_iff : t.integers = .ok [] ↔ t.NoArguments := by
  refine ⟨fun h => ?_, integers_of_noArguments⟩
  by_contra hno
  obtain ⟨raw, hraw⟩ : ∃ raw, t.arguments = some raw := by
    by_contra hnone
    exact hno fun raw hraw => absurd ⟨raw, hraw⟩ hnone
  have hparts := areBetweenCommas_iff.mpr (Eq.refl (splitWhen (· == ',') raw.toList))
  rw [integers_of_not_noArguments hraw hno hparts] at h
  exact hparts.ne_nil (List.length_eq_zero_iff.mp (length_of_mapM_ok h).symm)

/-- A list of arguments gives the integers that its parts denote, or the error of the first part
that denotes none. -/
theorem integers_of_parts {parts : List (List Char)} {raw : String}
    (hraw : t.arguments = some raw) (h : ¬ t.NoArguments)
    (hparts : AreBetweenCommas raw.toList parts) :
    (∀ is, t.integers = .ok is ↔ List.Forall₂ Denotes parts is) ∧
    ((∃ is, t.integers = .ok is) ↔ ∀ p ∈ parts, ∃ i, Denotes p i) ∧
    ∀ e, t.integers = .error e ↔ ∃ before p after, parts = before ++ p :: after ∧
      (∀ q ∈ before, ∃ i, Denotes q i) ∧ Offends t.text p e := by
  rw [integers_of_not_noArguments hraw h hparts]
  refine ⟨fun is => ?_, ?_, fun e => ?_⟩
  · simp only [mapM_eq_ok_iff_forall₂, readArgument_eq_ok_iff]
  · simp only [exists_mapM_ok_iff, readArgument_eq_ok_iff]
  · simp only [mapM_eq_error_iff, readArgument_eq_ok_iff, readArgument_eq_error_iff]

/-! ## Printed integers -/

/-- The signs that an integer may be printed with. -/
def SignOf (i : Int) (sign : List Char) : Prop :=
  if i < 0 then sign = ['-'] else sign = [] ∨ sign = ['+']

/-- The texts that an integer may be printed as: its digits behind a sign and zeros, no more digits
in all than are read, between blanks. -/
inductive Prints (i : Int) : List Char → Prop
  | intro {front sign back : List Char} {zeros : Nat} : AllBlank front → SignOf i sign →
      zeros + (Nat.toDigits 10 i.natAbs).length ≤ Numeral.maxDigits → AllBlank back →
      Prints i (front ++ (sign ++ (List.replicate zeros '0' ++ Nat.toDigits 10 i.natAbs) ++ back))

/-- The numeral of an integer with zeros before its digits. -/
def padded (i : Int) (zeros : Nat) : Numeral :=
  ⟨decide (i < 0), List.replicate zeros '0' ++ Nat.toDigits 10 i.natAbs⟩

theorem isDigit_of_mem_padded {zeros : Nat} {c : Char} (h : c ∈ (padded i zeros).digits) :
    Numeral.isDigit c = true := by
  rcases List.mem_append.mp h with hzero | hdigit
  · rw [eq_zero_of_mem hzero]
    rfl
  · exact Numeral.isDigit_of_mem_toDigits hdigit

theorem toInt_padded (i : Int) (zeros : Nat) : (padded i zeros).toInt = i := by
  have hvalue : Numeral.ofDigits (padded i zeros).digits =
      Numeral.ofDigits (Nat.toDigits 10 i.natAbs) := by
    have hzeros := ofDigits_zeros zeros
    rw [Numeral.ofDigits] at hzeros ⊢
    rw [padded, List.foldl_append, hzeros]
    rfl
  rw [Numeral.toInt, ← Numeral.ofDigits_eq, hvalue, Numeral.ofDigits_eq]
  exact Numeral.toInt_toDigits i

theorem mem_of_signOf {sign : List Char} {c : Char} (h : SignOf i sign) (hc : c ∈ sign) :
    c = '-' ∨ c = '+' := by
  unfold SignOf at h
  split at h
  · rw [h] at hc
    exact Or.inl (List.mem_singleton.mp hc)
  · rcases h with rfl | rfl
    · cases hc
    · exact Or.inr (List.mem_singleton.mp hc)

theorem writes_of_signOf {sign digits : List Char} (h : SignOf i sign) (hne : digits ≠ [])
    (hd : ∀ c ∈ digits, Numeral.isDigit c = true) :
    (⟨decide (i < 0), digits⟩ : Numeral).Writes (sign ++ digits) := by
  unfold SignOf at h
  split at h
  · rename_i hi
    rw [h, decide_eq_true hi]
    exact .minus hne hd
  · rename_i hi
    rw [decide_eq_false hi]
    rcases h with rfl | rfl
    · exact .plain hne hd
    · exact .plus hne hd

/-- What an integer is printed as denotes it. -/
theorem Prints.denotes (h : Prints i s) : Denotes s i := by
  obtain @⟨front, sign, back, zeros, hfront, hsign, hlength, hback⟩ := h
  have hdigit : ∀ c ∈ (padded i zeros).digits, Numeral.isDigit c = true :=
    fun c => isDigit_of_mem_padded
  have hblank : ∀ c ∈ sign ++ (padded i zeros).digits, isBlank c = false := by
    intro c hc
    rcases List.mem_append.mp hc with hc | hc
    · rcases mem_of_signOf hsign hc with rfl | rfl <;> rfl
    · exact Numeral.isBlank_of_isDigit (hdigit c hc)
  have hwrites : (padded i zeros).Writes (sign ++ (padded i zeros).digits) :=
    writes_of_signOf hsign (List.append_ne_nil_of_right_ne_nil _ Nat.toDigits_ne_nil) hdigit
  refine ⟨padded i zeros, ?_, ?_, toInt_padded i zeros⟩
  · rw [← trim_of_not_blank hblank] at hwrites
    rwa [trim_blank_append hfront, trim_append_blank hback]
  · rwa [padded, List.length_append, List.length_replicate]

theorem not_writes_nil {n : Numeral} : ¬ n.Writes [] := by
  generalize hs : ([] : List Char) = s
  rintro (⟨hne, _⟩ | _ | _)
  · exact hne hs.symm
  · cases hs
  · cases hs

theorem Prints.not_comma (h : Prints i s) : ',' ∉ s := by
  obtain @⟨front, sign, back, zeros, hfront, hsign, hlength, hback⟩ := h
  have hsides : ∀ b, AllBlank b → ',' ∉ b := fun b hb hc => absurd (hb ',' hc) (by decide)
  have hdigits : ',' ∉ (padded i zeros).digits := fun hc =>
    absurd (isDigit_of_mem_padded hc) (by decide)
  have hsigns : ',' ∉ sign := fun hc => by
    rcases mem_of_signOf hsign hc with h | h <;> cases h
  intro hc
  rcases List.mem_append.mp hc with hc | hc
  · exact hsides front hfront hc
  rcases List.mem_append.mp hc with hc | hc
  · rcases List.mem_append.mp hc with hc | hc
    · exact hsigns hc
    · exact hdigits hc
  · exact hsides back hback hc

theorem not_comma_of_prints {is : List Int} {printed : List (List Char)}
    (h : List.Forall₂ Prints is printed) : ∀ p ∈ printed, ',' ∉ p := by
  induction h with
  | nil => exact List.forall_mem_nil _
  | cons hp _ ih => exact List.forall_mem_cons.mpr ⟨hp.not_comma, ih⟩

/-- Printed integers are found again between the commas. -/
theorem integers_of_prints {is : List Int} {printed : List (List Char)}
    (h : List.Forall₂ Prints is printed)
    (hraw : t.arguments = some (String.ofList (join [','] printed))) : t.integers = .ok is := by
  have hdenotes : List.Forall₂ Denotes printed is := h.flip.imp fun _ _ hp => hp.denotes
  have hcommas := not_comma_of_prints h
  by_cases hno : t.NoArguments
  · have hblank : trim (join [','] printed) = [] := by
      rw [trim_eq_nil_iff]
      simpa using hno _ hraw
    cases h with
    | nil => exact integers_of_noArguments hno
    | @cons i p is printed hp hrest =>
        -- Blanks alone are one part, which would have to be an integer.
        have hone := splitWhen_of_blank hblank
        rw [splitWhen_join (List.cons_ne_nil _ _) hcommas] at hone
        obtain ⟨hpart, -⟩ := List.cons.inj hone
        obtain ⟨n, hn, _⟩ := hp.denotes
        rw [hpart, hblank] at hn
        exact absurd hn not_writes_nil
  · have hne : printed ≠ [] := by
      rintro rfl
      refine hno fun raw hraw' => ?_
      rw [hraw] at hraw'
      cases hraw'
      exact List.forall_mem_nil _
    have hparts : AreBetweenCommas (String.ofList (join [','] printed)).toList printed :=
      ⟨hne, hcommas, by rw [String.toList_ofList]⟩
    exact ((integers_of_parts hraw hno hparts).1 is).mpr hdenotes

/-! ## Arguments -/

/-- There are no integers just if no arguments are given, or blanks alone. Other arguments are read
just if every part between the commas denotes an integer, and give these; else the first part that
denotes none is the one to blame. Printed integers are read as what they are. -/
theorem integers_exact (t : Token) :
    (t.integers = .ok [] ↔ t.NoArguments) ∧
    (∀ raw, t.arguments = some raw → ¬ t.NoArguments →
      (∃! parts, AreBetweenCommas raw.toList parts) ∧
      ∀ parts, AreBetweenCommas raw.toList parts →
        (∀ is, t.integers = .ok is ↔ List.Forall₂ Denotes parts is) ∧
        ((∃ is, t.integers = .ok is) ↔ ∀ p ∈ parts, ∃ i, Denotes p i) ∧
        ∀ e, t.integers = .error e ↔ ∃ before p after, parts = before ++ p :: after ∧
          (∀ q ∈ before, ∃ i, Denotes q i) ∧ Offends t.text p e) ∧
    ∀ is printed, List.Forall₂ Prints is printed →
      t.arguments = some (String.ofList (join [','] printed)) → t.integers = .ok is := by
  refine ⟨integers_eq_nil_iff, fun raw hraw hno => ⟨?_, ?_⟩, ?_⟩
  · simp only [areBetweenCommas_iff]
    exact ⟨_, rfl, fun parts hparts => hparts.symm⟩
  · exact fun parts hparts => integers_of_parts hraw hno hparts
  · exact fun is printed hprinted hraw => integers_of_prints hprinted hraw

/-- A token with signs, zeros and blanks in its arguments. -/
def signedTags : Token := ⟨"tags( +007,-2 )", "tags", some " +007,-2 "⟩

/-- A token with an argument left out. -/
def gappedTags : Token := ⟨"tags(1, ,x)", "tags", some "1, ,x"⟩

theorem integers_exact_tags :
    List.Forall₂ Prints [7, -2] [" +007".toList, "-2 ".toList] ∧ signedTags.integers = .ok [7, -2] ∧
    ¬ gappedTags.NoArguments ∧ AreBetweenCommas "1, ,x".toList [['1'], [' '], ['x']] ∧
    gappedTags.integers = .error (.malformed (.notAnInteger "" "tags(1, ,x)")) := by
  have hblank : AllBlank [' '] := List.forall_mem_singleton.mpr rfl
  have hnone : AllBlank [] := List.forall_mem_nil _
  have hseven : Prints 7 " +007".toList :=
    @Prints.intro 7 [' '] ['+'] [] 2 hblank (Or.inr rfl) (by decide) hnone
  have hminusTwo : Prints (-2) "-2 ".toList :=
    @Prints.intro (-2) [] ['-'] [' '] 0 hnone rfl (by decide) hblank
  have hprinted : List.Forall₂ Prints [7, -2] [" +007".toList, "-2 ".toList] :=
    .cons hseven (.cons hminusTwo .nil)
  have hgiven : ¬ gappedTags.NoArguments := fun h => absurd (h "1, ,x" rfl '1') (by decide)
  have hparts : AreBetweenCommas "1, ,x".toList [['1'], [' '], ['x']] :=
    ⟨by decide, by decide, by decide⟩
  have hone : ∃ i, Denotes ['1'] i :=
    ⟨1, ⟨false, ['1']⟩, .plain (by decide) (List.forall_mem_singleton.mpr rfl), by decide,
      by decide⟩
  have hgap : Offends "tags(1, ,x)" [' ']
      (.malformed (.notAnInteger "" "tags(1, ,x)")) := .notAnInteger fun n => not_writes_nil
  obtain ⟨-, -, hread⟩ := integers_exact signedTags
  obtain ⟨-, hgivens, -⟩ := integers_exact gappedTags
  obtain ⟨-, -, herror⟩ := (hgivens "1, ,x" rfl hgiven).2 _ hparts
  exact ⟨hprinted, hread _ _ hprinted rfl, hgiven, hparts, (herror _).mpr
    ⟨[['1']], [' '], [['x']], rfl, List.forall_mem_singleton.mpr hone, hgap⟩⟩

end Token
end TaggerFeatures.Architecture
