import TaggerFeatures.Proofs.Architecture.Squeeze
import TaggerFeatures.Proofs.Architecture.Tokenwise

/-!
Blanks beside delimiters have no influence. Tokens keep their meaning and their integers without
them, so that an architecture is compiled to the same templates whatever its spacing is.
-/
namespace TaggerFeatures.Architecture
open Text

variable {s name arguments : List Char} {t : Token}

/-! ## One token -/

/-- The token of the text without blanks. -/
def Token.squeezed (t : Token) : Token :=
  ⟨Architecture.squeezed t.text, t.name, t.arguments.map Architecture.squeezed⟩

theorem squeeze_of_trim_plain (h : IsPlain (trim s)) : squeeze s = trim s := by
  rw [← squeeze_trim, squeeze_plain h, trim_trim]

theorem squeeze_of_trim_call {more : List Char}
    (h : trim s = name ++ '(' :: (arguments ++ ')' :: more)) (hname : IsPlain name) :
    squeeze s = trim name ++ '(' :: (squeeze arguments ++ ')' :: squeeze more) := by
  rw [← squeeze_trim, h, squeeze_plain_append_cons hname rfl, squeeze_append_cons rfl]

theorem Segment.squeezed (h : Segment s (some t)) : Segment (squeeze s) (some t.squeezed) := by
  cases h with
  | bare hne hplain =>
      have hbare : Segment (trim s) _ := .bare (by rwa [trim_trim]) (by rwa [trim_trim])
      rw [trim_trim] at hbare
      rw [squeeze_of_trim_plain hplain, Token.squeezed, Architecture.squeezed,
        String.toList_ofList, squeeze_trim, squeeze_of_trim_plain hplain]
      exact hbare
  | call h hname hopen hclose =>
      have hcall := Segment.call ((trim_squeeze s).trans (squeeze_of_trim_call h hname)) hname.trim
        (fun h => hopen (mem_of_mem_squeeze h)) fun h => hclose (mem_of_mem_squeeze h)
      rw [trim_squeeze, trim_trim] at hcall
      simp only [Token.squeezed, Architecture.squeezed, String.toList_ofList, squeeze_trim,
        Option.map_some]
      exact hcall

theorem ofChars_squeeze_error {e : Malformed} (hs : IsPiece false s)
    (h : Token.ofChars s = .error e) : ∃ e', Token.ofChars (squeeze s) = .error e' := by
  rw [← isPiece_trim] at hs
  rcases isPlain_or_call hs with hplain | ⟨name, arguments, more, htrim, hname, hopen, hclose⟩
  · rw [ofChars_bare hplain.not_open hplain.not_close] at h
    cases h
  · cases more with
    | nil =>
        rw [ofChars_call htrim hname.not_open hclose] at h
        cases h
    | cons c more =>
        -- What stands behind the parentheses is not blank, as the text is trimmed.
        have hrest : squeeze (c :: more) ≠ [] := by
          intro hnil
          have hend := trimEnd_trim s
          rw [htrim, ← List.cons_append, ← List.append_assoc, trimEnd_append_cons (by decide),
            trimEnd_eq_nil_iff.mpr (squeeze_eq_nil_iff.mp hnil)] at hend
          cases (List.cons.inj (List.append_cancel_left hend)).2
        obtain ⟨d, ds, hds⟩ := List.exists_cons_of_ne_nil hrest
        have hsqueeze := (trim_squeeze s).trans (squeeze_of_trim_call htrim hname)
        rw [hds] at hsqueeze
        exact ⟨_, ofChars_text_after hsqueeze hname.trim.not_open
          fun h => hclose (mem_of_mem_squeeze h)⟩

/-! ## The meaning of a token -/

theorem prefix_append_cons_iff {w : List Char} {c : Char} (hc : c ∉ w) (s t : List Char) :
    w <+: s ++ c :: t ↔ w <+: s := by
  constructor
  · intro h
    rcases List.prefix_or_prefix_of_prefix h (List.prefix_append s (c :: t)) with hw | ⟨r, rfl⟩
    · exact hw
    · cases r with
      | nil => simp
      | cons d r =>
          rw [List.prefix_append_right_inj, List.cons_prefix_cons] at h
          exact absurd (by simp [h.1]) hc
  · exact fun h => h.trans (List.prefix_append _ _)

theorem prefix_append_blank_iff {w b : List Char} (hw : ∀ c ∈ w, isBlank c = false)
    (hb : AllBlank b) (s : List Char) : w <+: s ++ b ↔ w <+: s := by
  cases b with
  | nil => rw [List.append_nil]
  | cons c b =>
      refine prefix_append_cons_iff (fun hc => ?_) s b
      have hblank := hb c List.mem_cons_self
      rw [hw c hc] at hblank
      cases hblank

theorem reservedStart_prefix_iff (h : trim s = name ++ '(' :: arguments) (rest : List Char) :
    reservedStart.toList <+: trim s ↔ reservedStart.toList <+: trim name ++ '(' :: rest := by
  have hblank : ∀ c ∈ reservedStart.toList, isBlank c = false :=
    not_blank_of_any (by decide)
  have hopen : '(' ∉ reservedStart.toList := by decide
  have hstart : trimStart name = name := by
    have h' := trimStart_trim s
    rw [h, trimStart_append_cons (by decide)] at h'
    exact List.append_cancel_right h'
  obtain ⟨b, hb, hname⟩ := exists_trimEnd name
  rw [h, prefix_append_cons_iff hopen, prefix_append_cons_iff hopen, trim, hstart]
  conv => lhs; rw [hname]
  exact prefix_append_blank_iff hblank hb _

theorem Segment.isReserved_of_parenthesized (h : Segment s (some t)) (hp : t.parenthesized = true) :
    t.isReserved = (reservedFunctions.contains t.name ||
      reservedStart.toList.isPrefixOf t.text.toList) := by
  have hword : reservedWords.contains (lowered t.text) = false := by
    rw [← Bool.not_eq_true, List.contains_iff_mem]
    exact h.lowered_not_mem hp
  rw [Token.isReserved, hword, hp, Bool.false_or, Bool.true_and]

theorem Segment.reservedStart_iff (h : Segment s (some t)) (hp : t.parenthesized = true) :
    reservedStart.toList <+: t.squeezed.text.toList ↔ reservedStart.toList <+: t.text.toList := by
  cases h with
  | bare => cases hp
  | call h hname _ _ =>
      rw [Token.squeezed, Architecture.squeezed, String.toList_ofList, String.toList_ofList,
        squeeze_trim, squeeze_of_trim_call h hname]
      exact (reservedStart_prefix_iff h _).symm

/-- Blanks change no name, and no text that is compared as a whole. -/
theorem Segment.meaning_squeezed (h : Segment s (some t)) : t.squeezed.meaning = t.meaning := by
  cases ht : t.arguments with
  | none =>
      cases h with
      | bare _ hplain =>
          rw [Token.squeezed, Architecture.squeezed, String.toList_ofList, squeeze_trim,
            squeeze_of_trim_plain hplain]
          rfl
      | call => cases ht
  | some raw =>
      have hp : t.parenthesized = true := by simp [Token.parenthesized, ht]
      have hp' : t.squeezed.parenthesized = true := by
        simp [Token.parenthesized, Token.squeezed, ht]
      have hkeyword : t.squeezed.keyword? = t.keyword? := by
        rw [Token.keyword?, Token.keyword?, if_pos hp, if_pos hp']
        rfl
      have hreserved : t.squeezed.isReserved = t.isReserved := by
        have hstart : reservedStart.toList.isPrefixOf t.squeezed.text.toList =
            reservedStart.toList.isPrefixOf t.text.toList := by
          rw [Bool.eq_iff_iff, List.isPrefixOf_iff_prefix, List.isPrefixOf_iff_prefix,
            h.reservedStart_iff hp]
        rw [h.squeezed.isReserved_of_parenthesized hp', h.isReserved_of_parenthesized hp, hstart]
        rfl
      rw [Token.meaning, Token.meaning, h.fixedSet?_eq_none hp, h.squeezed.fixedSet?_eq_none hp',
        hkeyword, hreserved]

/-! ## Integers -/

/-- A failure without the text that it reports: all malformed architectures are alike. -/
inductive Failure.Kind
  | malformed
  | tooLong (error : Numeral.TooLong)
  | count (error : RawCount.Error)

def Failure.kind : Failure → Kind
  | malformed _ => .malformed
  | tooLong error => .tooLong error
  | count error => .count error

def ArgumentError.kind (e : ArgumentError) : Failure.Kind := (Failure.ofArgumentError e).kind

theorem readArgument_trim (text text' : String) (s : List Char) :
    (Token.readArgument text (trim s)).mapError ArgumentError.kind =
      (Token.readArgument text' s).mapError ArgumentError.kind := by
  simp only [Token.readArgument, trim_trim]
  cases Numeral.ofChars? (trim s) with
  | none => rfl
  | some numeral => cases h : numeral.value <;> simp [h, Except.mapError]

/-- Items between commas are trimmed. -/
theorem splitWhen_squeeze (hopen : '(' ∉ s) (hclose : ')' ∉ s) :
    splitWhen (· == ',') (squeeze s) = (splitWhen (· == ',') s).map trim := by
  induction s using delimiter_induction with
  | plain p hp =>
      rw [squeeze_plain hp, splitWhen_eq_singleton (beq_of_not_mem hp.trim.not_comma),
        splitWhen_eq_singleton (beq_of_not_mem hp.not_comma), List.map_singleton]
  | cons p d s hp hd ih =>
      have hcomma : d = ',' := by
        simp only [isDelimiter, Bool.or_eq_true, beq_iff_eq] at hd
        rcases hd with (rfl | rfl) | rfl
        · exact absurd (by simp) hopen
        · exact absurd (by simp) hclose
        · rfl
      subst hcomma
      rw [squeeze_plain_append_cons hp hd,
        splitWhen_append_cons (beq_of_not_mem hp.trim.not_comma) rfl,
        splitWhen_append_cons (beq_of_not_mem hp.not_comma) rfl, List.map_cons,
        ih (fun h => hopen (by simp [h])) fun h => hclose (by simp [h])]

theorem Segment.integers_squeezed (h : Segment s (some t)) :
    t.squeezed.integers.mapError ArgumentError.kind = t.integers.mapError ArgumentError.kind := by
  cases h with
  | bare => rfl
  | @call name arguments h hname hopen hclose =>
      simp only [Token.integers, Token.squeezed, Architecture.squeezed, Option.map_some,
        String.toList_ofList, trim_squeeze]
      have hempty : (squeeze arguments).isEmpty = (trim arguments).isEmpty := by
        rw [Bool.eq_iff_iff, List.isEmpty_iff, List.isEmpty_iff, squeeze_eq_nil_iff,
          trim_eq_nil_iff]
      rw [hempty]
      split
      · rfl
      · rw [splitWhen_squeeze hopen hclose, mapM_mapError, mapM_mapError, List.mapM_map]
        exact mapM_congr fun item _ => readArgument_trim _ _ item

/-! ## Templates -/

theorem Keyword.templates_kind (k : Keyword) (text text' : String) (arguments : List Int)
    (source : RawDictionary) :
    (k.templates text arguments source).mapError Failure.kind =
      (k.templates text' arguments source).mapError Failure.kind := by
  cases k with
  | order =>
      simp only [templates]
      split <;> rfl
  | _ => rfl

theorem Segment.templates_squeezed (h : Segment s (some t)) (source : RawDictionary) :
    (t.squeezed.templates source).mapError Failure.kind =
      (t.templates source).mapError Failure.kind := by
  simp only [Token.templates, h.meaning_squeezed]
  cases t.meaning with
  | keyword k =>
      rcases cases_of_mapError_eq h.integers_squeezed with
        ⟨arguments, hi, hi'⟩ | ⟨e, e', hi, hi', hkind⟩
      · simp only [hi, hi']
        exact k.templates_kind _ _ _ _
      · simp only [hi, hi']
        exact congrArg Except.error hkind
  | _ => rfl

/-! ## Architectures -/

/-- The same templates or failures of one kind, and equally many warnings. -/
structure Compilation.Alike (c c' : Compilation) : Prop where
  outcome : c.outcome.mapError Failure.kind = c'.outcome.mapError Failure.kind
  unknown : c.unknown.length = c'.unknown.length

theorem compileTokens_squeezed (source : RawDictionary) {tokens : List Token}
    (h : ∀ t ∈ tokens, ∃ s, Segment s (some t)) :
    (compileTokens source (tokens.map Token.squeezed)).Alike (compileTokens source tokens) := by
  induction tokens with
  | nil => exact ⟨rfl, rfl⟩
  | cons t rest ih =>
      obtain ⟨⟨s, hs⟩, hrest⟩ := List.forall_mem_cons.mp h
      obtain ⟨houtcome, hunknown⟩ := ih hrest
      rw [List.map_cons, compileTokens, compileTokens, hs.meaning_squeezed]
      rcases cases_of_mapError_eq (hs.templates_squeezed source) with
        ⟨templates, ht, ht'⟩ | ⟨e, e', ht, ht', hkind⟩
      · simp only [ht, ht']
        refine ⟨?_, ?_⟩
        · rcases cases_of_mapError_eq houtcome with ⟨after, ho, ho'⟩ | ⟨e, e', ho, ho', hkind⟩
          · simp only [ho, ho']
          · simp only [ho, ho']
            exact congrArg Except.error hkind
        · split <;> simp [hunknown]
      · simp only [ht, ht']
        exact ⟨congrArg Except.error hkind, rfl⟩

variable {arch arch' : String} {token : String}

theorem ofString_squeezed (hmem : token ∈ split arch) (hp : IsPiece false token.toList)
    (h : Token.ofString token = .ok t) : Token.ofString (squeezed token) = .ok t.squeezed := by
  obtain ⟨htrim, hne⟩ := trim_token hmem
  have hseg := (segment_of_ofChars hp (by rwa [htrim]) h).squeezed
  rw [Token.ofString, squeezed, String.toList_ofList, hseg.ofChars]

theorem ofString_squeezed_error {e : Malformed} (hp : IsPiece false token.toList)
    (h : Token.ofString token = .error e) :
    ∃ e', Token.ofString (squeezed token) = .error e' := by
  rw [Token.ofString, squeezed, String.toList_ofList]
  exact ofChars_squeeze_error hp h

theorem inOrder_expand_squeezed_iff :
    InOrder (expand (squeezed arch)) ↔ InOrder (expand arch) := by
  rw [inOrder_expand_iff, inOrder_squeezed_iff, inOrder_expand_iff]

theorem tokenize_expand_squeezed {tokens : List Token} (h : tokenize (expand arch) = .ok tokens) :
    tokenize (expand (squeezed arch)) = .ok (tokens.map Token.squeezed) := by
  obtain ⟨hin, hm⟩ := tokenize_eq_ok_iff.mp h
  refine tokenize_eq_ok_iff.mpr ⟨inOrder_expand_squeezed_iff.mpr hin, ?_⟩
  rw [split_expand_squeezed]
  exact mapM_map_of_ok (fun u hu _ => ofString_squeezed hu (hin u hu)) hm

theorem tokenize_expand_squeezed_error {e : Malformed} (h : tokenize (expand arch) = .error e) :
    ∃ e', tokenize (expand (squeezed arch)) = .error e' := by
  cases h' : tokenize (expand (squeezed arch)) with
  | error e' => exact ⟨e', rfl⟩
  | ok tokens =>
      obtain ⟨hin, hm⟩ := tokenize_eq_ok_iff.mp h'
      rw [inOrder_expand_squeezed_iff] at hin
      rw [tokenize, splitStrict_of_inOrder hin] at h
      obtain ⟨e', he'⟩ := mapM_map_of_error (fun u hu _ => ofString_squeezed_error (hin u hu)) h
      rw [split_expand_squeezed, he'] at hm
      cases hm

/-- An architecture without the blanks beside its delimiters is compiled like the architecture. -/
theorem compile_squeezed (arch : String) (source : RawDictionary) :
    (compile (squeezed arch) source).Alike (compile arch source) := by
  cases h : tokenize (expand arch) with
  | ok tokens =>
      rw [compile_of_tokenize source (tokenize_expand_squeezed h), compile_of_tokenize source h]
      exact compileTokens_squeezed source fun t ht => ⟨_, (exists_segment_of_mem h ht).2⟩
  | error e =>
      obtain ⟨e', h'⟩ := tokenize_expand_squeezed_error h
      rw [compile_of_malformed source h', compile_of_malformed source h]
      exact ⟨rfl, rfl⟩

/-- Blanks that are put beside delimiters and at the ends, or taken away there, change neither the
templates nor the kind of a failure, nor the number of warnings. -/
theorem compile_respaced (h : Respaced arch arch') (source : RawDictionary) :
    ((∃ templates, (compile arch source).outcome = .ok templates ∧
        (compile arch' source).outcome = .ok templates) ∨
      ∃ e e', (compile arch source).outcome = .error e ∧
        (compile arch' source).outcome = .error e' ∧ e.kind = e'.kind) ∧
    (compile arch source).warnings.length = (compile arch' source).warnings.length := by
  obtain ⟨houtcome, hunknown⟩ := compile_squeezed arch source
  obtain ⟨houtcome', hunknown'⟩ := compile_squeezed arch' source
  rw [h.squeezed_eq] at houtcome hunknown
  refine ⟨cases_of_mapError_eq (houtcome.symm.trans houtcome'), ?_⟩
  rw [Compilation.warnings, Compilation.warnings, List.length_map, List.length_map, ← hunknown,
    hunknown']

/-- One blank goes from in front of a comma to in front of a parenthesis. -/
theorem compile_respaced_order :
    Respaced "order(2 ,1)" "order (2,1)" ∧
    (compile "order(2 ,1)" []).outcome = .ok [.tagWindow (-2), .tag (-1), .tag 1] ∧
    (compile "order (2,1)" []).outcome = .ok [.tagWindow (-2), .tag (-1), .tag 1] := by
  have hblank : AllBlank [' '] := List.forall_mem_singleton.mpr rfl
  have hcomma : Widens "order(2,1)".toList "order(2 ,1)".toList :=
    .before (s := "order(2".toList) (t := "1)".toList) hblank (by decide : isDelimiter ',' = true)
  have hopen : Widens "order(2,1)".toList "order (2,1)".toList :=
    .before (s := "order".toList) (t := "2,1)".toList) hblank (by decide : isDelimiter '(' = true)
  have hrespaced : Respaced "order(2 ,1)" "order (2,1)" :=
    .trans _ _ _ (.symm _ _ (.rel _ _ hcomma)) (.rel _ _ hopen)
  have houtcome : (compile "order (2,1)" []).outcome =
      .ok [.tagWindow (-2), .tag (-1), .tag 1] := rfl
  obtain ⟨⟨templates, h, h'⟩ | ⟨_, e, _, h', _⟩, -⟩ := compile_respaced hrespaced []
  · exact ⟨hrespaced, by rw [h, ← h', houtcome], houtcome⟩
  · rw [houtcome] at h'
    cases h'

end TaggerFeatures.Architecture
