import TaggerFeatures.Proofs.Architecture.Concatenation
import TaggerFeatures.Proofs.Architecture.Meaning

/-!
Compiling an architecture token by token. Each token gives the templates that it gives alone and at
most its own warning; the first one that fails ends the work, and taking out a token that is not
compiled changes no template.
-/
namespace TaggerFeatures.Architecture
open Text

/-! ## Lists of tokens -/

section
variable (source : RawDictionary) {t : Token} {ts before : List Token} {f : Token → List Template}

theorem compileTokens_singleton_of_ok {templates : List Template}
    (h : t.templates source = .ok templates) :
    compileTokens source [t] = ⟨if t.Unknown then [t.text] else [], .ok templates⟩ := by
  simp only [compileTokens, h, Token.meaning_eq_unknown_iff, Except.map, List.append_nil]

theorem compileTokens_singleton_of_error {e : Failure} (h : t.templates source = .error e) :
    compileTokens source [t] = ⟨[], .error e⟩ := by
  simp only [compileTokens, h]

theorem outcome_singleton (t : Token) :
    (compileTokens source [t]).outcome = t.templates source := by
  cases h : t.templates source with
  | error e => rw [compileTokens_singleton_of_error source h]
  | ok templates => rw [compileTokens_singleton_of_ok source h]

theorem compileTokens_of_ok (h : ∀ t ∈ ts, t.templates source = .ok (f t)) :
    compileTokens source ts = ⟨(ts.filter (·.Unknown)).map Token.text, .ok (ts.flatMap f)⟩ := by
  induction ts with
  | nil => rfl
  | cons t rest ih =>
      obtain ⟨ht, hrest⟩ := List.forall_mem_cons.mp h
      rw [compileTokens_cons, compileTokens_singleton_of_ok source ht, ih hrest,
        Compilation.append_of_ok rfl]
      by_cases hu : t.Unknown <;> simp [hu, Except.map]

/-- The first token that fails ends the work, and the warnings before it stay. -/
theorem compileTokens_of_first_error {e : Failure}
    (hbefore : ∀ u ∈ before, u.templates source = .ok (f u)) (ht : t.templates source = .error e)
    (after : List Token) :
    compileTokens source (before ++ t :: after) =
      ⟨(before.filter (·.Unknown)).map Token.text, .error e⟩ := by
  have hafter : compileTokens source (t :: after) = ⟨[], .error e⟩ := by
    rw [compileTokens_cons, compileTokens_singleton_of_error source ht]
    exact Compilation.append_of_error rfl _
  rw [compileTokens_append, compileTokens_of_ok source hbefore, hafter,
    Compilation.append_of_ok rfl, List.append_nil, Except.map]

/-- A token without templates adds none. -/
theorem outcome_without (ht : t.templates source = .ok []) (before after : List Token) :
    (compileTokens source (before ++ after)).outcome =
      (compileTokens source (before ++ t :: after)).outcome := by
  have hrest :
      (compileTokens source (t :: after)).outcome = (compileTokens source after).outcome := by
    rw [compileTokens_cons, compileTokens_singleton_of_ok source ht, Compilation.append_of_ok rfl]
    cases (compileTokens source after).outcome <;> rfl
  rw [compileTokens_append, compileTokens_append]
  cases hb : (compileTokens source before).outcome with
  | error e => rw [Compilation.append_of_error hb, Compilation.append_of_error hb]
  | ok templates =>
      rw [Compilation.append_of_ok hb, Compilation.append_of_ok hb, hrest]

end

/-! ## One token alone -/

variable {arch : String} {tokens : List Token} {t : Token}

/-- The tokens of an expansion are no macros, and keywords with arguments. -/
theorem Macro.of_mem_expansion (m : Macro) :
    ∀ u ∈ split m.expansion,
      ofName? u = none ∧ (Token.ofString u).toOption.bind Token.keyword? ≠ none := by
  cases m <;> decide +kernel

theorem mem_split_expand {u : String} (h : u ∈ split (expand arch)) :
    (∃ m : Macro, u ∈ split m.expansion) ∨ Macro.ofName? u = none ∧ u ∈ split arch := by
  rw [split_expand, List.mem_flatMap] at h
  obtain ⟨v, hv, hu⟩ := h
  rcases expandToken_cases v with ⟨m, _, _, he⟩ | ⟨hm, he⟩
  · exact Or.inl ⟨m, he ▸ hu⟩
  · rw [he, split_token hv, List.mem_singleton] at hu
    exact Or.inr ⟨hu ▸ hm, hu ▸ hv⟩

/-- No macro is left in an expansion. -/
theorem ofName?_of_mem_split_expand {u : String} (h : u ∈ split (expand arch)) :
    Macro.ofName? u = none := by
  rcases mem_split_expand h with ⟨m, hu⟩ | ⟨hm, _⟩
  · exact (m.of_mem_expansion u hu).1
  · exact hm

theorem expandToken_of_mem_split_expand {u : String} (h : u ∈ split (expand arch)) :
    expandToken u = u := by
  rw [expandToken, ofName?_of_mem_split_expand h]

/-- A token that was read comes from a segment with its text. -/
theorem exists_segment_of_mem (h : tokenize (expand arch) = .ok tokens) (ht : t ∈ tokens) :
    t.text ∈ split (expand arch) ∧ Segment t.text.toList (some t) := by
  obtain ⟨hin, hm⟩ := tokenize_eq_ok_iff.mp h
  obtain ⟨u, hu, hut⟩ := exists_of_mem_of_mapM_ok hm ht
  obtain ⟨s, hs, rfl⟩ := List.mem_map.mp hu
  obtain ⟨⟨p, _, rfl⟩, hne⟩ := mem_tidy.mp hs
  have hp : IsPiece false (trim p) := by simpa using hin _ hu
  have hseg : Segment (trim p) (some t) := by
    refine segment_of_ofChars hp (by rwa [trim_trim]) ?_
    simpa [Token.ofString] using hut
  have htext : t.text = String.ofList (trim p) := by rw [hseg.text, trim_trim]
  rw [htext, String.toList_ofList]
  exact ⟨hu, hseg⟩

/-- A segment that names no macro is an architecture of one token. -/
theorem Segment.tokenize_expand (h : Segment arch.toList (some t))
    (hm : Macro.ofName? t.text = none) : tokenize (expand arch) = .ok [t] := by
  have hclosed : ∀ p ∈ [arch.toList], depthAfter? 0 p = some 0 :=
    List.forall_mem_singleton.mpr (depthAfter?_of_isPiece h.isPiece)
  have hsplit : split arch = [t.text] := by
    rw [split_of_toList_eq_join (join_singleton _ _).symm hclosed,
      tidy_cons_of_ne_nil h.trim_ne_nil, h.text]
    rfl
  have hexpand : split (expand arch) = [t.text] := by
    have hmem : t.text ∈ split arch := hsplit ▸ List.mem_singleton_self _
    rw [split_expand, hsplit, List.flatMap_singleton, expandToken, hm]
    exact split_token hmem
  refine tokenize_eq_ok_iff.mpr ⟨?_, ?_⟩
  · rw [InOrder, hexpand, List.forall_mem_singleton, h.text, String.toList_ofList, isPiece_trim]
    exact h.isPiece
  · rw [hexpand, mapM_cons_of_ok h.ofString]
    rfl

/-- The text of a token is read as this token again. -/
theorem tokenize_expand_text (h : tokenize (expand arch) = .ok tokens) (ht : t ∈ tokens) :
    tokenize (expand t.text) = .ok [t] := by
  obtain ⟨hmem, hseg⟩ := exists_segment_of_mem h ht
  exact hseg.tokenize_expand (ofName?_of_mem_split_expand hmem)

theorem outcome_compile_text (source : RawDictionary) (h : tokenize (expand arch) = .ok tokens)
    (ht : t ∈ tokens) : (compile t.text source).outcome = t.templates source := by
  rw [compile_of_tokenize source (tokenize_expand_text h ht), outcome_singleton]

theorem not_compiled_of_mem (h : tokenize (expand arch) = .ok tokens) (ht : t ∈ tokens)
    (hclass : t.Reserved ∨ t.Unknown) : ¬ t.Compiled := by
  rcases hclass with hr | hu
  · exact (exists_segment_of_mem h ht).2.not_compiled hr
  · exact hu.1

/-! ## Taking out a token -/

/-- The text `rest` is `arch` without one segment whose token has the given text, and without the
comma beside it. -/
def Deletes (arch text rest : String) : Prop :=
  ∃ (before : List (List Char)) (segment : List Char) (after : List (List Char)),
    (∀ p ∈ before ++ segment :: after, IsPiece false p) ∧
    arch.toList = join [','] (before ++ segment :: after) ∧ trim segment = text.toList ∧
    rest.toList = join [','] (before ++ after)

/-- A token that is not compiled stands in the architecture itself, not in an expansion. -/
theorem mem_split_of_not_compiled (h : tokenize (expand arch) = .ok tokens) (ht : t ∈ tokens)
    (hc : ¬ t.Compiled) : t.text ∈ split arch := by
  obtain ⟨hmem, hseg⟩ := exists_segment_of_mem h ht
  rcases mem_split_expand hmem with ⟨m, hu⟩ | ⟨_, hu⟩
  · have hkeyword := (m.of_mem_expansion _ hu).2
    rw [hseg.ofString] at hkeyword
    exact absurd (Token.not_compiled_iff.mp hc).2 hkeyword
  · exact hu

theorem exists_deletes (h : tokenize (expand arch) = .ok tokens) (ht : t ∈ tokens)
    (hc : ¬ t.Compiled) : ∃ rest, Deletes arch t.text rest := by
  have hin : InOrder arch := inOrder_expand_iff.mp (tokenize_eq_ok_iff.mp h).1
  obtain ⟨s, hs, htext⟩ := List.mem_map.mp (mem_split_of_not_compiled h ht hc)
  obtain ⟨⟨segment, hsegment, rfl⟩, _⟩ := mem_tidy.mp hs
  obtain ⟨before, after, hps⟩ := List.append_of_mem hsegment
  refine ⟨String.ofList (join [','] (before ++ after)), before, segment, after, ?_, ?_, ?_, ?_⟩
  · rw [← hps]
    exact inOrder_iff.mp hin
  · rw [← hps, (pieces_sound 0 arch.toList).2]
  · rw [← htext, String.toList_ofList]
  · rw [String.toList_ofList]

theorem Deletes.split_eq {text rest : String} (hd : Deletes arch text rest) (hne : text ≠ "") :
    ∃ before after, split arch = before ++ text :: after ∧ split rest = before ++ after ∧
      (∀ u ∈ before ++ after, IsPiece false u.toList) := by
  obtain ⟨before, segment, after, hps, harch, hsegment, hrest⟩ := hd
  have hclosed : ∀ p ∈ before ++ segment :: after, depthAfter? 0 p = some 0 :=
    fun p hp => depthAfter?_of_isPiece (hps p hp)
  have hsub : ∀ p ∈ before ++ after, p ∈ before ++ segment :: after := by
    intro p hp
    rw [List.mem_append] at hp ⊢
    exact hp.imp_right (List.mem_cons_of_mem _)
  have htrim : trim segment ≠ [] := by
    rw [hsegment]
    simpa using hne
  refine ⟨(tidy before).map String.ofList, (tidy after).map String.ofList, ?_, ?_, ?_⟩
  · rw [split_of_toList_eq_join harch hclosed, tidy_append, tidy_cons_of_ne_nil htrim, hsegment]
    simp
  · rw [split_of_toList_eq_join hrest fun p hp => hclosed p (hsub p hp), tidy_append,
      List.map_append]
  · rw [← List.map_append, ← tidy_append]
    intro u hu
    obtain ⟨s, hs, rfl⟩ := List.mem_map.mp hu
    rw [String.toList_ofList]
    exact forall_isPiece_tidy_iff.mpr (fun p hp => hps p (hsub p hp)) s hs

theorem Deletes.tokenize_eq {rest : String} (hd : Deletes arch t.text rest)
    (h : tokenize (expand arch) = .ok tokens) (ht : t ∈ tokens) :
    ∃ before after, tokens = before ++ t :: after ∧
      tokenize (expand rest) = .ok (before ++ after) := by
  obtain ⟨hmem, hseg⟩ := exists_segment_of_mem h ht
  have hne : t.text ≠ "" := by
    intro he
    have := hseg.trim_ne_nil
    rw [he] at this
    exact this rfl
  obtain ⟨texts, texts', harch, hrest, hps⟩ := hd.split_eq hne
  -- The texts before and behind it are expanded and read as they were.
  have hm := (tokenize_eq_ok_iff.mp h).2
  rw [split_expand, harch, List.flatMap_append, List.flatMap_cons,
    expandToken_of_mem_split_expand hmem, split_token hmem] at hm
  obtain ⟨before, ts, hbefore, hts, rfl⟩ := exists_of_mapM_append_ok hm
  obtain ⟨ts, after, hone, hafter, rfl⟩ := exists_of_mapM_append_ok hts
  rw [mapM_cons_of_ok hseg.ofString] at hone
  cases hone
  refine ⟨before, after, rfl, tokenize_eq_ok_iff.mpr ⟨?_, ?_⟩⟩
  · rw [inOrder_expand_iff, InOrder, hrest]
    exact hps
  · rw [split_expand, hrest, List.flatMap_append]
    exact mapM_append_of_ok hbefore hafter

theorem Deletes.outcome_eq {rest : String} (source : RawDictionary)
    (hd : Deletes arch t.text rest) (h : tokenize (expand arch) = .ok tokens) (ht : t ∈ tokens)
    (hc : ¬ t.Compiled) : (compile rest source).outcome = (compile arch source).outcome := by
  obtain ⟨before, after, rfl, hrest⟩ := hd.tokenize_eq h ht
  rw [compile_of_tokenize source hrest, compile_of_tokenize source h,
    outcome_without source (Token.templates_of_not_compiled hc source)]

/-! ## The compiler -/

/-- One warning for each unknown token, in order. -/
theorem warnings_of_unknown (tokens : List Token) (outcome : Except Failure (List Template)) :
    Compilation.warnings ⟨(tokens.filter (·.Unknown)).map Token.text, outcome⟩ =
      (tokens.filter (·.Unknown)).map fun t =>
        "Unrecognized architecture identifier (ignored): " ++ t.text :=
  List.map_map

theorem compile_of_malformed (source : RawDictionary) {e : Malformed}
    (h : tokenize (expand arch) = .error e) :
    compile arch source = ⟨[], .error (.malformed e)⟩ := by
  rw [compile, compileExpanded, h]

/-- No token has a say in what its neighbours give, and warnings are just those of the unknown
tokens before the first failure. -/
theorem compile_token_by_token (arch : String) {source : RawDictionary}
    (hsource : TagDictionary.AllIntegers source) :
    (∀ e, tokenize (expand arch) = .error e →
      (compile arch source).outcome = .error (.malformed e) ∧
        (compile arch source).warnings = []) ∧
    ∀ tokens, tokenize (expand arch) = .ok tokens →
      (∀ t ∈ tokens, ∀ e, (compile t.text source).outcome = .error e ↔ t.Refused e) ∧
      ((∀ t ∈ tokens, ∀ e, ¬ t.Refused e) →
        ∃ f : Token → List Template,
          (∀ t ∈ tokens, (compile t.text source).outcome = .ok (f t)) ∧
          (compile arch source).outcome = .ok (tokens.flatMap f) ∧
          (compile arch source).warnings = (tokens.filter (·.Unknown)).map fun t =>
            "Unrecognized architecture identifier (ignored): " ++ t.text) ∧
      (∀ before t after e, tokens = before ++ t :: after →
        (∀ u ∈ before, ∃ templates, (compile u.text source).outcome = .ok templates) →
        (compile t.text source).outcome = .error e →
        (compile arch source).outcome = .error e ∧
          (compile arch source).warnings = (before.filter (·.Unknown)).map fun t =>
            "Unrecognized architecture identifier (ignored): " ++ t.text) ∧
      ∀ t ∈ tokens, t.Reserved ∨ t.Unknown →
        (∃ rest, Deletes arch t.text rest) ∧
        ∀ rest, Deletes arch t.text rest →
          (compile rest source).outcome = (compile arch source).outcome := by
  refine ⟨fun e he => by rw [compile_of_malformed source he]; exact ⟨rfl, rfl⟩, ?_⟩
  intro tokens h
  have halone : ∀ t ∈ tokens, (compile t.text source).outcome = t.templates source :=
    fun t ht => outcome_compile_text source h ht
  refine ⟨?alone, ?success, ?failure, ?deletion⟩
  case alone =>
    intro t ht e
    rw [halone t ht, Token.templates_eq_error_iff hsource]
  case success =>
    intro hno
    have hok : ∀ t ∈ tokens, ∃ templates, t.templates source = .ok templates := by
      intro t ht
      cases he : t.templates source with
      | ok templates => exact ⟨templates, rfl⟩
      | error e => exact absurd ((Token.templates_eq_error_iff hsource).mp he) (hno t ht e)
    obtain ⟨f, hf⟩ := exists_forall_eq_ok hok
    refine ⟨f, fun t ht => (halone t ht).trans (hf t ht), ?_⟩
    rw [compile_of_tokenize source h, compileTokens_of_ok source hf]
    exact ⟨rfl, warnings_of_unknown tokens _⟩
  case failure =>
    rintro before t after e rfl hbefore ht
    have hok : ∀ u ∈ before, ∃ templates, u.templates source = .ok templates := by
      intro u hu
      rw [← halone u (List.mem_append_left _ hu)]
      exact hbefore u hu
    obtain ⟨f, hf⟩ := exists_forall_eq_ok hok
    rw [halone t (by simp)] at ht
    rw [compile_of_tokenize source h, compileTokens_of_first_error source hf ht]
    exact ⟨rfl, warnings_of_unknown before _⟩
  case deletion =>
    intro t ht hclass
    have hc := not_compiled_of_mem h ht hclass
    exact ⟨exists_deletes h ht hc, fun rest hd => hd.outcome_eq source h ht hc⟩

/-- Counts in which one word is seen as a participle. -/
def participleCounts : RawDictionary := [("broken", [("VBN", .integer 3)])]

/-- Parentheses out of order, an unknown token before a failure, and an unknown token that is taken
out. -/
theorem compile_token_by_token_participleCounts :
    TagDictionary.AllIntegers participleCounts ∧
    (compile "typo,words(0" participleCounts).warnings = [] ∧
    (compile "typo,order(1,-1),frob(2)" participleCounts).outcome =
      .error (.malformed (.negativeRightOrder (-1) "order(1,-1)")) ∧
    (compile "typo,order(1,-1),frob(2)" participleCounts).warnings =
      ["Unrecognized architecture identifier (ignored): typo"] ∧
    (compile "vbn(0), Suffix(4) " participleCounts).warnings =
      ["Unrecognized architecture identifier (ignored): Suffix(4)"] ∧
    (compile "vbn(0)" participleCounts).outcome =
      (compile "vbn(0), Suffix(4) " participleCounts).outcome := by
  have hsource : TagDictionary.AllIntegers participleCounts := by
    simp [TagDictionary.AllIntegers, participleCounts]
  obtain ⟨-, hmalformed⟩ := (compile_token_by_token "typo,words(0" hsource).1
    (.parentheses .unclosed "typo,words(0") (by decide +kernel)
  have htypo : (compile "typo" participleCounts).outcome = .ok [] := rfl
  obtain ⟨-, -, hfailure, -⟩ := (compile_token_by_token "typo,order(1,-1),frob(2)" hsource).2
    [⟨"typo", "typo", none⟩, ⟨"order(1,-1)", "order", some "1,-1"⟩, ⟨"frob(2)", "frob", some "2"⟩]
    (by decide +kernel)
  obtain ⟨houtcome, hbefore⟩ := hfailure [⟨"typo", "typo", none⟩]
    ⟨"order(1,-1)", "order", some "1,-1"⟩ [⟨"frob(2)", "frob", some "2"⟩]
    (.malformed (.negativeRightOrder (-1) "order(1,-1)")) rfl
    (List.forall_mem_singleton.mpr ⟨_, htypo⟩) rfl
  obtain ⟨halone, hsuccess, -, hdeletion⟩ :=
    (compile_token_by_token "vbn(0), Suffix(4) " hsource).2
      [⟨"vbn(0)", "vbn", some "0"⟩, ⟨"Suffix(4)", "Suffix", some "4"⟩] (by decide +kernel)
  have hok : ∀ t ∈ [⟨"vbn(0)", "vbn", some "0"⟩, ⟨"Suffix(4)", "Suffix", some "4"⟩],
      (compile (Token.text t) participleCounts).outcome.isOk = true := by decide +kernel
  have haccepted : ∀ t ∈ [⟨"vbn(0)", "vbn", some "0"⟩, ⟨"Suffix(4)", "Suffix", some "4"⟩],
      ∀ e, ¬ Token.Refused t e := by
    intro t ht e he
    have h := hok t ht
    rw [(halone t ht e).mpr he] at h
    cases h
  obtain ⟨_, -, -, hwarnings⟩ := hsuccess haccepted
  have hpieces : strictPieces false 0 "vbn(0), Suffix(4) ".toList =
      .ok ["vbn(0)".toList, " Suffix(4) ".toList] := by decide +kernel
  have hdeletes : Deletes "vbn(0), Suffix(4) " "Suffix(4)" "vbn(0)" :=
    ⟨["vbn(0)".toList], " Suffix(4) ".toList, [], (strictPieces_eq_ok_iff.mp hpieces).2,
      by decide +kernel, by decide +kernel, by decide +kernel⟩
  have hunknown : Token.Unknown ⟨"Suffix(4)", "Suffix", some "4"⟩ := by decide +kernel
  have hsame := (hdeletion _ (by simp) (Or.inr hunknown)).2 _ hdeletes
  exact ⟨hsource, hmalformed, houtcome, hbefore.trans (by decide +kernel),
    hwarnings.trans (by decide +kernel), hsame⟩

end TaggerFeatures.Architecture
