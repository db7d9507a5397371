import TaggerFeatures.Architecture.Token
import TaggerFeatures.Proofs.Architecture.Pieces
import TaggerFeatures.Proofs.Text.Trim
import TaggerFeatures.Proofs.Traversal

/-!
The grammar of architectures. `Written` says which texts are architectures and what tokens they
have; `tokenize` accepts just these texts and gives just these tokens.
-/
namespace TaggerFeatures.Architecture
open Text

/-! ## The grammar -/

/-- A text without parentheses and commas. -/
def IsPlain (s : List Char) : Prop := ∀ c ∈ s, c ≠ '(' ∧ c ≠ ')' ∧ c ≠ ','

instance : DecidablePred IsPlain := fun s =>
  List.decidableBAll (fun c => c ≠ '(' ∧ c ≠ ')' ∧ c ≠ ',') s

/-- A segment of an architecture with the token that it stands for, none if it is blank. -/
inductive Segment : List Char → Option Token → Prop
  | blank {s} : trim s = [] → Segment s none
  | bare {s} : trim s ≠ [] → IsPlain (trim s) →
      Segment s (some ⟨String.ofList (trim s), String.ofList (trim s), none⟩)
  | call {s name arguments} : trim s = name ++ '(' :: (arguments ++ [')']) → IsPlain name →
      '(' ∉ arguments → ')' ∉ arguments →
      Segment s (some ⟨String.ofList (trim s), String.ofList (trim name),
        some (String.ofList arguments)⟩)

/-- An architecture is segments with single commas between them; its tokens are those of the
segments that are not blank, in order. -/
def Written (arch : List Char) (tokens : List Token) : Prop :=
  ∃ segments : List (List Char × Option Token),
    arch = join [','] (segments.map (·.1)) ∧ (∀ x ∈ segments, Segment x.1 x.2) ∧
      tokens = segments.filterMap (·.2)

/-! ## Pieces and plain texts -/

variable {inside : Bool} {s b name arguments rest : List Char}

theorem isPlain_cons {c : Char} :
    IsPlain (c :: s) ↔ (c ≠ '(' ∧ c ≠ ')' ∧ c ≠ ',') ∧ IsPlain s :=
  List.forall_mem_cons

theorem IsPlain.not_open (hs : IsPlain s) : '(' ∉ s := fun h => (hs _ h).1 rfl

theorem IsPlain.not_close (hs : IsPlain s) : ')' ∉ s := fun h => (hs _ h).2.1 rfl

theorem IsPlain.not_comma (hs : IsPlain s) : ',' ∉ s := fun h => (hs _ h).2.2 rfl

theorem IsPlain.trim (hs : IsPlain s) : IsPlain (trim s) := fun c hc => hs c (mem_of_mem_trim hc)

theorem isPlain_of_allBlank (hb : AllBlank b) : IsPlain b := by
  intro c hc
  have hblank := hb c hc
  refine ⟨?_, ?_, ?_⟩
  all_goals
    rintro rfl
    revert hblank
    decide

theorem isPiece_plain_append (hb : IsPlain b) (s : List Char) :
    IsPiece inside (b ++ s) ↔ IsPiece inside s := by
  induction b with
  | nil => rfl
  | cons c cs ih =>
      obtain ⟨⟨hopen, hclose, hcomma⟩, hcs⟩ := isPlain_cons.mp hb
      rw [List.cons_append, IsPiece, if_neg hopen, if_neg hclose, ih hcs]
      simp [hcomma]

theorem isPiece_append_plain (hb : IsPlain b) (s : List Char) :
    IsPiece inside (s ++ b) ↔ IsPiece inside s := by
  induction s generalizing inside with
  | nil =>
      have h : IsPiece inside (b ++ []) ↔ IsPiece inside [] := isPiece_plain_append hb []
      rwa [List.append_nil] at h
  | cons c cs ih => simp only [List.cons_append, IsPiece, ih]

theorem isPiece_trim : IsPiece inside (trim s) ↔ IsPiece inside s := by
  obtain ⟨b, b', hb, hb', h⟩ := exists_trim s
  conv => rhs; rw [h]
  rw [isPiece_plain_append (isPlain_of_allBlank hb),
    isPiece_append_plain (isPlain_of_allBlank hb')]

/-- Up to the first opening parenthesis a piece is plain. -/
theorem isPiece_append_iff_isPlain (h : '(' ∉ name) (rest : List Char) :
    IsPiece false (name ++ rest) ↔ IsPlain name ∧ IsPiece false rest := by
  induction name with
  | nil => simp [IsPlain]
  | cons c cs ih =>
      rw [List.mem_cons, not_or] at h
      rw [List.cons_append, isPlain_cons, and_assoc, ← ih h.2, IsPiece, if_neg (Ne.symm h.1)]
      by_cases hclose : c = ')'
      · simp [hclose]
      · simp [hclose, Ne.symm h.1]

theorem isPiece_iff_isPlain (h : '(' ∉ s) : IsPiece false s ↔ IsPlain s := by
  have hs := isPiece_append_iff_isPlain h []
  rw [List.append_nil] at hs
  simpa [IsPiece] using hs

theorem isPiece_append_open (h : '(' ∉ name) :
    IsPiece false (name ++ '(' :: rest) ↔ IsPlain name ∧ IsPiece true rest := by
  rw [isPiece_append_iff_isPlain h]
  simp [IsPiece]

/-- Up to the next closing parenthesis there is no second opening one. -/
theorem isPiece_append_close (h : ')' ∉ arguments) :
    IsPiece true (arguments ++ ')' :: rest) ↔ '(' ∉ arguments ∧ IsPiece false rest := by
  induction arguments with
  | nil => simp [IsPiece]
  | cons c cs ih =>
      rw [List.mem_cons, not_or] at h
      rw [List.cons_append, IsPiece, if_neg (Ne.symm h.1), ih h.2]
      by_cases hopen : c = '('
      · simp [hopen]
      · simp [hopen, Ne.symm hopen]

theorem Segment.isPiece {o : Option Token} (h : Segment s o) : IsPiece false s := by
  rw [← isPiece_trim]
  cases h with
  | blank h => rw [h]; rfl
  | bare _ hs => exact (isPiece_iff_isPlain hs.not_open).mpr hs
  | call h hname ha hb =>
      rw [h, isPiece_append_open hname.not_open, isPiece_append_close hb]
      exact ⟨hname, ha, rfl⟩

/-! ## One token -/

theorem ofChars_bare (h : '(' ∉ trim s) (h' : ')' ∉ trim s) :
    Token.ofChars s = .ok ⟨String.ofList (trim s), String.ofList (trim s), none⟩ := by
  simp only [Token.ofChars, dropWhile_ne_eq_nil h]
  rw [if_neg (by simpa using h')]

theorem ofChars_call (h : trim s = name ++ '(' :: (arguments ++ [')'])) (hname : '(' ∉ name)
    (ha : ')' ∉ arguments) :
    Token.ofChars s = .ok ⟨String.ofList (trim s), String.ofList (trim name),
      some (String.ofList arguments)⟩ := by
  simp only [Token.ofChars, h, dropWhile_ne_append_cons hname, dropWhile_ne_append_cons ha,
    takeWhile_ne_append_cons hname, takeWhile_ne_append_cons ha]

theorem ofChars_text_after {c : Char} (h : trim s = name ++ '(' :: (arguments ++ ')' :: c :: rest))
    (hname : '(' ∉ name) (ha : ')' ∉ arguments) :
    Token.ofChars s = .error (.textAfterArguments (String.ofList (trim s))) := by
  simp only [Token.ofChars, h, dropWhile_ne_append_cons hname, dropWhile_ne_append_cons ha]

theorem Segment.ofChars {t : Token} (h : Segment s (some t)) : Token.ofChars s = .ok t := by
  cases h with
  | bare _ hs => exact ofChars_bare hs.not_open hs.not_close
  | call h hname _ ha => exact ofChars_call h hname.not_open ha

theorem Segment.text {t : Token} (h : Segment s (some t)) : t.text = String.ofList (trim s) := by
  cases h <;> rfl

theorem Segment.trim_ne_nil {t : Token} (h : Segment s (some t)) : trim s ≠ [] := by
  cases h with
  | bare h _ => exact h
  | call h _ _ _ => simp [h]

theorem mem_of_isPiece_true (h : IsPiece true s) : ')' ∈ s := by
  induction s with
  | nil => cases h
  | cons c cs ih =>
      rw [IsPiece] at h
      split at h
      · cases h.1
      · split at h
        · rename_i hc
          simp [hc]
        · exact List.mem_cons_of_mem c (ih h.2)

/-- A piece has no parentheses, or has a first pair of them. -/
theorem isPlain_or_call (hs : IsPiece false s) :
    IsPlain s ∨ ∃ name arguments more, s = name ++ '(' :: (arguments ++ ')' :: more) ∧
      IsPlain name ∧ '(' ∉ arguments ∧ ')' ∉ arguments := by
  by_cases hopen : '(' ∈ s
  · obtain ⟨name, rest, rfl, hname⟩ := List.eq_append_cons_of_mem hopen
    rw [isPiece_append_open hname] at hs
    obtain ⟨hplain, hrest⟩ := hs
    obtain ⟨arguments, more, rfl, ha⟩ := List.eq_append_cons_of_mem (mem_of_isPiece_true hrest)
    rw [isPiece_append_close ha] at hrest
    exact Or.inr ⟨name, arguments, more, rfl, hplain, hrest.1, ha⟩
  · exact Or.inl ((isPiece_iff_isPlain hopen).mp hs)

/-- A piece that is read as a token is a segment. -/
theorem segment_of_ofChars {t : Token} (hs : IsPiece false s) (hne : trim s ≠ [])
    (h : Token.ofChars s = .ok t) : Segment s (some t) := by
  rw [← isPiece_trim] at hs
  -- The reader cuts at the first `(` and at the next `)`, where a piece has its only pair so far.
  rcases isPlain_or_call hs with hplain | ⟨name, arguments, more, htrim, hname, hopen, hclose⟩
  · rw [ofChars_bare hplain.not_open hplain.not_close] at h
    cases h
    exact .bare hne hplain
  · cases more with
    | nil =>
        rw [ofChars_call htrim hname.not_open hclose] at h
        cases h
        exact .call htrim hname hopen hclose
    | cons c more =>
        rw [ofChars_text_after htrim hname.not_open hclose] at h
        cases h

/-! ## All tokens -/

theorem ofString_ofList_trim (s : List Char) :
    Token.ofString (String.ofList (trim s)) = Token.ofChars s := by
  simp only [Token.ofString, String.toList_ofList, Token.ofChars, trim_trim]

/-- The text of a token is read as the token again. -/
theorem Segment.ofString {t : Token} (h : Segment s (some t)) : Token.ofString t.text = .ok t := by
  rw [h.text, ofString_ofList_trim, h.ofChars]

theorem tidy_cons_of_blank {p : List Char} (h : trim p = []) (ps : List (List Char)) :
    tidy (p :: ps) = tidy ps := by
  simp [tidy, h]

theorem tidy_cons_of_ne_nil {p : List Char} (h : trim p ≠ []) (ps : List (List Char)) :
    tidy (p :: ps) = trim p :: tidy ps := by
  simp [tidy, h]

theorem mapM_tidy_of_segments {segments : List (List Char × Option Token)}
    (h : ∀ x ∈ segments, Segment x.1 x.2) :
    ((tidy (segments.map (·.1))).map String.ofList).mapM Token.ofString =
      .ok (segments.filterMap (·.2)) := by
  induction segments with
  | nil => rfl
  | cons x rest ih =>
      obtain ⟨p, o⟩ := x
      obtain ⟨hp, hrest⟩ := List.forall_mem_cons.mp h
      cases o with
      | none =>
          cases hp with
          | blank hb => rw [List.map_cons, tidy_cons_of_blank hb, ih hrest]; rfl
      | some t =>
          have ht : Token.ofString (String.ofList (trim p)) = .ok t := by
            rw [ofString_ofList_trim, hp.ofChars]
          rw [List.map_cons, tidy_cons_of_ne_nil hp.trim_ne_nil, List.map_cons,
            mapM_cons_of_ok ht, ih hrest]
          rfl

/-- Pieces whose texts are read as tokens are segments. -/
theorem segments_of_mapM_tidy {ps : List (List Char)} {tokens : List Token}
    (hps : ∀ p ∈ ps, IsPiece false p)
    (h : ((tidy ps).map String.ofList).mapM Token.ofString = .ok tokens) :
    ∃ segments : List (List Char × Option Token), segments.map (·.1) = ps ∧
      (∀ x ∈ segments, Segment x.1 x.2) ∧ tokens = segments.filterMap (·.2) := by
  induction ps generalizing tokens with
  | nil => cases h; exact ⟨[], rfl, by simp, rfl⟩
  | cons p ps ih =>
      obtain ⟨hp, hps⟩ := List.forall_mem_cons.mp hps
      by_cases hb : trim p = []
      · rw [tidy_cons_of_blank hb] at h
        obtain ⟨segments, hmap, hseg, htok⟩ := ih hps h
        refine ⟨(p, none) :: segments, by rw [List.map_cons, hmap], ?_, htok⟩
        exact List.forall_mem_cons.mpr ⟨.blank hb, hseg⟩
      · rw [tidy_cons_of_ne_nil hb, List.map_cons] at h
        cases ht : Token.ofString (String.ofList (trim p)) with
        | error e => rw [mapM_cons_of_error ht] at h; cases h
        | ok t =>
            rw [mapM_cons_of_ok ht] at h
            obtain ⟨after, hafter, rfl⟩ := exists_of_map_ok h
            obtain ⟨segments, hmap, hseg, rfl⟩ := ih hps hafter
            rw [ofString_ofList_trim] at ht
            refine ⟨(p, some t) :: segments, by rw [List.map_cons, hmap], ?_, rfl⟩
            exact List.forall_mem_cons.mpr ⟨segment_of_ofChars hp hb ht, hseg⟩

theorem tokenize_eq_ok_iff_strictPieces {arch : String} {tokens : List Token} :
    tokenize arch = .ok tokens ↔ ∃ ps, strictPieces false 0 arch.toList = .ok ps ∧
      ((tidy ps).map String.ofList).mapM Token.ofString = .ok tokens := by
  simp only [tokenize, splitStrict, splitStrictChars]
  cases strictPieces false 0 arch.toList <;> simp [Except.map]

theorem written_of_tokenize {arch : String} {tokens : List Token}
    (h : tokenize arch = .ok tokens) : Written arch.toList tokens := by
  obtain ⟨ps, hps, hm⟩ := tokenize_eq_ok_iff_strictPieces.mp h
  obtain ⟨hpieces, hjoin⟩ := strictPieces_sound hps
  obtain ⟨segments, rfl, hseg, htok⟩ := segments_of_mapM_tidy (arePieces_false_iff.mp hpieces).2 hm
  exact ⟨segments, hjoin.symm, hseg, htok⟩

theorem tokenize_of_written {arch : String} {tokens : List Token}
    (h : Written arch.toList tokens) : tokenize arch = .ok tokens := by
  obtain ⟨segments, hjoin, hseg, rfl⟩ := h
  rw [tokenize_eq_ok_iff_strictPieces, hjoin]
  cases segments with
  -- No segments join to the empty text, which is split into one blank piece.
  | nil => exact ⟨[[]], rfl, rfl⟩
  | cons x rest =>
      refine ⟨_, strictPieces_join (arePieces_false_iff.mpr ⟨by simp, ?_⟩) 0,
        mapM_tidy_of_segments hseg⟩
      intro p hp
      obtain ⟨y, hy, rfl⟩ := List.mem_map.mp hp
      exact (hseg y hy).isPiece

/-- The texts that are accepted are those of the grammar, with the tokens that the grammar gives
them; every other text is malformed. -/
theorem tokenize_accepts_grammar (arch : String) :
    ((∃ tokens, tokenize arch = .ok tokens) ↔ ∃ tokens, Written arch.toList tokens) ∧
      (∀ tokens, Written arch.toList tokens ↔ tokenize arch = .ok tokens) ∧
      ((∀ tokens, ¬ Written arch.toList tokens) → ∃ e : Malformed, tokenize arch = .error e) := by
  have hiff : ∀ tokens, Written arch.toList tokens ↔ tokenize arch = .ok tokens :=
    fun tokens => ⟨tokenize_of_written, written_of_tokenize⟩
  refine ⟨by simp only [hiff], hiff, fun hno => ?_⟩
  cases h : tokenize arch with
  | ok tokens => exact absurd (written_of_tokenize h) (hno tokens)
  | error e => exact ⟨e, rfl⟩

example : tokenize " words(-1, 1) ,, shape" =
    .ok [⟨"words(-1, 1)", "words", some "-1, 1"⟩, ⟨"shape", "shape", none⟩] := by rfl

end TaggerFeatures.Architecture
