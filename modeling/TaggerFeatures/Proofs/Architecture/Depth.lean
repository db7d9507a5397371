import TaggerFeatures.Proofs.Architecture.Grammar

/-!
The split of any text, whatever its parentheses. It finds its pieces again in their join, and where
the strict split gives pieces they are the same ones: the strict split is the split of texts whose
pieces all have their parentheses in order.
-/
namespace TaggerFeatures.Architecture
open Text

/-- The depth behind a text that begins at `depth`; nothing if it has a comma at depth 0. -/
def depthAfter? : (depth : Nat) → List Char → Option Nat
  | depth, [] => some depth
  | depth, c :: cs =>
    if c = '(' then depthAfter? (depth + 1) cs
    else if c = ')' then depthAfter? (depth - 1) cs
    else if c = ',' ∧ depth = 0 then none
    else depthAfter? depth cs

/-- Pieces of a text that begins at a depth: none has a comma at depth 0, and every one but the last
ends at depth 0. -/
inductive AreCuts : (depth : Nat) → List (List Char) → Prop
  | last {depth after p} : depthAfter? depth p = some after → AreCuts depth [p]
  | cons {depth p rest} : depthAfter? depth p = some 0 → AreCuts 0 rest → AreCuts depth (p :: rest)

variable {depth after : Nat} {inside : Bool} {p s : List Char} {ps qs : List (List Char)}

theorem AreCuts.ne_nil (h : AreCuts depth ps) : ps ≠ [] := by
  cases h <;> simp

theorem areCuts_cons_iff :
    AreCuts depth (p :: ps) ↔
      ps = [] ∧ (∃ after, depthAfter? depth p = some after) ∨
        depthAfter? depth p = some 0 ∧ AreCuts 0 ps := by
  constructor
  · intro h
    cases h with
    | last hp => exact Or.inl ⟨rfl, _, hp⟩
    | cons hp hrest => exact Or.inr ⟨hp, hrest⟩
  · rintro (⟨rfl, _, hp⟩ | ⟨hp, hrest⟩)
    · exact .last hp
    · exact .cons hp hrest

/-! ## Depths -/

theorem depthAfter?_append (depth : Nat) (s t : List Char) :
    depthAfter? depth (s ++ t) = (depthAfter? depth s).bind fun after => depthAfter? after t := by
  induction s generalizing depth with
  | nil => rfl
  | cons c cs ih =>
      simp only [List.cons_append, depthAfter?, ih]
      split
      · rfl
      · split
        · rfl
        · split <;> rfl

theorem depthAfter?_of_plain (hs : IsPlain s) (depth : Nat) : depthAfter? depth s = some depth := by
  induction s with
  | nil => rfl
  | cons c cs ih =>
      obtain ⟨⟨hopen, hclose, hcomma⟩, hcs⟩ := isPlain_cons.mp hs
      simp [depthAfter?, hopen, hclose, hcomma, ih hcs]

theorem depthAfter?_trim (depth : Nat) (s : List Char) :
    depthAfter? depth (trim s) = depthAfter? depth s := by
  obtain ⟨b, b', hb, hb', h⟩ := exists_trim s
  have hend : ∀ after, depthAfter? after b' = some after :=
    depthAfter?_of_plain (isPlain_of_allBlank hb')
  conv => rhs; rw [h]
  simp only [depthAfter?_append, depthAfter?_of_plain (isPlain_of_allBlank hb), Option.bind_some,
    hend, Option.bind_fun_some]

/-- A piece with its parentheses in order ends at depth 0. -/
theorem depthAfter?_of_isPiece (hp : IsPiece inside p) :
    depthAfter? inside.toNat p = some 0 := by
  induction p generalizing inside with
  | nil => cases hp; rfl
  | cons c cs ih =>
      rw [IsPiece] at hp
      rw [depthAfter?]
      split at hp
      · rename_i hopen
        obtain ⟨rfl, hcs⟩ := hp
        rw [if_pos hopen]
        exact ih hcs
      · rename_i hopen
        rw [if_neg hopen]
        split at hp
        · rename_i hclose
          obtain ⟨rfl, hcs⟩ := hp
          rw [if_pos hclose]
          exact ih hcs
        · rename_i hclose
          have hcomma : ¬ (c = ',' ∧ inside.toNat = 0) := by
            rintro ⟨hc, hi⟩
            rw [hp.1 hc] at hi
            cases hi
          rw [if_neg hclose, if_neg hcomma]
          exact ih hp.2

/-! ## Pieces and their join -/

/-- A text without a comma at depth 0 goes to the first piece of what follows it. -/
theorem pieces_append (hp : depthAfter? depth p = some after) (s : List Char) :
    pieces depth (p ++ s) = p.foldr consHead (pieces after s) := by
  induction p generalizing depth with
  | nil => cases hp; rfl
  | cons c cs ih =>
      rw [depthAfter?] at hp
      rw [List.cons_append, pieces, List.foldr_cons]
      split at hp
      · rename_i hopen
        rw [if_pos hopen, ih hp]
      · rename_i hopen
        rw [if_neg hopen]
        split at hp
        · rename_i hclose
          rw [if_pos hclose, ih hp]
        · rename_i hclose
          rw [if_neg hclose]
          split at hp
          · cases hp
          · rename_i hcomma
            rw [if_neg hcomma, ih hp]

theorem pieces_of_depthAfter? (hp : depthAfter? depth p = some after) : pieces depth p = [p] := by
  have h := pieces_append hp []
  rwa [List.append_nil, pieces, foldr_consHead, List.append_nil] at h

/-- Pieces are found again in their join. -/
theorem pieces_join (h : AreCuts depth ps) : pieces depth (join [','] ps) = ps := by
  induction h with
  | last hp => rw [join_singleton, pieces_of_depthAfter? hp]
  | @cons depth p rest hp hrest ih =>
      have hcomma : ∀ s, pieces 0 (',' :: s) = [] :: pieces 0 s := fun s => by simp [pieces]
      rw [join_cons_of_ne_nil hrest.ne_nil, pieces_append hp, List.singleton_append, hcomma, ih,
        foldr_consHead, List.append_nil]

theorem AreCuts.consHead {c : Char} (h : AreCuts after ps)
    (hc : ∀ p, depthAfter? depth (c :: p) = depthAfter? after p) :
    AreCuts depth (consHead c ps) := by
  cases h with
  | last hp => exact .last ((hc _).trans hp)
  | cons hp hrest => exact .cons ((hc _).trans hp) hrest

/-- The pieces of a text are its parts between commas: no character is lost. -/
theorem pieces_sound (depth : Nat) (s : List Char) :
    AreCuts depth (pieces depth s) ∧ join [','] (pieces depth s) = s := by
  induction s generalizing depth with
  | nil => exact ⟨.last rfl, join_singleton _ _⟩
  | cons c cs ih =>
      rw [pieces]
      split
      · rename_i hopen
        obtain ⟨hcuts, hjoin⟩ := ih (depth + 1)
        exact ⟨hcuts.consHead fun p => by simp [depthAfter?, hopen], by rw [join_consHead, hjoin]⟩
      · rename_i hopen
        split
        · rename_i hclose
          obtain ⟨hcuts, hjoin⟩ := ih (depth - 1)
          refine ⟨hcuts.consHead fun p => ?_, by rw [join_consHead, hjoin]⟩
          simp [depthAfter?, hclose]
        · rename_i hclose
          obtain ⟨hcuts, hjoin⟩ := ih depth
          split
          · rename_i hcomma
            obtain ⟨rfl, rfl⟩ := hcomma
            refine ⟨.cons rfl hcuts, ?_⟩
            rw [join_cons_of_ne_nil hcuts.ne_nil, hjoin]
            rfl
          · rename_i hcomma
            refine ⟨hcuts.consHead fun p => ?_, by rw [join_consHead, hjoin]⟩
            rw [depthAfter?, if_neg hopen, if_neg hclose, if_neg hcomma]

theorem AreCuts.append (hps : ∀ p ∈ ps, depthAfter? 0 p = some 0) (hqs : AreCuts 0 qs) :
    AreCuts 0 (ps ++ qs) := by
  induction ps with
  | nil => exact hqs
  | cons p ps ih =>
      obtain ⟨hp, hps⟩ := List.forall_mem_cons.mp hps
      exact .cons hp (ih hps)

theorem areCuts_of_closed (hne : ps ≠ []) (hps : ∀ p ∈ ps, depthAfter? 0 p = some 0) :
    AreCuts 0 ps := by
  induction ps with
  | nil => exact absurd rfl hne
  | cons p rest ih =>
      obtain ⟨hp, hrest⟩ := List.forall_mem_cons.mp hps
      cases rest with
      | nil => exact .last hp
      | cons q rest => exact .cons hp (ih (by simp) hrest)

/-! ## Tokens of any text -/

theorem mem_tidy {t : List Char} : t ∈ tidy ps ↔ (∃ p ∈ ps, trim p = t) ∧ t ≠ [] := by
  simp [tidy]

theorem tidy_append (ps qs : List (List Char)) : tidy (ps ++ qs) = tidy ps ++ tidy qs := by
  simp [tidy]

theorem tidy_flatMap {α : Type} (xs : List α) (f : α → List (List Char)) :
    tidy (xs.flatMap f) = xs.flatMap fun x => tidy (f x) := by
  induction xs with
  | nil => rfl
  | cons x rest ih => rw [List.flatMap_cons, tidy_append, ih, List.flatMap_cons]

theorem tidy_eq_self (h : ∀ t ∈ ps, trim t = t ∧ t ≠ []) : tidy ps = ps := by
  induction ps with
  | nil => rfl
  | cons t ts ih =>
      obtain ⟨⟨ht, hne⟩, hts⟩ := List.forall_mem_cons.mp h
      rw [tidy_cons_of_ne_nil (by rwa [ht]), ht, ih hts]

/-- Tokens without the blanks around them are pieces as well. -/
theorem areCuts_tidy (h : AreCuts 0 ps) : tidy ps = [] ∨ AreCuts 0 (tidy ps) := by
  induction ps with
  | nil => exact Or.inl rfl
  | cons p rest ih =>
      by_cases hb : trim p = []
      · rw [tidy_cons_of_blank hb]
        rcases areCuts_cons_iff.mp h with ⟨rfl, _⟩ | ⟨_, hrest⟩
        · exact Or.inl rfl
        · exact ih hrest
      · rw [tidy_cons_of_ne_nil hb, areCuts_cons_iff, depthAfter?_trim]
        rcases areCuts_cons_iff.mp h with ⟨rfl, hp⟩ | ⟨hp, hrest⟩
        · exact Or.inr (Or.inl ⟨rfl, hp⟩)
        · rcases ih hrest with hnil | hcuts
          · exact Or.inr (Or.inl ⟨hnil, 0, hp⟩)
          · exact Or.inr (Or.inr ⟨hp, hcuts⟩)

theorem AreCuts.exists_depthAfter? (h : AreCuts 0 ps) :
    ∀ p ∈ ps, ∃ after, depthAfter? 0 p = some after := by
  induction ps with
  | nil => simp
  | cons p rest ih =>
      rw [List.forall_mem_cons]
      rcases areCuts_cons_iff.mp h with ⟨rfl, hp⟩ | ⟨hp, hrest⟩
      · exact ⟨hp, by simp⟩
      · exact ⟨⟨0, hp⟩, ih hrest⟩

theorem forall_isPiece_tidy_iff :
    (∀ t ∈ tidy ps, IsPiece false t) ↔ ∀ p ∈ ps, IsPiece false p := by
  constructor
  · intro h p hp
    by_cases hb : trim p = []
    · rw [← isPiece_trim, hb]
      rfl
    · exact isPiece_trim.mp (h _ (mem_tidy.mpr ⟨⟨p, hp, rfl⟩, hb⟩))
  · intro h t ht
    obtain ⟨⟨p, hp, rfl⟩, _⟩ := mem_tidy.mp ht
    exact isPiece_trim.mpr (h p hp)

/-- The tokens of a text that is put together from pieces. -/
theorem split_of_toList_eq_join {arch : String} (h : arch.toList = join [','] ps)
    (hps : ∀ p ∈ ps, depthAfter? 0 p = some 0) : split arch = (tidy ps).map String.ofList := by
  rw [split, splitChars, h]
  by_cases hne : ps = []
  · rw [hne]
    rfl
  · rw [pieces_join (areCuts_of_closed hne hps)]

/-! ## The strict split -/

/-- The strict split gives the pieces of the other one, where each has its parentheses in order. -/
theorem strictPieces_eq_ok_iff {column : Nat} :
    strictPieces false column s = .ok ps ↔ pieces 0 s = ps ∧ ∀ p ∈ ps, IsPiece false p := by
  constructor
  · intro h
    obtain ⟨hps, hjoin⟩ := strictPieces_sound h
    obtain ⟨hne, hps⟩ := arePieces_false_iff.mp hps
    have hcuts := areCuts_of_closed hne fun p hp => depthAfter?_of_isPiece (hps p hp)
    exact ⟨by rw [← hjoin, pieces_join hcuts], hps⟩
  · rintro ⟨rfl, hps⟩
    obtain ⟨hcuts, hjoin⟩ := pieces_sound 0 s
    have h := strictPieces_join (arePieces_false_iff.mpr ⟨hcuts.ne_nil, hps⟩) column
    rwa [hjoin] at h

/-- Every token of the architecture has its parentheses in order. -/
def InOrder (arch : String) : Prop := ∀ t ∈ split arch, IsPiece false t.toList

variable {arch : String}

theorem inOrder_iff : InOrder arch ↔ ∀ p ∈ pieces 0 arch.toList, IsPiece false p := by
  rw [← forall_isPiece_tidy_iff]
  simp [InOrder, split, splitChars]

theorem splitStrict_of_inOrder (h : InOrder arch) : splitStrict arch = .ok (split arch) := by
  have hs : strictPieces false 0 arch.toList = .ok (pieces 0 arch.toList) :=
    strictPieces_eq_ok_iff.mpr ⟨rfl, inOrder_iff.mp h⟩
  rw [splitStrict, splitStrictChars, hs]
  rfl

theorem inOrder_of_splitStrict {texts : List String} (h : splitStrict arch = .ok texts) :
    InOrder arch := by
  obtain ⟨ts, hts, _⟩ := exists_of_map_ok h
  obtain ⟨ps, hps, _⟩ := exists_of_map_ok hts
  obtain ⟨rfl, hp⟩ := strictPieces_eq_ok_iff.mp hps
  exact inOrder_iff.mpr hp

theorem exists_splitStrict_error_iff :
    (∃ fault, splitStrict arch = .error fault) ↔ ¬ InOrder arch := by
  constructor
  · rintro ⟨fault, hf⟩ h
    rw [splitStrict_of_inOrder h] at hf
    cases hf
  · intro h
    cases hs : splitStrict arch with
    | ok texts => exact absurd (inOrder_of_splitStrict hs) h
    | error fault => exact ⟨fault, rfl⟩

theorem tokenize_eq_ok_iff {tokens : List Token} :
    tokenize arch = .ok tokens ↔
      InOrder arch ∧ (split arch).mapM Token.ofString = .ok tokens := by
  by_cases h : InOrder arch
  · simp only [tokenize, splitStrict_of_inOrder h, h, true_and]
  · obtain ⟨fault, hf⟩ := exists_splitStrict_error_iff.mpr h
    simp [tokenize, hf, h]

end TaggerFeatures.Architecture
