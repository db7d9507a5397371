import TaggerFeatures.Proofs.Architecture.TokenTexts

/-!
Reading the tokens that the strict split gives. Their parentheses stand in pairs, so that nothing
can be wrong with one but text behind its first pair; else it is a name, or a name and arguments.
-/
namespace TaggerFeatures.Architecture
open Text

/-- Something follows the first closing parenthesis. -/
def TextAfterClosing (s : List Char) : Prop :=
  ∃ before c after, s = before ++ ')' :: c :: after ∧ ')' ∉ before

/-- The text of a token is a name, or a name and arguments in parentheses, with blanks between them
if there are any. -/
inductive MadeOf (text : String) : Token → Prop
  | bare : IsPlain text.toList → MadeOf text ⟨text, text, none⟩
  | call {name arguments blanks} :
      text.toList = name.toList ++ (blanks ++ '(' :: (arguments.toList ++ [')'])) →
      AllBlank blanks → IsPlain name.toList → '(' ∉ arguments.toList → ')' ∉ arguments.toList →
      MadeOf text ⟨text, name, some arguments⟩

variable {arch token : String} {texts : List String} {s before name arguments rest : List Char}

theorem textAfterClosing_iff (h : ')' ∉ before) :
    TextAfterClosing (before ++ ')' :: rest) ↔ rest ≠ [] := by
  constructor
  · rintro ⟨before', c, after, heq, h'⟩
    obtain ⟨-, rfl⟩ := append_cons_inj h h' heq
    exact List.cons_ne_nil c after
  · intro hne
    obtain ⟨c, after, rfl⟩ := List.exists_cons_of_ne_nil hne
    exact ⟨before, c, after, rfl, h⟩

theorem not_textAfterClosing (h : ')' ∉ s) : ¬ TextAfterClosing s := by
  rintro ⟨before, c, after, rfl, -⟩
  exact h (by simp)

/-- The name of a trimmed call stands at its start, and only blanks may follow it. -/
theorem exists_trim_append (h : trim s = s) (hs : s = name ++ '(' :: rest) :
    ∃ blanks, AllBlank blanks ∧ name = trim name ++ blanks := by
  have hstart : trimStart s = s := by
    rw [← h, trimStart_trim]
  rw [hs, trimStart_append_cons (by decide)] at hstart
  have hname : trimStart name = name := List.append_cancel_right hstart
  obtain ⟨blanks, hblanks, heq⟩ := exists_trimEnd name
  refine ⟨blanks, hblanks, ?_⟩
  rwa [trim, hname]

/-- A trimmed text with its parentheses in order is refused for text behind the first pair, or read
as what it is made of. -/
theorem ofString_cases (hp : IsPiece false token.toList) (ht : trim token.toList = token.toList) :
    (TextAfterClosing token.toList ∧
      Token.ofString token = .error (.textAfterArguments token)) ∨
    (¬ TextAfterClosing token.toList ∧ ∃ t, Token.ofString token = .ok t ∧ MadeOf token t) := by
  have hwhole : String.ofList (trim token.toList) = token := by rw [ht, String.ofList_toList]
  rcases isPlain_or_call hp with hplain | ⟨name, arguments, more, hs, hname, hopen, hclose⟩
  · have hread := ofChars_bare (s := token.toList) (by rw [ht]; exact hplain.not_open)
      (by rw [ht]; exact hplain.not_close)
    rw [hwhole] at hread
    exact Or.inr ⟨not_textAfterClosing hplain.not_close, _, hread, .bare hplain⟩
  · have hbefore : ')' ∉ name ++ '(' :: arguments := by simp [hname.not_close, hclose]
    have hafter : TextAfterClosing token.toList ↔ more ≠ [] := by
      rw [← textAfterClosing_iff hbefore, hs, List.append_assoc, List.cons_append]
    rw [hafter]
    cases more with
    | cons c more =>
        have hread := ofChars_text_after (ht.trans hs) hname.not_open hclose
        rw [hwhole] at hread
        exact Or.inl ⟨List.cons_ne_nil c more, hread⟩
    | nil =>
        have hread := ofChars_call (ht.trans hs) hname.not_open hclose
        rw [hwhole] at hread
        obtain ⟨blanks, hblanks, heq⟩ := exists_trim_append ht hs
        refine Or.inr ⟨not_not_intro rfl, _, hread, .call ?_ hblanks ?_ ?_ ?_⟩
        · rw [String.toList_ofList, String.toList_ofList, ← List.append_assoc, ← heq, hs]
        · rw [String.toList_ofList]
          exact hname.trim
        · rwa [String.toList_ofList]
        · rwa [String.toList_ofList]

/-- A token of the strict split is refused just if something follows its first closing parenthesis,
and for that alone: it never has a parenthesis that is not opened or not closed. Any other token is
read as the name, or the name and the arguments, that it is made of. -/
theorem ofString_token_of_splitStrict (h : splitStrict arch = .ok texts) (ht : token ∈ texts) :
    (∀ other, Token.ofString token ≠ .error (.unmatchedInToken other)) ∧
    (∀ other, Token.ofString token ≠ .error (.unclosedInToken other)) ∧
    ((∃ e, Token.ofString token = .error e) ↔ TextAfterClosing token.toList) ∧
    (∀ e, Token.ofString token = .error e → e = .textAfterArguments token) ∧
    (¬ TextAfterClosing token.toList → ∃ t, Token.ofString token = .ok t ∧ MadeOf token t) := by
  obtain ⟨horder, rfl⟩ := splitStrict_eq_ok_iff.mp h
  rcases ofString_cases (horder token ht) (trim_of_mem_split ht) with
    ⟨hafter, hread⟩ | ⟨hafter, t, hread, hmade⟩
  · simp [hafter, hread]
  · simp [hafter, hread, hmade]

/-- A call with a blank before its arguments, a bare name, and a call with another behind it. -/
theorem ofString_token_of_splitStrict_calls :
    splitStrict " f (1, 2) ,, word ,g(3) h(4)" = .ok ["f (1, 2)", "word", "g(3) h(4)"] ∧
      (∃ t, Token.ofString "f (1, 2)" = .ok t ∧ MadeOf "f (1, 2)" t) ∧
      (∃ t, Token.ofString "word" = .ok t ∧ MadeOf "word" t) ∧
      Token.ofString "g(3) h(4)" = .error (.textAfterArguments "g(3) h(4)") := by
  have hs : splitStrict " f (1, 2) ,, word ,g(3) h(4)" = .ok ["f (1, 2)", "word", "g(3) h(4)"] := by
    decide +kernel
  have htokens : "f (1, 2)" ∈ ["f (1, 2)", "word", "g(3) h(4)"] ∧
      "word" ∈ ["f (1, 2)", "word", "g(3) h(4)"] ∧
      "g(3) h(4)" ∈ ["f (1, 2)", "word", "g(3) h(4)"] := by simp
  obtain ⟨-, -, -, -, hcall⟩ := ofString_token_of_splitStrict hs htokens.1
  obtain ⟨-, -, -, -, hbare⟩ := ofString_token_of_splitStrict hs htokens.2.1
  obtain ⟨-, -, hrefused, htext, -⟩ := ofString_token_of_splitStrict hs htokens.2.2
  have hclosed : ¬ TextAfterClosing ("f (1, 2".toList ++ [')']) := by
    rw [textAfterClosing_iff (by decide), not_not]
  obtain ⟨e, he⟩ := hrefused.mpr ⟨"g(3".toList, ' ', "h(4)".toList, rfl, by decide⟩
  exact ⟨hs, hcall hclosed, hbare (not_textAfterClosing (by decide)), htext e he ▸ he⟩

end TaggerFeatures.Architecture
