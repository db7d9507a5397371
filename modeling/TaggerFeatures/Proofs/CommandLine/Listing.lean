import TaggerFeatures.Proofs.CommandLine.Ending
import TaggerFeatures.Proofs.Corpus.TaggedText
import TaggerFeatures.Proofs.FeatureSet.Listing

/-!
Runs without settings. They fail for an architecture that does not compile or a sentence that cannot
be read, and else print a listing of which every line is known.
-/
namespace TaggerFeatures.CommandLine

/-! ## Lines of a text -/

theorem foldl_line (lines : List String) (front : String) :
    lines.foldl (fun text line => text ++ line ++ "\n") front = front ++ textOf lines := by
  induction lines generalizing front with
  | nil => simp [textOf]
  | cons line rest ih =>
      simp only [textOf, List.foldl_cons]
      rw [ih, ih ("" ++ line ++ "\n")]
      simp [String.append_assoc]

theorem textOf_cons (line : String) (rest : List String) :
    textOf (line :: rest) = line ++ "\n" ++ textOf rest := by
  rw [textOf, List.foldl_cons, foldl_line, String.empty_append]

theorem textOf_announcement (arch : String) (rest : List String) :
    textOf (announcement arch :: rest) =
      "Compiling architecture '" ++ arch ++ "'...\n" ++ textOf rest := by
  have hbreak : "'..." ++ "\n" = "'...\n" := by decide
  rw [textOf_cons, ← hbreak, ← String.append_assoc]
  rfl

/-- A text that consists of the lines, each with a line break behind it and none inside. -/
structure HasLines (text : String) (lines : List String) : Prop where
  text_eq : text = textOf lines
  oneLine : ∀ line ∈ lines, Text.OneLine line

theorem splitWhen_textOf {lines : List String} (h : ∀ line ∈ lines, Text.OneLine line) :
    Text.splitWhen (· == '\n') (textOf lines).toList = lines.map String.toList ++ [[]] := by
  induction lines with
  | nil => rfl
  | cons line rest ih =>
      obtain ⟨hline, hrest⟩ := List.forall_mem_cons.mp h
      have hbreak := Text.beq_of_not_mem (hline.not_mem (c := '\n') rfl (by decide))
      rw [textOf_cons, String.append_assoc, String.toList_append, String.toList_append]
      exact (Text.splitWhen_append_cons hbreak rfl _).trans (congrArg _ (ih hrest))

/-- There is only one way to take a text for lines. -/
theorem HasLines.unique {text : String} {lines lines' : List String} (h : HasLines text lines)
    (h' : HasLines text lines') : lines = lines' := by
  have hsplit := splitWhen_textOf h.oneLine
  rw [← h.text_eq, h'.text_eq, splitWhen_textOf h'.oneLine, List.append_cancel_right_eq] at hsplit
  exact (List.map_injective_iff.mpr fun _ _ => String.toList_inj.mp) hsplit.symm

/-! ## Runs -/

/-- The architecture that is compiled without settings. -/
def Options.architecture (o : Options) : String := o.arch.getD "left3words"

/-- The separator of words and tags without settings. -/
def Options.tagSeparator (o : Options) : String := (unlessEmpty o.separator).getD "_"

/-- What compiling without a dictionary gives. -/
def Options.compiled (o : Options) : Except Architecture.Failure (List Template) :=
  (Architecture.compile o.architecture []).outcome

open Architecture in
/-- The texts for architectures that do not compile. -/
inductive Explains : Architecture.Failure → String → Prop
  | nested (column : Nat) (arch : String) :
      Explains (.malformed (.parentheses (.nested column) arch))
        ("Nested parenthesis at column " ++ toString column ++ " of '" ++ arch ++ "'.")
  | unmatched (column : Nat) (arch : String) :
      Explains (.malformed (.parentheses (.unmatched column) arch))
        ("Unmatched ')' at column " ++ toString column ++ " of '" ++ arch ++ "'.")
  | unclosed (arch : String) :
      Explains (.malformed (.parentheses .unclosed arch)) ("Unclosed '(' in '" ++ arch ++ "'.")
  | unmatchedInToken (token : String) :
      Explains (.malformed (.unmatchedInToken token)) ("Unmatched ')' in token '" ++ token ++ "'.")
  | unclosedInToken (token : String) :
      Explains (.malformed (.unclosedInToken token)) ("Unclosed '(' in token '" ++ token ++ "'.")
  | textAfterArguments (token : String) :
      Explains (.malformed (.textAfterArguments token))
        ("Unexpected text after ')' in token '" ++ token ++ "'.")
  | notAnInteger (argument token : String) :
      Explains (.malformed (.notAnInteger argument token))
        ("Argument '" ++ argument ++ "' of '" ++ token ++ "' is not an integer.")
  | negativeRightOrder (order : Int) (token : String) :
      Explains (.malformed (.negativeRightOrder order token))
        ("Right order must be non-negative, not " ++ toString order ++ " (in '" ++ token ++ "').")
  | tooLong (digits : Nat) :
      Explains (.tooLong ⟨digits⟩)
        ("Exceeds the limit (4300 digits) for integer string conversion: value has " ++
          toString digits ++
          " digits; use sys.set_int_max_str_digits() to increase the limit")

/-- Why a run without settings is refused, and the text of that. -/
inductive Refused (o : Options) : String → Prop
  | architecture {e message} : o.compiled = .error e → Explains e message → Refused o message
  | sentence {templates sentence item} : o.compiled = .ok templates →
      unlessEmpty o.sentence = some sentence →
      TaggedText.read sentence o.tagSeparator = .error (.noTag item o.tagSeparator) →
      Refused o ("Item '" ++ item ++ "' is not of the form word" ++ o.tagSeparator ++ "tag.")

/-- How a run without settings ends. -/
inductive Ends (o : Options) (r : Run) : Prop
  | noArchitecture {e} : o.compiled = .error e → r.failure = some (.architecture e) → Ends o r
  | noSentence {templates} : o.compiled = .ok templates → unlessEmpty o.sentence = none →
      r.failure = none →
      r.printed = announcement o.architecture :: FeatureSet.templateLines ⟨templates⟩ → Ends o r
  | badSentence {templates sentence item} : o.compiled = .ok templates →
      unlessEmpty o.sentence = some sentence →
      TaggedText.read sentence o.tagSeparator = .error (.noTag item o.tagSeparator) →
      r.failure = some (.tagged (.noTag item o.tagSeparator)) → Ends o r
  | sentence {templates sentence pairs lines} : o.compiled = .ok templates →
      unlessEmpty o.sentence = some sentence →
      TaggedText.read sentence o.tagSeparator = .ok pairs →
      (∀ line ∈ lines, Text.OneLine line) →
      FeatureSet.Describes ⟨templates⟩ (pairs.map (·.1)) (pairs.map (·.2)) lines →
      r.failure = none →
      r.printed = announcement o.architecture :: (FeatureSet.templateLines ⟨templates⟩ ++
        "" :: if lines.isEmpty then [""] else lines) → Ends o r

variable {reader : Settings.Reader} {files : FileSystem} {o : Options} {templates : List Template}
  {sentence : String} {pairs : List (String × String)}

theorem ne_empty_of_unlessEmpty {given : Option String} {s : String}
    (h : unlessEmpty given = some s) : s ≠ "" := by
  rintro rfl
  exact absurd (Option.filter_eq_some_iff.mp h).2 (by decide)

theorem tagSeparator_ne_empty (o : Options) : o.tagSeparator ≠ "" := by
  unfold Options.tagSeparator
  cases hs : unlessEmpty o.separator with
  | none => decide
  | some s => exact ne_empty_of_unlessEmpty hs

/-- Whatever keeps an architecture from being compiled without a dictionary is explained. -/
theorem explains_message {e : Architecture.Failure} (h : o.compiled = .error e) :
    Explains e e.message := by
  cases e with
  | malformed error =>
      cases error with
      | parentheses fault arch =>
          cases fault with
          | nested column => exact .nested column arch
          | unmatched column => exact .unmatched column arch
          | unclosed => exact .unclosed arch
      | unmatchedInToken token => exact .unmatchedInToken token
      | unclosedInToken token => exact .unclosedInToken token
      | textAfterArguments token => exact .textAfterArguments token
      | notAnInteger argument token => exact .notAnInteger argument token
      | negativeRightOrder order token => exact .negativeRightOrder order token
  | tooLong error => exact .tooLong error.digits
  | count error =>
      exact absurd h (Architecture.outcome_ne_count (TagDictionary.allIntegers_toRaw []) error)

theorem eq_noTag_of_read {separator : String} {e : TaggedText.Error} (hsep : separator ≠ "")
    (h : TaggedText.read sentence separator = .error e) : ∃ item, e = .noTag item separator := by
  obtain ⟨item, -, hitem⟩ := exists_of_mapM_error h
  have hempty : separator.toList.isEmpty = false := by
    cases hs : separator.toList with
    | nil => exact absurd (String.toList_eq_nil_iff.mp hs) hsep
    | cons c cs => rfl
  rw [TaggedText.readItem, hempty, if_neg Bool.false_ne_true] at hitem
  split at hitem
  · cases hitem
  · cases hitem
    exact ⟨_, by rw [String.ofList_toList]⟩

theorem run_eq_describe (reader : Settings.Reader) (files : FileSystem)
    (hconfig : unlessEmpty o.config = none) : run reader files o =
      describe {} o.architecture (unlessEmpty o.sentence) (unlessEmpty o.separator) := by
  rw [run, hconfig]
  rfl

theorem describeSentence_of_ok {features : FeatureSet} (hs : features.Listable)
    {separator : String} (hsep : separator ≠ "")
    (hread : TaggedText.read sentence separator = .ok pairs) :
    ∃ lines, describeSentence features sentence separator =
        { printed := "" :: if lines.isEmpty then [""] else lines } ∧
      (∀ line ∈ lines, Text.OneLine line) ∧
      features.Describes (pairs.map (·.1)) (pairs.map (·.2)) lines := by
  have hl : (pairs.map (·.2)).length = (pairs.map (·.1)).length := by simp
  have hpairs := ((TaggedText.read_eq_ok_iff hsep).mp hread).2
  have hwords : ∀ word ∈ pairs.map (·.1), Text.OneLine word :=
    List.forall_mem_map.mpr fun p hp => Text.oneLine_of_not_blank (hpairs p hp).word_not_blank
  have htags : ∀ tag ∈ pairs.map (·.2), Text.OneLine tag :=
    List.forall_mem_map.mpr fun p hp => Text.oneLine_of_not_blank (hpairs p hp).tag_not_blank
  obtain ⟨lines, hlines, hdescribes⟩ := FeatureSet.featureLines_tagged hs.printable hl
  refine ⟨lines, ?_, hs.oneLine_featureLines hl hwords htags hlines, hdescribes⟩
  have hadd : Corpus.empty.add (pairs.map (·.1)) (some (pairs.map fun pair => some pair.2)) =
      .ok (0, .tagged (pairs.map (·.1)) (pairs.map (·.2))) := by
    rw [← Corpus.add_tagged hl, List.map_map]
    rfl
  simp only [describeSentence, hread, hadd, hlines]

theorem run_ends (reader : Settings.Reader) (files : FileSystem)
    (hconfig : unlessEmpty o.config = none) : Ends o (run reader files o) := by
  have hempty : TagDictionary.toRaw ({} : Settings).dictionary = [] := rfl
  rw [run_eq_describe reader files hconfig, describe, hempty]
  cases hcompiled : o.compiled with
  | error e =>
      have houtcome : (Architecture.compile o.architecture []).outcome = .error e := hcompiled
      rw [houtcome]
      exact .noArchitecture hcompiled rfl
  | ok templates =>
      have houtcome : (Architecture.compile o.architecture []).outcome = .ok templates := hcompiled
      have hs := FeatureSet.listable_of_compile houtcome
      simp only [houtcome, hs.printable.templateLines?]
      cases hsentence : unlessEmpty o.sentence with
      | none =>
          refine .noSentence hcompiled hsentence rfl ?_
          simp [Run.after, Run.warned]
      | some sentence =>
          change Ends o (Run.after _ (Run.warned _ (Run.after _
            (describeSentence ⟨templates⟩ sentence o.tagSeparator))))
          have hsep := tagSeparator_ne_empty o
          cases hread : TaggedText.read sentence o.tagSeparator with
          | error e =>
              obtain ⟨item, rfl⟩ := eq_noTag_of_read hsep hread
              refine .badSentence hcompiled hsentence hread ?_
              simp only [failure_after, failure_warned, describeSentence, hread, failure_fail]
          | ok pairs =>
              obtain ⟨lines, hdescribe, honeLine, hdescribes⟩ :=
                describeSentence_of_ok hs hsep hread
              rw [hdescribe]
              exact .sentence hcompiled hsentence hread honeLine hdescribes rfl rfl

theorem Ends.failure_eq_none_iff {r : Run} (h : Ends o r) :
    r.failure = none ↔ (∃ templates, o.compiled = .ok templates) ∧
      ∀ sentence, unlessEmpty o.sentence = some sentence →
        ∃ pairs, TaggedText.read sentence o.tagSeparator = .ok pairs := by
  cases h with
  | noArchitecture hcompiled hf => simp [hcompiled, hf]
  | noSentence hcompiled hsentence hf => simp [hcompiled, hsentence, hf]
  | badSentence hcompiled hsentence hread hf => simp [hcompiled, hsentence, hread, hf]
  | sentence hcompiled hsentence hread _ _ hf => simp [hcompiled, hsentence, hread, hf]

theorem Ends.refused {r : Run} {e : Failure} (h : Ends o r) (hf : r.failure = some e) :
    Refused o e.message := by
  cases h with
  | noArchitecture hcompiled hfailure =>
      cases hf.symm.trans hfailure
      exact .architecture hcompiled (explains_message hcompiled)
  | badSentence hcompiled hsentence hread hfailure =>
      cases hf.symm.trans hfailure
      exact .sentence hcompiled hsentence hread
  | noSentence _ _ hfailure | sentence _ _ _ _ _ hfailure => cases hf.symm.trans hfailure

theorem Ends.failure_ne_corpus {r : Run} (h : Ends o r) (e : Corpus.Error) :
    r.failure ≠ some (.corpus e) := by
  intro hf
  cases h with
  | noArchitecture _ hfailure | noSentence _ _ hfailure | badSentence _ _ _ hfailure
  | sentence _ _ _ _ _ hfailure => cases hf.symm.trans hfailure

theorem listable_of_compiled (h : o.compiled = .ok templates) :
    FeatureSet.Listable ⟨templates⟩ :=
  FeatureSet.listable_of_compile h

theorem Ends.output_of_noSentence {r : Run} (h : Ends o r) (hcompiled : o.compiled = .ok templates)
    (hnone : unlessEmpty o.sentence = none) : ∃ listing,
      r.outcome.output = "Compiling architecture '" ++ o.architecture ++ "'...\n" ++ listing ∧
        HasLines listing (FeatureSet.templateLines ⟨templates⟩) := by
  cases h with
  | noArchitecture herror _ => cases hcompiled.symm.trans herror
  | badSentence _ hsome _ _ | sentence _ hsome _ _ _ _ => cases hnone.symm.trans hsome
  | noSentence hok _ _ hprinted =>
      cases hcompiled.symm.trans hok
      refine ⟨_, ?_, rfl, (listable_of_compiled hok).oneLine_templateLines⟩
      rw [output_outcome, hprinted, textOf_announcement]

theorem Ends.output_of_sentence {r : Run} (h : Ends o r) (hcompiled : o.compiled = .ok templates)
    (hsome : unlessEmpty o.sentence = some sentence)
    (hread : TaggedText.read sentence o.tagSeparator = .ok pairs) (hne : pairs ≠ []) :
    ∃ listing lines,
      r.outcome.output = "Compiling architecture '" ++ o.architecture ++ "'...\n" ++ listing ∧
      HasLines listing (FeatureSet.templateLines ⟨templates⟩ ++ "" :: lines) ∧
      FeatureSet.Describes ⟨templates⟩ (pairs.map (·.1)) (pairs.map (·.2)) lines := by
  cases h with
  | noArchitecture herror _ => cases hcompiled.symm.trans herror
  | noSentence _ hnone _ _ => cases hsome.symm.trans hnone
  | badSentence _ hsome' herror _ =>
      cases hsome.symm.trans hsome'
      cases hread.symm.trans herror
  | @sentence _ _ _ lines hok hsome' hread' honeLine hdescribes _ hprinted =>
      cases hcompiled.symm.trans hok
      cases hsome.symm.trans hsome'
      cases hread.symm.trans hread'
      have hlines : lines ≠ [] := by
        rintro rfl
        have hlength := hdescribes.length_eq
        simp [hne] at hlength
      rw [if_neg (by simpa using hlines)] at hprinted
      refine ⟨_, lines, by rw [output_outcome, hprinted, textOf_announcement], ⟨rfl, ?_⟩,
        hdescribes⟩
      refine List.forall_mem_append.mpr ⟨(listable_of_compiled hok).oneLine_templateLines, ?_⟩
      exact List.forall_mem_cons.mpr ⟨by decide, honeLine⟩

/-- A run without settings succeeds just if the architecture compiles and the sentence can be read;
otherwise it reports why, and reading the corpus is never the reason. The listing has a line for
each template between two others, and behind an empty line those that describe the sentence. -/
theorem run_without_settings (reader : Settings.Reader) (files : FileSystem)
    (hconfig : unlessEmpty o.config = none) :
    ((run reader files o).outcome.exit = 0 ↔ (∃ templates, o.compiled = .ok templates) ∧
      ∀ sentence, unlessEmpty o.sentence = some sentence →
        ∃ pairs, TaggedText.read sentence o.tagSeparator = .ok pairs) ∧
    ((run reader files o).outcome.exit ≠ 0 → (run reader files o).outcome.exit = 1 ∧
      (run reader files o).outcome.escaped = none ∧ ∃ before message, Refused o message ∧
        (run reader files o).outcome.errors = before ++ "\nError: " ++ message ++ "\n") ∧
    (∀ e, (run reader files o).failure ≠ some (.corpus e)) ∧
    ∀ templates, o.compiled = .ok templates →
      ∃ frames, FeatureSet.templateLines? ⟨templates⟩ = some frames ∧
      frames.length = templates.length + 2 ∧
      (unlessEmpty o.sentence = none → ∃ listing, (run reader files o).outcome.output =
          "Compiling architecture '" ++ o.architecture ++ "'...\n" ++ listing ∧
        HasLines listing frames) ∧
      ∀ sentence pairs, unlessEmpty o.sentence = some sentence →
        TaggedText.read sentence o.tagSeparator = .ok pairs → pairs ≠ [] → ∃ listing lines,
          (run reader files o).outcome.output =
            "Compiling architecture '" ++ o.architecture ++ "'...\n" ++ listing ∧
          HasLines listing (frames ++ "" :: lines) ∧
          FeatureSet.Describes ⟨templates⟩ (pairs.map (·.1)) (pairs.map (·.2)) lines := by
  have hends := run_ends reader files hconfig
  refine ⟨exit_eq_zero_iff.trans hends.failure_eq_none_iff, ?_, hends.failure_ne_corpus, ?_⟩
  · intro hexit
    obtain ⟨e, hf⟩ := Option.ne_none_iff_exists'.mp (mt exit_eq_zero_iff.mpr hexit)
    obtain ⟨hone, hescaped, herrors⟩ := outcome_of_isReported hf (isReported_of_run hconfig hf)
    exact ⟨hone, hescaped, _, _, hends.refused hf, herrors⟩
  · intro templates hcompiled
    refine ⟨_, (listable_of_compiled hcompiled).printable.templateLines?,
      FeatureSet.length_templateLines _, hends.output_of_noSentence hcompiled, ?_⟩
    intro sentence pairs hsome hread hne
    exact hends.output_of_sentence hcompiled hsome hread hne

/-- Two templates, and a sentence of two words. -/
def timeFlies : Options :=
  { arch := some "words(0,0),tags(-1,-1)", sentence := some "time_NN flies_VBZ" }

theorem run_without_settings_timeFlies :
    unlessEmpty timeFlies.config = none ∧
      (run Yaml.reader (fun _ => .missing) timeFlies).outcome.exit = 0 ∧ ∃ frames listing lines,
        FeatureSet.templateLines? ⟨[.word 0, .tag (-1)]⟩ = some frames ∧ frames.length = 4 ∧
          (run Yaml.reader (fun _ => .missing) timeFlies).outcome.output =
            "Compiling architecture '" ++ "words(0,0),tags(-1,-1)" ++ "'...\n" ++ listing ∧
          HasLines listing (frames ++ "" :: lines) ∧
          lines.length = 6 ∧ lines[3]? = some "[1] flies" ∧
          lines[5]? = some "    Tag(t-1): NN" := by
  have hconfig : unlessEmpty timeFlies.config = none := rfl
  have hcompiled : timeFlies.compiled = .ok [.word 0, .tag (-1)] := rfl
  have hsentence : unlessEmpty timeFlies.sentence = some "time_NN flies_VBZ" := by decide +kernel
  have hread : TaggedText.read "time_NN flies_VBZ" timeFlies.tagSeparator =
      .ok [("time", "NN"), ("flies", "VBZ")] := by decide +kernel
  have hreads : ∀ sentence, unlessEmpty timeFlies.sentence = some sentence →
      ∃ pairs, TaggedText.read sentence timeFlies.tagSeparator = .ok pairs := by
    intro sentence hs
    cases hsentence.symm.trans hs
    exact ⟨_, hread⟩
  obtain ⟨hexit, _, _, houtput⟩ := run_without_settings Yaml.reader (fun _ => .missing) hconfig
  have hzero := hexit.mpr ⟨⟨_, hcompiled⟩, hreads⟩
  obtain ⟨frames, hframes, hlength, _, hlisting⟩ := houtput _ hcompiled
  obtain ⟨listing, lines, hout, hlines, hdescribes⟩ :=
    hlisting _ _ hsentence hread (List.cons_ne_nil _ _)
  obtain ⟨hword, keys, hkeys, _, hkey⟩ := hdescribes.at_position 1 "flies" rfl
  have hcomputed : FeatureSet.keys ⟨[.word 0, .tag (-1)]⟩
      (.tagged ["time", "flies"] ["NN", "VBZ"]) ⟨0, 1⟩ = .ok ["flies", "NN"] := by decide +kernel
  cases hkeys.symm.trans hcomputed
  exact ⟨hconfig, hzero, frames, listing, lines, hframes, hlength, hout, hlines,
    hdescribes.length_eq, hword, hkey 1 _ _ rfl rfl⟩

end TaggerFeatures.CommandLine
