import TaggerFeatures.FeatureSet.Listing
import TaggerFeatures.Proofs.Architecture.Printable
import TaggerFeatures.Proofs.FeatureSet.Table
import TaggerFeatures.Proofs.Template.Dependence
import TaggerFeatures.Proofs.Template.OneLine

/-!
What the listings of a feature set hold, line by line: a heading, the templates and their tag
context, and for a tagged sentence the word of each position with its keys below.
-/
namespace TaggerFeatures

/-! ## Blocks of equal length -/

theorem getElem?_flatten {α : Type} {m i : Nat} {blocks : List (List α)}
    (hm : ∀ block ∈ blocks, block.length = m) (hi : i < m) (p : Nat) :
    blocks.flatten[p * m + i]? = blocks[p]?.bind (·[i]?) := by
  induction blocks generalizing p with
  | nil => simp
  | cons block rest ih =>
      obtain ⟨hblock, hrest⟩ := List.forall_mem_cons.mp hm
      cases p with
      | zero =>
          rw [List.flatten_cons, Nat.zero_mul, Nat.zero_add, List.getElem?_append_left (by omega)]
          rfl
      | succ p =>
          have hindex : (p + 1) * m + i - block.length = p * m + i := by
            rw [hblock, Nat.succ_mul]
            omega
          rw [List.flatten_cons, List.getElem?_append_right (by rw [hblock, Nat.succ_mul]; omega),
            hindex, ih hrest, List.getElem?_cons_succ]

theorem length_flatten {α : Type} {m : Nat} {blocks : List (List α)}
    (hm : ∀ block ∈ blocks, block.length = m) : blocks.flatten.length = blocks.length * m := by
  induction blocks with
  | nil => simp
  | cons block rest ih =>
      obtain ⟨hblock, hrest⟩ := List.forall_mem_cons.mp hm
      rw [List.flatten_cons, List.length_append, hblock, ih hrest, List.length_cons, Nat.succ_mul,
        Nat.add_comm]

/-! ## A tagged sentence -/

namespace Corpus

variable {words tags : List String}

theorem add_tagged (hl : tags.length = words.length) :
    empty.add words (some (tags.map some)) = .ok (0, tagged words tags) := by
  simp [add, hl, tagged, run, attempt, edit, push, empty, Except.map, size]

theorem knows_tagged (hl : tags.length = words.length) : (tagged words tags).Knows 0 := by
  by_contra hs
  have hwords := wordsOf_tagged hl
  rw [wordsOf_of_not_knows hs] at hwords
  cases hwords

theorem cursorsOf_tagged (hl : tags.length = words.length) :
    (tagged words tags).cursorsOf 0 =
      .ok ((List.range words.length).map fun p => ⟨0, (p : Nat)⟩) := by
  simp only [cursorsOf, lengthOf, wordsOf_tagged hl]
  rfl

theorem assigned_tagged (hl : tags.length = words.length) {i : Int}
    (hi : (tagged words tags).Inside 0 i) : (tagged words tags).Assigned 0 i := by
  have haligned := (reachable_tagged words tags).aligned
  have hslot : (tagged words tags).tagSlot? 0 i = slot? (tags.map some) i := by
    simp [tagSlot?, slot?, tags_tagged hl]
  obtain ⟨entry, hentry⟩ := Option.ne_none_iff_exists'.mp
    (mt (tagSlot?_eq_none_iff haligned (knows_tagged hl)).mp (not_not.mpr hi))
  rw [hslot, slot?_eq_some_iff] at hentry
  obtain ⟨n, rfl, hn⟩ := hentry
  rw [List.getElem?_map, Option.map_eq_some_iff] at hn
  obtain ⟨tag, htag, rfl⟩ := hn
  exact ⟨tag, by rw [hslot, slot?_natCast, List.getElem?_map, htag]; rfl⟩

theorem oneLine_word (hw : ∀ word ∈ words, Text.OneLine word) (i : Int) :
    Text.OneLine ((slot? words i).getD boundary) :=
  slot?_getD_boundary hw (by decide) i

theorem oneLine_tag (hl : tags.length = words.length) (ht : ∀ tag ∈ tags, Text.OneLine tag)
    {p o : Int} {tag : String} (h : (tagged words tags).tagAt ⟨0, p⟩ o = .ok tag) :
    Text.OneLine tag := by
  rw [tagAt_tagged hl] at h
  cases h
  exact slot?_getD_boundary ht (by decide) _

end Corpus

namespace FeatureSet

variable {s : FeatureSet} {words tags : List String}

/-- The templates of the set have a printed form, and their shapers are known by name. -/
structure Listable (s : FeatureSet) : Prop where
  printable : s.Printable
  registered : ∀ t ∈ s.templates, t.Registered

theorem listable_of_compile {arch : String} {source : RawDictionary} {templates : List Template}
    (h : (Architecture.compile arch source).outcome = .ok templates) :
    Listable ⟨templates⟩ where
  printable := Architecture.printable_of_compile h
  registered := Architecture.registered_of_compile h

theorem exists_keys_tagged (s : FeatureSet) (hl : tags.length = words.length) (p : Int) :
    ∃ keys, s.keys (.tagged words tags) ⟨0, p⟩ = .ok keys :=
  (s.exactWindow (Corpus.reachable_tagged words tags).aligned (Corpus.knows_tagged hl)).enough
    fun _ _ _ hi => Corpus.assigned_tagged hl hi

theorem Listable.oneLine_keys (hs : s.Listable) (hl : tags.length = words.length)
    (hw : ∀ word ∈ words, Text.OneLine word) (ht : ∀ tag ∈ tags, Text.OneLine tag) {p : Int}
    {keys : List String} (hk : s.keys (.tagged words tags) ⟨0, p⟩ = .ok keys) :
    ∀ key ∈ keys, Text.OneLine key := by
  intro key hmem
  obtain ⟨t, htemplate, hkey⟩ := exists_of_mem_of_mapM_ok hk hmem
  have hword : ∀ o, (Corpus.tagged words tags).wordAt ⟨0, p⟩ o =
      .ok ((Corpus.slot? words (p + o)).getD boundary) :=
    Corpus.wordAt_tagged hl p
  exact Template.oneLine_key (hs.registered t htemplate) hword (fun o => Corpus.oneLine_word hw _)
    (fun o tag htag => Corpus.oneLine_tag hl ht htag) hkey

/-! ## The lines of a sentence -/

/-- At each position of a tagged sentence there is a line for the word, and below it one for each
template with its key. -/
structure Describes (s : FeatureSet) (words tags lines : List String) : Prop where
  length_eq : lines.length = words.length * (s.size + 1)
  at_position : ∀ (p : Nat) word, words[p]? = some word →
    lines[p * (s.size + 1)]? = some ("[" ++ toString p ++ "] " ++ word) ∧
      ∃ keys, s.keys (.tagged words tags) ⟨0, p⟩ = .ok keys ∧ keys.length = s.size ∧
        ∀ (i : Nat) t key, s.templates[i]? = some t → keys[i]? = some key →
          lines[p * (s.size + 1) + (i + 1)]? = some ("    " ++ t.print ++ ": " ++ key)

theorem length_keys {c : Corpus} {h : Cursor} {keys : List String} (hk : s.keys c h = .ok keys) :
    keys.length = s.size :=
  length_of_mapM_ok hk

/-- The lines of one position, with the word and the keys found there. -/
def block (s : FeatureSet) (p : Nat) (word : String) (keys : List String) : List String :=
  ("[" ++ toString p ++ "] " ++ word) ::
    ((s.templates.map Template.print).zip keys).map fun (name, key) => "    " ++ name ++ ": " ++ key

theorem positionLines_tagged (hs : s.Printable) (hl : tags.length = words.length) {p : Nat}
    {word : String} {keys : List String} (hword : words[p]? = some word)
    (hk : s.keys (.tagged words tags) ⟨0, p⟩ = .ok keys) :
    s.positionLines (.tagged words tags) ⟨0, p⟩ = .ok (s.block p word keys) := by
  have hw : (Corpus.tagged words tags).wordAt ⟨0, p⟩ 0 = .ok word := by
    refine (Corpus.wordAt_tagged hl p 0).trans ?_
    rw [Int.add_zero, Corpus.slot?_natCast, hword]
    rfl
  have hprinted : s.templates.mapM Template.print? = some (s.templates.map Template.print) :=
    mapM_eq_some_map fun t ht => (hs t ht).print?
  simp only [positionLines, hw, hk, hprinted]
  rfl

theorem length_block {p : Nat} {word : String} {keys : List String} (hk : keys.length = s.size) :
    (s.block p word keys).length = s.size + 1 := by
  simp [block, hk, size]

theorem getElem?_block_succ {p i : Nat} {word key : String} {keys : List String} {t : Template}
    (ht : s.templates[i]? = some t) (hk : keys[i]? = some key) :
    (s.block p word keys)[i + 1]? = some ("    " ++ t.print ++ ": " ++ key) := by
  have hpair : ((s.templates.map Template.print).zip keys)[i]? = some (t.print, key) :=
    List.getElem?_zip_eq_some.mpr ⟨by rw [List.getElem?_map, ht]; rfl, hk⟩
  rw [block, List.getElem?_cons_succ, List.getElem?_map, hpair]
  rfl

/-- The blocks of the positions in order, each with the word and the keys found there. -/
structure AreBlocks (s : FeatureSet) (words tags : List String) (blocks : List (List String)) :
    Prop where
  length_eq : blocks.length = words.length
  at_position : ∀ (p : Nat) word, words[p]? = some word →
    ∃ keys, s.keys (.tagged words tags) ⟨0, p⟩ = .ok keys ∧
      blocks[p]? = some (s.block p word keys)

theorem featureLines_eq_flatten (hs : s.Printable) (hl : tags.length = words.length) :
    ∃ blocks : List (List String), s.featureLines (.tagged words tags) = .ok blocks.flatten ∧
      s.AreBlocks words tags blocks := by
  have hall : ∀ p word, words[p]? = some word → ∃ keys,
      s.keys (.tagged words tags) ⟨0, (p : Nat)⟩ = .ok keys ∧
        s.positionLines (.tagged words tags) ⟨0, (p : Nat)⟩ = .ok (s.block p word keys) := by
    intro p word hword
    obtain ⟨keys, hk⟩ := s.exists_keys_tagged hl p
    exact ⟨keys, hk, positionLines_tagged hs hl hword hk⟩
  obtain ⟨blocks, hblocks⟩ : ∃ blocks, ((List.range words.length).map fun p =>
      (⟨0, (p : Nat)⟩ : Cursor)).mapM (s.positionLines (.tagged words tags)) = .ok blocks := by
    refine exists_mapM_ok_iff.mpr (List.forall_mem_map.mpr fun p hp => ?_)
    obtain ⟨keys, _, hlines⟩ := hall p _ (List.getElem?_eq_getElem (List.mem_range.mp hp))
    exact ⟨_, hlines⟩
  refine ⟨blocks, ?_, by simp [length_of_mapM_ok hblocks], fun p word hword => ?_⟩
  · simp only [featureLines, Corpus.cursorsOf_tagged hl, bind, Except.bind, hblocks]
  · obtain ⟨keys, hk, hlines⟩ := hall p word hword
    have hp : p < words.length := (List.getElem?_eq_some_iff.mp hword).1
    obtain ⟨lines, hget, hpositions⟩ := getElem?_of_mapM_ok hblocks (i := p) (x := ⟨0, p⟩)
      (by simp [hp])
    rw [hlines] at hpositions
    cases hpositions
    exact ⟨keys, hk, hget⟩

section
variable {blocks : List (List String)} {lines : List String}

theorem AreBlocks.exists_of_mem (h : s.AreBlocks words tags blocks) (hmem : lines ∈ blocks) :
    ∃ (p : Nat) (word : String) (keys : List String), words[p]? = some word ∧
      s.keys (.tagged words tags) ⟨0, p⟩ = .ok keys ∧ lines = s.block p word keys := by
  obtain ⟨p, hp⟩ := List.mem_iff_getElem?.mp hmem
  have hlt : p < words.length := h.length_eq ▸ (List.getElem?_eq_some_iff.mp hp).1
  obtain ⟨keys, hk, hget⟩ := h.at_position p _ (List.getElem?_eq_getElem hlt)
  rw [hp] at hget
  exact ⟨p, _, keys, List.getElem?_eq_getElem hlt, hk, Option.some.inj hget⟩

theorem AreBlocks.length_of_mem (h : s.AreBlocks words tags blocks) (hmem : lines ∈ blocks) :
    lines.length = s.size + 1 := by
  obtain ⟨p, word, keys, _, hk, rfl⟩ := h.exists_of_mem hmem
  exact length_block (length_keys hk)

theorem AreBlocks.describes (h : s.AreBlocks words tags blocks) :
    s.Describes words tags blocks.flatten where
  length_eq := by rw [length_flatten fun _ => h.length_of_mem, h.length_eq]
  at_position := by
    intro p word hword
    obtain ⟨keys, hk, hget⟩ := h.at_position p word hword
    have hhead := getElem?_flatten (fun _ => h.length_of_mem) (Nat.succ_pos s.size) p
    rw [hget, Nat.add_zero] at hhead
    refine ⟨hhead, keys, hk, length_keys hk, fun i t key ht hkey => ?_⟩
    have hi : i + 1 < s.size + 1 := Nat.succ_lt_succ (List.getElem?_eq_some_iff.mp ht).1
    rw [getElem?_flatten (fun _ => h.length_of_mem) hi p, hget]
    exact getElem?_block_succ ht hkey

end

theorem featureLines_tagged (hs : s.Printable) (hl : tags.length = words.length) :
    ∃ lines, s.featureLines (.tagged words tags) = .ok lines ∧ s.Describes words tags lines := by
  obtain ⟨blocks, hlines, hblocks⟩ := featureLines_eq_flatten hs hl
  exact ⟨_, hlines, hblocks.describes⟩

theorem Listable.oneLine_block (hs : s.Listable) {p : Nat} {word : String} {keys : List String}
    (hw : Text.OneLine word) (hk : ∀ key ∈ keys, Text.OneLine key) :
    ∀ line ∈ s.block p word keys, Text.OneLine line := by
  refine List.forall_mem_cons.mpr ⟨?_, List.forall_mem_map.mpr ?_⟩
  · exact ((Text.OneLine.append (by decide) (Text.oneLine_nat p)).append (by decide)).append hw
  · rintro ⟨name, key⟩ hmem
    obtain ⟨hname, hkey⟩ := List.of_mem_zip hmem
    obtain ⟨t, ht, rfl⟩ := List.mem_map.mp hname
    have hprint := Template.oneLine_print (hs.registered t ht)
    exact ((Text.OneLine.append (by decide) hprint).append (by decide)).append (hk key hkey)

theorem Listable.oneLine_featureLines (hs : s.Listable) (hl : tags.length = words.length)
    (hw : ∀ word ∈ words, Text.OneLine word) (ht : ∀ tag ∈ tags, Text.OneLine tag)
    {lines : List String} (h : s.featureLines (.tagged words tags) = .ok lines) :
    ∀ line ∈ lines, Text.OneLine line := by
  obtain ⟨blocks, hlines, hblocks⟩ := featureLines_eq_flatten hs.printable hl
  cases h.symm.trans hlines
  intro line hmem
  obtain ⟨lines, hlines, hline⟩ := List.mem_flatten.mp hmem
  obtain ⟨p, word, keys, hword, hk, rfl⟩ := hblocks.exists_of_mem hlines
  exact hs.oneLine_block (hw word (List.mem_of_getElem? hword)) (hs.oneLine_keys hl hw ht hk)
    line hline

/-! ## The list of templates -/

/-- The list of templates, whatever number of digits are in it. -/
def templateLines (s : FeatureSet) : List String :=
  [line "#" "extractor" "left" "right" "flags"] ++
    (s.templates.zipIdx.map fun (t, i) =>
      line (toString i) t.print (toString t.leftContext) (toString t.rightContext) (flags t)) ++
    ["Tag context required: " ++ toString s.leftContext ++ " left, " ++
      toString s.rightContext ++ " right."]

theorem print?_natCast {n : Nat} (h : ¬ Numeral.Wide n) : Numeral.print? n = some (toString n) :=
  if_pos (Numeral.not_wide_iff.mp h)

theorem Printable.not_wide_context (hs : s.Printable) :
    ¬ Numeral.Wide s.leftContext ∧ ¬ Numeral.Wide s.rightContext := by
  -- The context of the set is that of one of its templates, or none at all.
  have hcontext : ∀ n : Nat, (0 < n → ∃ t ∈ s.templates, t.leftContext = n ∨ t.rightContext = n) →
      ¬ Numeral.Wide n := by
    intro n hn
    rcases Nat.eq_zero_or_pos n with rfl | hpos
    · exact Numeral.not_wide_zero
    · obtain ⟨t, ht, rfl | rfl⟩ := hn hpos
      · exact (hs t ht).not_wide_context.1
      · exact (hs t ht).not_wide_context.2
  constructor
  · refine hcontext _ fun hpos => ?_
    obtain ⟨t, ht, hl⟩ := exists_leftContext hpos
    exact ⟨t, ht, Or.inl hl⟩
  · refine hcontext _ fun hpos => ?_
    obtain ⟨t, ht, hr⟩ := exists_rightContext hpos
    exact ⟨t, ht, Or.inr hr⟩

theorem Printable.templateLines? (hs : s.Printable) : s.templateLines? = some s.templateLines := by
  have hlines : (s.templates.zipIdx.mapM fun (t, i) => templateLine? i t) =
      some (s.templates.zipIdx.map fun (t, i) =>
        line (toString i) t.print (toString t.leftContext) (toString t.rightContext) (flags t)) := by
    refine mapM_eq_some_map ?_
    rintro ⟨t, i⟩ hmem
    have ht := hs t (List.fst_mem_of_mem_zipIdx hmem)
    obtain ⟨hleft, hright⟩ := ht.not_wide_context
    simp only [templateLine?, ht.print?, print?_natCast hleft, print?_natCast hright]
    rfl
  obtain ⟨hleft, hright⟩ := hs.not_wide_context
  simp only [FeatureSet.templateLines?, hlines, print?_natCast hleft, print?_natCast hright]
  rfl

theorem length_templateLines (s : FeatureSet) : s.templateLines.length = s.size + 2 := by
  simp [templateLines, size]

theorem oneLine_flags (t : Template) : Text.OneLine (flags t) := by
  unfold flags
  cases t.isLocal <;> cases t.isDynamic <;> decide

theorem oneLine_line {index name left right flags : String} (hi : Text.OneLine index)
    (hn : Text.OneLine name) (hl : Text.OneLine left) (hr : Text.OneLine right)
    (hf : Text.OneLine flags) : Text.OneLine (line index name left right flags) := by
  have hspace : Text.OneLine " " := by decide
  have hspaces : Text.OneLine "  " := by decide
  have hcolumns := ((Text.oneLine_padLeft 3 hi).append hspaces).append (Text.oneLine_padRight 40 hn)
  exact ((((((hcolumns.append hspace).append (Text.oneLine_padLeft 4 hl)).append hspace).append
    (Text.oneLine_padLeft 5 hr)).append hspaces).append hf)

theorem Listable.oneLine_templateLines (hs : s.Listable) :
    ∀ line ∈ s.templateLines, Text.OneLine line := by
  simp only [templateLines, List.forall_mem_append, List.forall_mem_singleton]
  refine ⟨⟨oneLine_line (by decide) (by decide) (by decide) (by decide) (by decide), ?_⟩, ?_⟩
  · refine List.forall_mem_map.mpr ?_
    rintro ⟨t, i⟩ hmem
    have hprint := Template.oneLine_print (hs.registered t (List.fst_mem_of_mem_zipIdx hmem))
    exact oneLine_line (Text.oneLine_nat _) hprint (Text.oneLine_nat _) (Text.oneLine_nat _)
      (oneLine_flags _)
  · have hleft := Text.OneLine.append (s := "Tag context required: ") (by decide)
      (Text.oneLine_nat s.leftContext)
    exact ((hleft.append (by decide)).append (Text.oneLine_nat s.rightContext)).append (by decide)

end FeatureSet
end TaggerFeatures
