import TaggerFeatures.Proofs.Architecture.Denotation
import TaggerFeatures.Proofs.Template.Window

/-!
Orders as ladders of tag n-grams. For each offset but the cursor's an order has one template, which
joins the tags from that offset toward the cursor. Next to the cursor it is a single tag, and cannot
be told from the window there.
-/
namespace TaggerFeatures

namespace Template

/-! ## Tags toward the cursor -/

/-- The offsets from a first one toward the cursor, one after the other, and without the cursor. -/
inductive LeadsIn : Int → List Int → Prop
  | cursor : LeadsIn 0 []
  | left {o : Int} {rest : List Int} : o < 0 → LeadsIn (o + 1) rest → LeadsIn o (o :: rest)
  | right {o : Int} {rest : List Int} : 0 < o → LeadsIn (o - 1) rest → LeadsIn o (o :: rest)

/-- What comes of reading the tags at some offsets in order: all of them joined, or the first that
is missing. -/
inductive JoinsTags (c : Corpus) (h : Cursor) (offsets : List Int) :
    Except Corpus.Error String → Prop
  | tags {tags} : List.Forall₂ (fun o tag => c.tagAt h o = .ok tag) offsets tags →
      JoinsTags c h offsets (.ok (Text.joinWith "!" tags))
  | missing {before o after result} : offsets = before ++ o :: after →
      (∀ o' ∈ before, ¬ c.Missing h.sentence (h.position + o')) →
      c.MissesAt h o result → JoinsTags c h offsets result
  | unknown {e} : ¬ c.Knows h.sentence →
      Corpus.Told [h.sentence] (.unknownSentence h.sentence) e → JoinsTags c h offsets (.error e)

/-- Templates that have the same keys and errors everywhere, and declare the same. -/
structure Indistinguishable (t t' : Template) : Prop where
  key : ∀ c h, t.key c h = t'.key c h
  leftContext : t.leftContext = t'.leftContext
  rightContext : t.rightContext = t'.rightContext
  isDynamic : t.isDynamic = t'.isDynamic
  isLocal : t.isLocal = t'.isLocal

variable {c : Corpus} {h : Cursor}

theorem leadsIn_left (n : Nat) : LeadsIn (-n) (Offsets.run 1 n (-n)) := by
  induction n with
  | zero => exact .cursor
  | succ n ih =>
      have hnext : -((n + 1 : Nat) : Int) + 1 = -n := by omega
      rw [Offsets.run]
      exact .left (by omega) (by rwa [hnext])

theorem leadsIn_right (n : Nat) : LeadsIn n (Offsets.run (-1) n n) := by
  induction n with
  | zero => exact .cursor
  | succ n ih =>
      have hnext : ((n + 1 : Nat) : Int) + -1 = n := by omega
      rw [Offsets.run]
      exact .right (by omega) (by rwa [Int.sub_eq_add_neg, hnext])

theorem leadsIn_windowOffsets (k : Int) : LeadsIn k (windowOffsets k) := by
  unfold windowOffsets windowStep
  split
  · have hk : k = -(k.natAbs : Int) := by omega
    have hrun := leadsIn_left k.natAbs
    rwa [← hk] at hrun
  · have hk : k = k.natAbs := by omega
    have hrun := leadsIn_right k.natAbs
    rwa [← hk] at hrun

theorem joinsTags_mapM (hc : c.Aligned) {offsets : List Int} (hne : offsets ≠ []) :
    JoinsTags c h offsets ((offsets.mapM (c.tagAt h)).map (Text.joinWith separator)) := by
  by_cases hs : c.Knows h.sentence
  · cases hm : offsets.mapM (c.tagAt h) with
    | ok tags => exact .tags (forall₂_of_mapM_ok hm)
    | error e =>
        obtain ⟨before, o, after, hoffsets, hbefore, ho⟩ := mapM_eq_error_iff.mp hm
        refine .missing hoffsets ?_ (Corpus.missesAt_of_tagAt hc hs ho)
        intro o' ho' hm'
        obtain ⟨tag, htag⟩ := hbefore o' ho'
        rw [Corpus.tagAt_of_missing hc hs hm'] at htag
        cases htag
  · obtain ⟨o, rest, rfl⟩ := List.exists_cons_of_ne_nil hne
    rw [mapM_cons_of_error (Corpus.tagAt_of_not_knows hs h.position o)]
    exact .unknown hs (Corpus.told_unknownSentence_iff.mpr rfl)

theorem key_tagWindow (k : Int) (c : Corpus) (h : Cursor) :
    (tagWindow k).key c h =
      ((windowOffsets k).mapM (c.tagAt h)).map (Text.joinWith separator) := by
  simp only [key, windowOffsets, Offsets.readRun_eq_mapM]
  cases (Offsets.run (windowStep k) k.natAbs k).mapM (c.tagAt h) <;> rfl

/-- Next to the cursor a window has one offset only. -/
theorem tag_indistinguishable {k : Int} (hk : k = -1 ∨ k = 1) :
    Indistinguishable (tag k) (tagWindow k) where
  key := by
    intro c h
    have hoffsets : windowOffsets k = [k] := by rcases hk with rfl | rfl <;> rfl
    rw [key_tagWindow, hoffsets, key]
    cases ht : c.tagAt h k with
    | ok tag => rw [mapM_cons_of_ok ht]; rfl
    | error e => rw [mapM_cons_of_error ht]; rfl
  leftContext := rfl
  rightContext := rfl
  isDynamic := rfl
  isLocal := rfl

end Template

/-! ## Ladders -/

namespace Architecture.Keyword
open Template

/-- The template of an order for an offset: its key is made of the tags from there toward the
cursor, and it declares to read just so far. At the offsets next to the cursor it is a single tag,
but it does what the tag window does. -/
structure Rung (k : Int) (t : Template) : Prop where
  key : ∃ offsets, LeadsIn k offsets ∧
    ∀ c h, c.Reachable → JoinsTags c h offsets (t.key c h)
  leftContext : (t.leftContext : Int) = max 0 (-k)
  rightContext : (t.rightContext : Int) = max 0 k
  dynamic : t.isDynamic = true
  not_local : t.isLocal = false
  single : k = -1 ∨ k = 1 → t = .tag k
  agrees : Indistinguishable t (.tagWindow k)

theorem reach_indistinguishable (k : Int) : Indistinguishable (reach k) (.tagWindow k) := by
  unfold reach
  split
  · rename_i hk
    exact tag_indistinguishable hk
  · exact ⟨fun _ _ => rfl, rfl, rfl, rfl, rfl⟩

theorem rung_reach {k : Int} (hk : k ≠ 0) : Rung k (reach k) where
  key := by
    have hfirst : k ∈ windowOffsets k := mem_windowOffsets_iff.mpr (by omega)
    refine ⟨_, leadsIn_windowOffsets k, fun c h hc => ?_⟩
    rw [(reach_indistinguishable k).key, key_tagWindow]
    exact joinsTags_mapM hc.aligned (List.ne_nil_of_mem hfirst)
  leftContext := by
    rw [(reach_indistinguishable k).leftContext, Template.leftContext, leftOf]
    omega
  rightContext := by
    rw [(reach_indistinguishable k).rightContext, Template.rightContext, rightOf]
    omega
  dynamic := (reach_indistinguishable k).isDynamic
  not_local := (reach_indistinguishable k).isLocal
  single := fun hk1 => if_pos hk1
  agrees := reach_indistinguishable k

section
variable {l r : Int} {offsets : List Int}
  (ho : Offsets.Lists (fun k => (-(l.natAbs : Int) ≤ k ∧ k ≤ r) ∧ k ≠ 0) offsets)
include ho

theorem rung_of_mem {k : Int} (hk : k ∈ offsets) : Rung k (reach k) :=
  rung_reach ((ho.mem_iff k).mp hk).2

/-- A ladder needs as many tags as its ends are away from the cursor. -/
theorem leftContext_map_reach (hr : 0 ≤ r) :
    (FeatureSet.mk (offsets.map reach)).leftContext = l.natAbs := by
  refine FeatureSet.foldl_max_eq (fun n hn => ?_) fun hl => ?_
  · rw [List.map_map] at hn
    obtain ⟨k, hk, rfl⟩ := List.mem_map.mp hn
    have hbounds := (ho.mem_iff k).mp hk
    have hdeclared := (rung_of_mem ho hk).leftContext
    rw [Function.comp_apply]
    omega
  · have hk : -(l.natAbs : Int) ∈ offsets := (ho.mem_iff _).mpr (by omega)
    have hdeclared := (rung_of_mem ho hk).leftContext
    rw [List.map_map]
    exact List.mem_map.mpr ⟨_, hk, by rw [Function.comp_apply]; omega⟩

theorem rightContext_map_reach :
    (FeatureSet.mk (offsets.map reach)).rightContext = r.toNat := by
  refine FeatureSet.foldl_max_eq (fun n hn => ?_) fun hr => ?_
  · rw [List.map_map] at hn
    obtain ⟨k, hk, rfl⟩ := List.mem_map.mp hn
    have hbounds := (ho.mem_iff k).mp hk
    have hdeclared := (rung_of_mem ho hk).rightContext
    rw [Function.comp_apply]
    omega
  · have hk : r ∈ offsets := (ho.mem_iff _).mpr (by omega)
    have hdeclared := (rung_of_mem ho hk).rightContext
    rw [List.map_map]
    exact List.mem_map.mpr ⟨_, hk, by rw [Function.comp_apply]; omega⟩

end

/-- An order has one rung for each offset but the cursor's, from as far on the left as its first
argument says, whatever its sign, to its second. Together they need the tags of this stretch. -/
theorem order_is_ladder (text : String) (source : RawDictionary) {l r : Int} (hr : 0 ≤ r) :
    ∃ offsets frames, Offsets.Lists (fun k => (-(l.natAbs : Int) ≤ k ∧ k ≤ r) ∧ k ≠ 0) offsets ∧
      order.templates text [l, r] source = .ok frames ∧
      List.Forall₂ Rung offsets frames ∧
      ((FeatureSet.mk frames).leftContext = l.natAbs ∧
        (FeatureSet.mk frames).rightContext = r.toNat) ∧
      (∀ (c : Corpus) (h : Cursor), c.Reachable → c.Knows h.sentence →
        ExactWindow l.natAbs r.toNat c h ((FeatureSet.mk frames).keys c h)) ∧
      (Numeral.Readable l → Numeral.Readable r →
        (compile (order.call [l, r]) source).outcome = .ok frames) := by
  have hlists : Offsets.Lists (fun k => (-(l.natAbs : Int) ≤ k ∧ k ≤ r) ∧ k ≠ 0)
      ((Offsets.upTo (-(l.natAbs : Int)) r).filter (· ≠ 0)) := (Offsets.lists_upTo _ _).filter
  generalize (Offsets.upTo (-(l.natAbs : Int)) r).filter (· ≠ 0) = offsets at hlists
  have htemplates : ∀ text, order.templates text [l, r] source = .ok (offsets.map reach) :=
    fun text => templates_of_denotes (.order hr hlists)
  have hleft := leftContext_map_reach hlists hr
  have hright := rightContext_map_reach hlists
  refine ⟨offsets, offsets.map reach, hlists, htemplates text, ?_, ⟨hleft, hright⟩, ?_, ?_⟩
  · rw [List.forall₂_map_right_iff, List.forall₂_same]
    exact fun k hk => rung_of_mem hlists hk
  · intro c h hc hs
    rw [← hleft, ← hright]
    exact FeatureSet.exactWindow _ hc.aligned hs
  · intro hl hr'
    have hreadable : ∀ n ∈ [l, r], Numeral.Readable n := by
      simpa using ⟨hl, hr'⟩
    rw [compile_numbers order hreadable, htemplates]

/-- The first argument counts to the left, also without a minus sign. The last word has no tag. -/
theorem order_is_ladder_partlyTagged :
    (0 : Int) ≤ 1 ∧ Corpus.partlyTagged.Reachable ∧ Corpus.partlyTagged.Knows 0 ∧
      (compile "order(2,1)" []).outcome = .ok [.tagWindow (-2), .tag (-1), .tag 1] ∧
      (FeatureSet.mk [.tagWindow (-2), .tag (-1), .tag 1]).leftContext = 2 ∧
      (∃ ks, (FeatureSet.mk [.tagWindow (-2), .tag (-1), .tag 1]).keys
        Corpus.partlyTagged ⟨0, 1⟩ = .ok ks) ∧
      ∃ o, (FeatureSet.mk [.tagWindow (-2), .tag (-1), .tag 1]).keys
        Corpus.partlyTagged ⟨0, 2⟩ = .error (.unassigned ⟨0, 2⟩ o) := by
  have hr : (0 : Int) ≤ 1 := by decide
  have hreach : Corpus.partlyTagged.Reachable := ⟨_, rfl⟩
  have hs : Corpus.partlyTagged.Knows 0 := by decide
  have htext : order.call [2, 1] = "order(2,1)" := by decide +kernel
  obtain ⟨offsets, frames, -, hframes, -, hcontexts, hwindow, hcompiled⟩ :=
    order_is_ladder "order(2,1)" [] (l := 2) hr
  obtain rfl : [.tagWindow (-2), .tag (-1), .tag 1] = frames := Except.ok.inj hframes
  rw [htext] at hcompiled
  refine ⟨hr, hreach, hs, hcompiled (by decide) (by decide), hcontexts.1, ?_, ?_⟩
  · refine (hwindow _ ⟨0, 1⟩ hreach hs).enough ?_
    rintro i hfirst (hlast : i ≤ 2) ⟨_, _, hi, _⟩
    have hcases : i = 0 ∨ i = 1 ∨ i = 2 := by omega
    rcases hcases with rfl | rfl | rfl
    · exact ⟨"NN", rfl⟩
    · exact ⟨"VBZ", rfl⟩
    · exact ⟨"IN", rfl⟩
  · have hm : Corpus.partlyTagged.Missing 0 3 := (Corpus.missing_iff hreach.aligned hs).mpr rfl
    obtain ⟨o, hbounds, hmisses⟩ := (hwindow _ ⟨0, 2⟩ hreach hs).right_needed (by decide) hm
    exact ⟨o, hmisses.eq_unassigned (by omega) (by decide) (by decide)⟩

end Architecture.Keyword
end TaggerFeatures
