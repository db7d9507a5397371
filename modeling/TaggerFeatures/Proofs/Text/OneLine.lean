import TaggerFeatures.Proofs.Numeral
import TaggerFeatures.Proofs.Text.Cut

/-! Texts on one line: they have no blank but the space, and so no line break of any kind. -/
namespace TaggerFeatures.Text

def OneLine (s : String) : Prop := ∀ c ∈ s.toList, isBlank c = true → c = ' '

theorem all_iff_oneLine {s : String} :
    (s.toList.all fun c => !isBlank c || c == ' ') = true ↔ OneLine s := by
  simp only [OneLine, List.all_eq_true, Bool.or_eq_true, Bool.not_eq_true', beq_iff_eq,
    ← Bool.not_eq_true, imp_iff_not_or]

instance (s : String) : Decidable (OneLine s) := decidable_of_iff _ all_iff_oneLine

variable {s t : String}

theorem OneLine.not_mem (h : OneLine s) {c : Char} (hb : isBlank c = true) (hc : c ≠ ' ') :
    c ∉ s.toList :=
  fun hmem => hc (h c hmem hb)

theorem oneLine_of_not_blank (h : ∀ c ∈ s.toList, isBlank c = false) : OneLine s := by
  intro c hc hb
  rw [h c hc] at hb
  cases hb

theorem OneLine.append (hs : OneLine s) (ht : OneLine t) : OneLine (s ++ t) := by
  rw [OneLine, String.toList_append, List.forall_mem_append]
  exact ⟨hs, ht⟩

theorem oneLine_joinWith {separator : String} (hs : OneLine separator) {parts : List String}
    (hp : ∀ p ∈ parts, OneLine p) : OneLine (joinWith separator parts) := by
  intro c hc hb
  rw [toList_joinWith] at hc
  rcases mem_join hc with hsep | ⟨p, hmem, hcp⟩
  · exact hs c hsep hb
  · obtain ⟨part, hpart, rfl⟩ := List.mem_map.mp hmem
    exact hp part hpart c hcp hb

theorem oneLine_spaces (n : Nat) : OneLine (String.ofList (List.replicate n ' ')) := by
  intro c hc _
  rw [String.toList_ofList] at hc
  exact List.eq_of_mem_replicate hc

theorem oneLine_padLeft (width : Nat) (hs : OneLine s) : OneLine (padLeft width s) :=
  (oneLine_spaces _).append hs

theorem oneLine_padRight (width : Nat) (hs : OneLine s) : OneLine (padRight width s) :=
  hs.append (oneLine_spaces _)

theorem oneLine_int (n : Int) : OneLine (toString n) :=
  oneLine_of_not_blank fun _ hc => Numeral.isBlank_of_mem_toString hc

theorem oneLine_nat (n : Nat) : OneLine (toString n) := oneLine_int n

end TaggerFeatures.Text
