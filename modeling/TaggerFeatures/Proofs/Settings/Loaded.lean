import TaggerFeatures.Proofs.Architecture.Limit
import TaggerFeatures.Proofs.Architecture.TwoDictionaries
import TaggerFeatures.Proofs.CommandLine.Loading
import TaggerFeatures.Proofs.Count

/-!
Dictionaries as loaded and as given. A dictionary file is accepted just if it is an object of
objects of counts that stand for integers. Whether these integers are compiled or the counts
themselves makes no difference, and neither is ever refused.
-/
namespace TaggerFeatures

/-! ## Compiling -/

namespace Architecture

variable {source source' : RawDictionary}

theorem Keyword.templates_of_ofRaw (k : Keyword)
    (h : TagDictionary.ofRaw source = TagDictionary.ofRaw source') (text : String)
    (arguments : List Int) :
    k.templates text arguments source = k.templates text arguments source' := by
  by_cases hk : k = .participle
  · subst hk
    simp only [templates, h]
  · exact k.templates_congr hk text arguments source source'

theorem Token.templates_of_ofRaw (t : Token)
    (h : TagDictionary.ofRaw source = TagDictionary.ofRaw source') :
    t.templates source = t.templates source' := by
  simp only [templates, Keyword.templates_of_ofRaw _ h]

/-- Only the integers of a dictionary are compiled. -/
theorem compile_of_ofRaw (h : TagDictionary.ofRaw source = TagDictionary.ofRaw source')
    (arch : String) : compile arch source = compile arch source' :=
  compile_eq_of_templates fun _ _ t _ => t.templates_of_ofRaw h

end Architecture

namespace TagDictionary

variable {source : RawDictionary} {entries : List (String × List (String × Int))}

theorem ofRaw_toRaw_of_readEntries (h : readEntries source = .ok entries) :
    ofRaw (toRaw entries) = ofRaw source := by
  rw [ofRaw_toRaw, ofRaw, h]
  rfl

end TagDictionary

namespace Settings
open Architecture

/-! ## What is accepted -/

/-- The value is a count that stands for the integer. -/
inductive Counts : Json → Int → Prop
  | integer (n : Int) : Counts (.integer n) n
  | boolean (b : Bool) : Counts (.boolean b) b.toInt
  | real (negative : Bool) (m : Nat) (e : Int) :
      Counts (.real (.finite negative m e)) (Binary64.truncate negative m e)
  | text {s : String} {n : Int} : RawCount.Spells s.toList n → Counts (.text s) n

theorem toInt_rawCount_eq_ok_iff {value : Json} {n : Int} :
    (rawCount value).toInt = .ok n ↔ Counts value n := by
  constructor
  · intro h
    rcases value with _ | b | i | x | s | items | members
    case boolean =>
      cases b <;> (cases h; exact .boolean _)
    case integer =>
      cases h
      exact .integer _
    case real =>
      cases x with
      | nan | infinity _ => cases h
      | finite negative m e =>
          cases h
          exact .real negative m e
    case text => exact .text (RawCount.readNumeral_eq_ok_iff.mp h)
    all_goals cases h
  · rintro (_ | (_ | _) | _ | hs)
    · rfl
    · rfl
    · rfl
    · rfl
    · exact RawCount.readNumeral_eq_ok_iff.mpr hs

/-- The value is an object of counts, and these are its tags with the integers that they stand
for. -/
def GivesTags (value : Json) (counts : List (String × Int)) : Prop :=
  ∃ tags, value = .object tags ∧
    List.Forall₂ (fun given x => given.1 = x.1 ∧ Counts given.2 x.2) tags counts

/-- The value is an object of objects of counts, and the dictionary is made of these. -/
def Gives (value : Json) (loaded : LoadedDictionary) : Prop :=
  ∃ words, value = .object words ∧
    List.Forall₂ (fun given x => given.1 = x.1 ∧ GivesTags given.2 x.2) words loaded

variable {path word : String} {value : Json} {loaded : LoadedDictionary}

theorem map_name_eq_ok_iff {ε α : Type} {r : Except ε α} {name : String} {x : String × α} :
    r.map (name, ·) = .ok x ↔ name = x.1 ∧ r = .ok x.2 := by
  obtain ⟨name', value⟩ := x
  cases r <;> simp [Except.map]

theorem readCounts_eq_ok_iff {counts : List (String × Int)} :
    readCounts path word value = .ok counts ↔ GivesTags value counts := by
  cases value with
  | object tags =>
      rw [readCounts_object, mapError_eq_ok_iff, mapM_eq_ok_iff_forall₂]
      simp only [map_name_eq_ok_iff, toInt_rawCount_eq_ok_iff, GivesTags, Json.object.injEq,
        exists_eq_left']
  | _ => simp [readCounts, rawCounts?, GivesTags]

theorem readDictionary_eq_ok_iff : readDictionary path value = .ok loaded ↔ Gives value loaded := by
  cases value with
  | object words =>
      rw [readDictionary, mapM_eq_ok_iff_forall₂]
      simp only [map_name_eq_ok_iff, readCounts_eq_ok_iff, Gives, Json.object.injEq,
        exists_eq_left']
  | _ => simp [readDictionary, Gives]

theorem GivesTags.exists_raw {counts : List (String × Int)} (h : GivesTags value counts) :
    ∃ given, rawCounts? value = some given ∧ TagDictionary.readCounts given = .ok counts := by
  obtain ⟨tags, rfl, htags⟩ := h
  refine ⟨_, rfl, ?_⟩
  rw [TagDictionary.readCounts, mapM_eq_ok_iff_forall₂, List.forall₂_map_left_iff]
  simpa only [map_name_eq_ok_iff, toInt_rawCount_eq_ok_iff] using htags

theorem Gives.exists_raw (h : Gives value loaded) :
    ∃ source, rawDictionary? value = some source ∧
      TagDictionary.readEntries source = .ok loaded := by
  obtain ⟨words, rfl, hwords⟩ := h
  simp only [rawDictionary?]
  induction hwords with
  | nil => exact ⟨[], rfl, rfl⟩
  | @cons given x _ _ hx _ ih =>
      obtain ⟨word, value⟩ := given
      obtain ⟨rfl, htags⟩ := hx
      obtain ⟨counts, hcounts, hread⟩ := htags.exists_raw
      obtain ⟨source, hsource, hentries⟩ := ih
      refine ⟨(x.1, counts) :: source, ?_, ?_⟩
      · simp [hcounts, hsource]
      · rw [TagDictionary.readEntries, mapM_eq_ok_iff_forall₂] at hentries ⊢
        exact .cons (map_name_eq_ok_iff.mpr ⟨rfl, hread⟩) hentries

/-! ## Loading -/

/-- The settings name a dictionary file, and this value is in it. -/
def DictionaryIs (r : Reader) (files : FileSystem) (path : String) (value : Json) : Prop :=
  ∃ full bytes text, NamesDictionary r files path full ∧ files full = .file bytes ∧
    Text.Utf8.decode bytes = .ok text ∧ Json.read text = .ok value

theorem gives_of_load {r : Reader} {files : FileSystem} {settings : Settings}
    (hd : DictionaryIs r files path value) (h : (load r files path).outcome = .ok settings) :
    Gives value settings.dictionary := by
  obtain ⟨full, bytes, text, hnames, hfile, htext, hjson⟩ := hd
  have hbytes : dictionaryOfBytes full bytes = readDictionary full value :=
    dictionaryOfBytes_of_read htext hjson
  cases hread : readDictionary full value with
  | error e =>
      rw [hnames.load_eq_error (.file hfile (hbytes.trans hread))] at h
      cases h
  | ok loaded =>
      obtain ⟨hnull, draft, hdraft, hfull⟩ := hnames
      rw [load_of_ofFile hdraft,
        (CompletedWith.file hfull hnull hfile (hbytes.trans hread)).load] at h
      obtain ⟨separator, _, rfl⟩ := exists_of_map_ok h
      exact readDictionary_eq_ok_iff.mp hread

/-- A dictionary file is accepted just if it is an object of objects of counts, and then the
integers that the counts stand for are kept. Compiled with these, an architecture gives all that it
gives with the counts as they are in the file; it fails just as it would without a dictionary, and
never because of a count. -/
theorem loaded_compiles_as_given (value : Json) :
    (∀ path loaded, readDictionary path value = .ok loaded ↔ Gives value loaded) ∧
    (∀ r files path settings, DictionaryIs r files path value →
      (load r files path).outcome = .ok settings → Gives value settings.dictionary) ∧
    ∀ loaded, Gives value loaded → ∃ source, rawDictionary? value = some source ∧
      ∀ arch, compile arch (TagDictionary.toRaw loaded) = compile arch source ∧
        (∀ e, (compile arch (TagDictionary.toRaw loaded)).outcome = .error e ↔
          (compile arch []).outcome = .error e) ∧
        ∀ e, (compile arch (TagDictionary.toRaw loaded)).outcome ≠ .error (.count e) := by
  refine ⟨fun _ _ => readDictionary_eq_ok_iff, fun _ _ _ _ => gives_of_load, ?_⟩
  intro loaded h
  obtain ⟨source, hsource, hentries⟩ := h.exists_raw
  have hraw := TagDictionary.ofRaw_toRaw_of_readEntries hentries
  refine ⟨source, hsource, fun arch => ⟨compile_of_ofRaw hraw arch, ?_, ?_⟩⟩
  · have hempty : TagDictionary.ofRaw [] = .ok (TagDictionary.ofEntries []) := rfl
    exact (alike_compile arch (TagDictionary.ofRaw_toRaw loaded) hempty).2.eq_error_iff
  · exact outcome_ne_count (TagDictionary.allIntegers_toRaw loaded)

/-- A dictionary file with counts of every form. -/
def countForms : List UInt8 :=
  ("\x7b\"chosen\": \x7b\"VBN\": \" +1_0\\t\", \"VBD\": \"٤٢\", \"VB\": -2.75\x7d, " ++
    "\"of\": \x7b\"IN\": 7, \"TO\": true\x7d\x7d").toUTF8.toList

/-- The counts as they are in the file. -/
def countFormsGiven : RawDictionary := [
  ("chosen", [("VBN", .text " +1_0\t"), ("VBD", .text "٤٢"),
    ("VB", .real (.finite true 6192449487634432 (-51)))]),
  ("of", [("IN", .integer 7), ("TO", .boolean true)])]

/-- The integers that they stand for. -/
def countFormsLoaded : LoadedDictionary := [
  ("chosen", [("VBN", 10), ("VBD", 42), ("VB", -2)]), ("of", [("IN", 7), ("TO", 1)])]

def countFormsFiles : FileTree := .ofList [
  ("config.yaml", "paths:\n  dictionary: d.json\n".toUTF8.toList), ("d.json", countForms)]

theorem loaded_compiles_as_given_countForms :
    ∃ value settings, DictionaryIs Yaml.reader countFormsFiles.look "config.yaml" value ∧
      (load Yaml.reader countFormsFiles.look "config.yaml").outcome = .ok settings ∧
      Gives value settings.dictionary ∧ settings.dictionary = countFormsLoaded ∧
      rawDictionary? value = some countFormsGiven ∧
      compile "typo,vbn(2)" (TagDictionary.toRaw settings.dictionary) =
        compile "typo,vbn(2)" countFormsGiven ∧
      (compile "typo,vbn(2)" countFormsGiven).outcome =
        .ok [.participle 2 (TagDictionary.ofEntries countFormsLoaded)] := by
  have hnames : (Draft.ofFile Yaml.reader "config.yaml"
      (countFormsFiles.look "config.yaml")).toOption.bind
      (·.dictionaryPath? "config.yaml") = some "d.json" := by decide +kernel
  have hread : ((Text.Utf8.decode countForms).toOption.bind fun text =>
      (Json.read text).toOption.bind rawDictionary?) = some countFormsGiven := by decide +kernel
  have hload : (load Yaml.reader countFormsFiles.look "config.yaml").outcome.toOption.bind
      (fun settings => some settings.dictionary) = some countFormsLoaded := by decide +kernel
  obtain ⟨text, htext, hread⟩ := toOption_bind_eq_some_iff.mp hread
  obtain ⟨value, hvalue, hgiven⟩ := toOption_bind_eq_some_iff.mp hread
  obtain ⟨settings, hsettings, hloaded⟩ := toOption_bind_eq_some_iff.mp hload
  have hd : DictionaryIs Yaml.reader countFormsFiles.look "config.yaml" value :=
    ⟨"d.json", countForms, text, ⟨by decide, toOption_bind_eq_some_iff.mp hnames⟩,
      by decide +kernel, htext, hvalue⟩
  obtain ⟨-, hgives, hcompiles⟩ := loaded_compiles_as_given value
  have hg := hgives _ _ _ _ hd hsettings
  obtain ⟨source, hsource, hsame⟩ := hcompiles _ hg
  rw [hgiven] at hsource
  obtain rfl := Option.some.inj hsource
  exact ⟨value, settings, hd, hsettings, hg, Option.some.inj hloaded, hgiven, (hsame _).1,
    rfl⟩

end Settings
end TaggerFeatures
