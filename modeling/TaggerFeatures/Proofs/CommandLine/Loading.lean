import TaggerFeatures.CommandLine
import TaggerFeatures.Proofs.Settings.Dictionary
import TaggerFeatures.Proofs.Settings.Validation

/-!
The errors of loading settings that no report is made of: of files that cannot be opened, of a
reader that ends with an error of its own, of values and dictionaries that are nested too deep, and
of infinite counts. All others are reported.
-/
namespace TaggerFeatures.Settings
open CommandLine

/-! ## Causes -/

/-- The dictionary that a draft is completed with: that of the file it names, and an empty one where
it names none or that file is not there. -/
inductive CompletedWith (files : FileSystem) (path : String) (draft : Draft) :
    LoadedDictionary → Prop
  | unnamed : draft.dictionaryPath? path = none → CompletedWith files path draft []
  | null {full} : draft.dictionaryPath? path = some full → hasNull full = true →
      CompletedWith files path draft []
  | missing {full} : draft.dictionaryPath? path = some full → hasNull full = false →
      files full = .missing ∨ files full = .notDirectory → CompletedWith files path draft []
  | file {full bytes dictionary} : draft.dictionaryPath? path = some full →
      hasNull full = false → files full = .file bytes →
      dictionaryOfBytes full bytes = .ok dictionary → CompletedWith files path draft dictionary

/-- The errors of a dictionary that is there, but cannot be opened or read. -/
inductive DictionaryFails (files : FileSystem) (full : String) : Error → Prop
  | directory : files full = .directory → DictionaryFails files full (.isDirectory full)
  | nameTooLong : files full = .nameTooLong → DictionaryFails files full (.nameTooLong full)
  | file {bytes e} : files full = .file bytes → dictionaryOfBytes full bytes = .error e →
      DictionaryFails files full e

/-- The text of a settings file, as lines. -/
def HasText (files : FileSystem) (path : String) (text : List Char) : Prop :=
  hasNull path = false ∧ ∃ bytes decoded, files path = .file bytes ∧
    Text.Utf8.decodePortions bytes = .ok decoded ∧ Text.Utf8.unifyBreaks decoded = text

/-- The value of a settings file. -/
def HasValue (r : Reader) (files : FileSystem) (path : String) (value : r.Value) : Prop :=
  ∃ text, HasText files path text ∧ r.read text = .ok value

/-- A settings file that names a dictionary by a path that a file may have. -/
def NamesDictionary (r : Reader) (files : FileSystem) (path full : String) : Prop :=
  hasNull full = false ∧ ∃ draft, Draft.ofFile r path (files path) = .ok draft ∧
    draft.dictionaryPath? path = some full

/-- The errors of loading that are not reported, and when each of them is met. -/
inductive Unreported (r : Reader) (files : FileSystem) (path : String) : Error → Prop
  | directory : hasNull path = false → files path = .directory →
      Unreported r files path (.isDirectory path)
  | notDirectory : hasNull path = false → files path = .notDirectory →
      Unreported r files path (.notDirectory path)
  | nameTooLong : hasNull path = false → files path = .nameTooLong →
      Unreported r files path (.nameTooLong path)
  | reader {text kind message} : HasText files path text →
      r.read text = .error (.other kind message) →
      Unreported r files path (.unread (.other kind message) path)
  | paths {value pairs} : HasValue r files path value → Valid r value pairs →
      FirstUnwritten r pairs .tooDeep → Unreported r files path (.unwritten .tooDeep)
  | separator {value root given draft dictionary} : HasValue r files path value →
      RootIs r value root → r.member? "tag_separator" root = some given →
      r.written given = .error .tooDeep → Draft.ofFile r path (files path) = .ok draft →
      CompletedWith files path draft dictionary → Unreported r files path (.unwritten .tooDeep)
  | dictionaryDirectory {full} : NamesDictionary r files path full → files full = .directory →
      Unreported r files path (.isDirectory full)
  | dictionaryNameTooLong {full} : NamesDictionary r files path full →
      files full = .nameTooLong → Unreported r files path (.nameTooLong full)
  | nesting {full bytes text isObject} : NamesDictionary r files path full →
      files full = .file bytes → Text.Utf8.decode bytes = .ok text →
      Json.read text = .error (.tooDeep isObject) →
      Unreported r files path (.json (.tooDeep isObject) full)
  | infinity {full bytes text counts} : NamesDictionary r files path full →
      files full = .file bytes → Text.Utf8.decode bytes = .ok text →
      Json.read text = .ok counts → MeetsInfinity counts →
      Unreported r files path (.count .infinite)

variable {r : Reader} {files : FileSystem} {path full : String} {entry : Entry} {value : r.Value}
  {draft : Draft} {dictionary : LoadedDictionary} {e : Error}

/-! ## Dictionaries -/

theorem CompletedWith.load (h : CompletedWith files path draft dictionary) :
    (draft.load files path).outcome = draft.complete dictionary := by
  cases h with
  | unnamed hfull => simp only [Draft.load, hfull]
  | null hfull hnull => simp only [Draft.load, hfull, hnull, if_true]
  | missing hfull hnull hentry =>
      rcases hentry with hentry | hentry <;>
        simp only [Draft.load, hfull, hnull, hentry, Bool.false_eq_true, if_false]
  | file hfull hnull hentry hread =>
      simp only [Draft.load, hfull, hnull, hentry, hread, Except.bind, Bool.false_eq_true, if_false]

theorem DictionaryFails.load (h : DictionaryFails files full e)
    (hfull : draft.dictionaryPath? path = some full) (hnull : hasNull full = false) :
    (draft.load files path).outcome = .error e := by
  cases h with
  | directory hentry | nameTooLong hentry =>
      simp only [Draft.load, hfull, hnull, hentry, Bool.false_eq_true, if_false]
  | file hentry hread =>
      simp only [Draft.load, hfull, hnull, hentry, hread, Except.bind, Bool.false_eq_true, if_false]

/-- A draft is completed with a dictionary, or that fails. -/
theorem completedWith_or (files : FileSystem) (path : String) (draft : Draft) :
    (∃ dictionary, CompletedWith files path draft dictionary) ∨
      ∃ full e, draft.dictionaryPath? path = some full ∧ hasNull full = false ∧
        DictionaryFails files full e := by
  cases hfull : draft.dictionaryPath? path with
  | none => exact Or.inl ⟨[], .unnamed hfull⟩
  | some full =>
      cases hnull : hasNull full with
      | true => exact Or.inl ⟨[], .null hfull hnull⟩
      | false =>
          cases hentry : files full with
          | missing => exact Or.inl ⟨[], .missing hfull hnull (Or.inl hentry)⟩
          | notDirectory => exact Or.inl ⟨[], .missing hfull hnull (Or.inr hentry)⟩
          | directory => exact Or.inr ⟨full, _, rfl, hnull, .directory hentry⟩
          | nameTooLong => exact Or.inr ⟨full, _, rfl, hnull, .nameTooLong hentry⟩
          | file bytes =>
              cases hread : dictionaryOfBytes full bytes with
              | ok dictionary => exact Or.inl ⟨dictionary, .file hfull hnull hentry hread⟩
              | error e => exact Or.inr ⟨full, e, rfl, hnull, .file hentry hread⟩

/-! ## The settings file -/

theorem valueOfFile_of_not_hasNull (h : hasNull path = false) :
    valueOfFile r path entry = (readFile path entry).bind fun bytes =>
      ((Text.Utf8.decodePortions bytes).mapError .notText).bind fun text =>
        (r.read (Text.Utf8.unifyBreaks text)).mapError (.unread · path) := by
  rw [valueOfFile, if_neg (by simp [h])]
  rfl

theorem readFile_eq_ok_iff {bytes : List UInt8} :
    readFile path entry = .ok bytes ↔ entry = .file bytes := by
  cases entry <;> simp [readFile]

theorem valueOfFile_of_hasText {text : List Char} (h : HasText files path text) :
    valueOfFile r path (files path) = (r.read text).mapError (.unread · path) := by
  obtain ⟨hnull, bytes, decoded, hbytes, hdecoded, rfl⟩ := h
  rw [valueOfFile_of_not_hasNull hnull, hbytes, readFile]
  simp only [Except.bind, hdecoded, Except.mapError]

/-- A file whose text is not to be had gives an error, whatever the reader is. -/
theorem hasText_or (files : FileSystem) (path : String) :
    (∃ text, HasText files path text) ∨
      (hasNull path = true ∧ ∀ r, valueOfFile r path (files path) = .error .nullByte) ∨
      (hasNull path = false ∧ ∃ e, (readFile path (files path) = .error e ∨
        ∃ error, e = .notText error) ∧ ∀ r, valueOfFile r path (files path) = .error e) := by
  cases hnull : hasNull path with
  | true => exact Or.inr (Or.inl ⟨rfl, fun r => by rw [valueOfFile, if_pos hnull]; rfl⟩)
  | false =>
      cases hread : readFile path (files path) with
      | error e =>
          refine Or.inr (Or.inr ⟨rfl, e, Or.inl rfl, fun r => ?_⟩)
          rw [valueOfFile_of_not_hasNull hnull, hread, Except.bind]
      | ok bytes =>
          cases hdecode : Text.Utf8.decodePortions bytes with
          | error error =>
              refine Or.inr (Or.inr ⟨rfl, .notText error, Or.inr ⟨error, rfl⟩, fun r => ?_⟩)
              rw [valueOfFile_of_not_hasNull hnull, hread, Except.bind, hdecode]
              rfl
          | ok decoded =>
              exact Or.inl ⟨_, hnull, bytes, decoded, readFile_eq_ok_iff.mp hread, hdecode, rfl⟩

theorem hasValue_iff : HasValue r files path value ↔
    valueOfFile r path (files path) = .ok value := by
  constructor
  · rintro ⟨text, htext, hread⟩
    rw [valueOfFile_of_hasText htext, hread, Except.mapError]
  · intro h
    rcases hasText_or files path with ⟨text, htext⟩ | ⟨-, herror⟩ | ⟨-, e, -, herror⟩
    · rw [valueOfFile_of_hasText htext, mapError_eq_ok_iff] at h
      exact ⟨text, htext, h⟩
    · rw [herror r] at h
      cases h
    · rw [herror r] at h
      cases h

/-- A settings file whose error is not reported cannot be opened, or the reader ends with an error
of its own. -/
theorem unreported_of_valueOfFile (h : valueOfFile r path (files path) = .error e)
    (hr : (Failure.settings e).isReported = false) : Unreported r files path e := by
  rcases hasText_or files path with
    ⟨text, htext⟩ | ⟨-, herror⟩ | ⟨hnull, e', hread | ⟨error, rfl⟩, herror⟩
  · rw [valueOfFile_of_hasText htext] at h
    obtain ⟨refusal, hrefusal, rfl⟩ := mapError_eq_error_iff.mp h
    cases refusal with
    | other kind message => exact .reader htext hrefusal
    | malformed | ofValue _ | ofType _ | ofIndex _ => cases hr
  · cases (herror r).symm.trans h
    cases hr
  · cases (herror r).symm.trans h
    cases hentry : files path with
    | file bytes => rw [hentry] at hread; cases hread
    | missing => rw [hentry] at hread; cases hread; cases hr
    | directory => rw [hentry] at hread; cases hread; exact .directory hnull hentry
    | notDirectory => rw [hentry] at hread; cases hread; exact .notDirectory hnull hentry
    | nameTooLong => rw [hentry] at hread; cases hread; exact .nameTooLong hnull hentry
  · cases (herror r).symm.trans h
    cases hr

/-- What is wrong with the values of a settings file is reported, unless paths are nested too
deep. -/
theorem unreported_of_ofValue (hv : HasValue r files path value)
    (h : Draft.ofValue r path value = .error e) (hr : (Failure.settings e).isReported = false) :
    Unreported r files path e := by
  rcases valid_or path value with ⟨pairs, hvalid⟩ | hvacant | ⟨e', hrefused⟩
  · obtain ⟨cause, rfl, hcause⟩ := hvalid.ofValue_eq_error_iff.mp h
    cases cause with
    | tooLong => cases hr
    | tooDeep => exact .paths hv hvalid hcause
  · obtain ⟨draft, hdraft, -⟩ := hvacant.ofValue path
    rw [hdraft] at h
    cases h
  · rw [hrefused.ofValue] at h
    cases h
    cases hrefused <;> cases hr

theorem exists_of_ofValue (h : Draft.ofValue r path value = .ok draft) :
    ∃ root, RootIs r value root ∧
      draft.separator = readSeparator r (r.member? "tag_separator" root) := by
  obtain ⟨root, hroot, h⟩ := bind_eq_ok_iff.mp h
  obtain ⟨arch, -, h⟩ := bind_eq_ok_iff.mp h
  obtain ⟨pairs, -, h⟩ := bind_eq_ok_iff.mp h
  obtain ⟨paths, -, h⟩ := bind_eq_ok_iff.mp h
  cases h
  rcases rootIs_or value with ⟨root', hroot'⟩ | ⟨hnull, hmapping⟩
  · cases (hroot'.rootPairs path).symm.trans hroot
    exact ⟨root, hroot', rfl⟩
  · rw [rootPairs_of_no_mapping hnull hmapping] at hroot
    cases hroot

/-! ## Dictionary files -/

theorem eq_infinite_of_readCounts {word : String} {counts : Json}
    (h : readCounts path word counts = .error e) (hr : (Failure.settings e).isReported = false) :
    e = .count .infinite := by
  unfold readCounts at h
  split at h
  · obtain ⟨error, _, rfl⟩ := mapError_eq_error_iff.mp h
    cases error with
    | infinite => rfl
    | notANumber | notANumeral _ | tooLong _ | wrongKind _ => cases hr
  · cases h
    cases hr

theorem eq_infinite_of_readDictionary {words : Json} (h : readDictionary path words = .error e)
    (hr : (Failure.settings e).isReported = false) : e = .count .infinite := by
  unfold readDictionary at h
  split at h
  · obtain ⟨entry, _, hentry⟩ := exists_of_mapM_error h
    exact eq_infinite_of_readCounts (map_eq_error_iff.mp hentry) hr
  · cases h
    cases hr

theorem dictionaryOfBytes_eq (full : String) (bytes : List UInt8) :
    dictionaryOfBytes full bytes = ((Text.Utf8.decode bytes).mapError .notText).bind fun text =>
      ((Json.read text).mapError (.json · full)).bind (readDictionary full) := rfl

theorem dictionaryOfBytes_of_decode {bytes : List UInt8} {text : List Char}
    (ht : Text.Utf8.decode bytes = .ok text) : dictionaryOfBytes full bytes =
      ((Json.read text).mapError (.json · full)).bind (readDictionary full) := by
  rw [dictionaryOfBytes_eq, ht, Except.mapError, Except.bind]

theorem dictionaryOfBytes_of_read {bytes : List UInt8} {text : List Char} {counts : Json}
    (ht : Text.Utf8.decode bytes = .ok text) (hj : Json.read text = .ok counts) :
    dictionaryOfBytes full bytes = readDictionary full counts := by
  rw [dictionaryOfBytes_of_decode ht, hj, Except.mapError, Except.bind]

/-- The only errors of a dictionary file that are not reported are those of its nesting and of an
infinite count. -/
theorem unreported_of_dictionaryOfBytes {bytes : List UInt8}
    (hn : NamesDictionary r files path full) (hf : files full = .file bytes)
    (h : dictionaryOfBytes full bytes = .error e) (hr : (Failure.settings e).isReported = false) :
    Unreported r files path e := by
  rw [dictionaryOfBytes_eq] at h
  rcases bind_eq_error_iff.mp h with hdecode | ⟨text, hdecode, h⟩
  · obtain ⟨error, _, rfl⟩ := mapError_eq_error_iff.mp hdecode
    cases hr
  rw [mapError_eq_ok_iff] at hdecode
  rcases bind_eq_error_iff.mp h with hjson | ⟨counts, hjson, h⟩
  · obtain ⟨error, herror, rfl⟩ := mapError_eq_error_iff.mp hjson
    cases error with
    | tooDeep isObject => exact .nesting hn hf hdecode herror
    | malformed | tooLong _ => cases hr
  · obtain rfl := eq_infinite_of_readDictionary h hr
    exact .infinity hn hf hdecode (mapError_eq_ok_iff.mp hjson)
      (readDictionary_eq_infinite_iff.mp h)

/-! ## Loading -/

theorem load_of_ofFile (h : Draft.ofFile r path (files path) = .ok draft) :
    load r files path = draft.load files path := by
  rw [load, h]

theorem load_of_ofFile_error (h : Draft.ofFile r path (files path) = .error e) :
    (load r files path).outcome = .error e := by
  rw [load, h]

theorem load_of_valueOfFile (h : valueOfFile r path (files path) = .error e) :
    (load r files path).outcome = .error e :=
  load_of_ofFile_error (bind_eq_error_iff.mpr (Or.inl h))

theorem complete_eq_error_iff :
    draft.complete dictionary = .error e ↔ draft.separator = .error e := map_eq_error_iff

theorem unreported_of_load (hd : Draft.ofFile r path (files path) = .ok draft)
    (h : (draft.load files path).outcome = .error e)
    (hr : (Failure.settings e).isReported = false) : Unreported r files path e := by
  rcases completedWith_or files path draft with
    ⟨dictionary, hdictionary⟩ | ⟨full, e', hfull, hnull, hfails⟩
  · obtain ⟨value, hvalue, hdraft⟩ := bind_eq_ok_iff.mp hd
    obtain ⟨root, hroot, hseparator⟩ := exists_of_ofValue hdraft
    rw [hdictionary.load, complete_eq_error_iff, hseparator, readSeparator_eq_error_iff] at h
    obtain ⟨given, cause, hgiven, hcause, rfl⟩ := h
    cases cause with
    | tooLong => cases hr
    | tooDeep =>
        exact .separator (hasValue_iff.mpr hvalue) hroot hgiven hcause hd hdictionary
  · cases (hfails.load hfull hnull).symm.trans h
    have hn : NamesDictionary r files path full := ⟨hnull, draft, hd, hfull⟩
    cases hfails with
    | directory hentry => exact .dictionaryDirectory hn hentry
    | nameTooLong hentry => exact .dictionaryNameTooLong hn hentry
    | file hentry hread => exact unreported_of_dictionaryOfBytes hn hentry hread hr

theorem NamesDictionary.load_eq_error (hn : NamesDictionary r files path full)
    (h : DictionaryFails files full e) : (load r files path).outcome = .error e := by
  obtain ⟨hnull, draft, hd, hfull⟩ := hn
  rw [load_of_ofFile hd]
  exact h.load hfull hnull

theorem Unreported.load_eq_error (h : Unreported r files path e) :
    (load r files path).outcome = .error e := by
  cases h with
  | directory hnull hentry | notDirectory hnull hentry | nameTooLong hnull hentry =>
      apply load_of_valueOfFile
      rw [valueOfFile_of_not_hasNull hnull, hentry]
      rfl
  | reader htext hrefusal =>
      apply load_of_valueOfFile
      rw [valueOfFile_of_hasText htext, hrefusal]
      rfl
  | paths hv hvalid hcause =>
      apply load_of_ofFile_error
      rw [ofFile_of_value (hasValue_iff.mp hv)]
      exact hvalid.ofValue_eq_error_iff.mpr ⟨.tooDeep, rfl, hcause⟩
  | separator hv hroot hgiven hcause hd hdictionary =>
      obtain ⟨root, hroot', hseparator⟩ :=
        exists_of_ofValue ((ofFile_of_value (hasValue_iff.mp hv)).symm.trans hd)
      obtain rfl := hroot.unique hroot'
      rw [load_of_ofFile hd, hdictionary.load, complete_eq_error_iff, hseparator]
      exact readSeparator_eq_error_iff.mpr ⟨_, _, hgiven, hcause, rfl⟩
  | dictionaryDirectory hn hentry => exact hn.load_eq_error (.directory hentry)
  | dictionaryNameTooLong hn hentry => exact hn.load_eq_error (.nameTooLong hentry)
  | nesting hn hentry htext hjson =>
      refine hn.load_eq_error (.file hentry ?_)
      rw [dictionaryOfBytes_of_decode htext, hjson]
      rfl
  | infinity hn hentry htext hjson hmeets =>
      refine hn.load_eq_error (.file hentry ?_)
      rw [dictionaryOfBytes_of_read htext hjson]
      exact readDictionary_eq_infinite_iff.mpr hmeets

theorem Unreported.isReported (h : Unreported r files path e) :
    (Failure.settings e).isReported = false := by
  cases h <;> rfl

/-- Loading ends with an error that is not reported just if one of the causes is there. -/
theorem load_unreported_iff :
    ((load r files path).outcome = .error e ∧ (Failure.settings e).isReported = false) ↔
      Unreported r files path e := by
  constructor
  · rintro ⟨h, hr⟩
    cases hd : Draft.ofFile r path (files path) with
    | error e' =>
        cases (load_of_ofFile_error hd).symm.trans h
        rcases bind_eq_error_iff.mp hd with hvalue | ⟨value, hvalue, hdraft⟩
        · exact unreported_of_valueOfFile hvalue hr
        · exact unreported_of_ofValue (hasValue_iff.mpr hvalue) hdraft hr
    | ok draft =>
        rw [load_of_ofFile hd] at h
        exact unreported_of_load hd h hr
  · exact fun h => ⟨h.load_eq_error, h.isReported⟩

end TaggerFeatures.Settings
