import TaggerFeatures.Settings
import TaggerFeatures.Proofs.Traversal
import TaggerFeatures.Yaml.Reader

/-!
What a settings file has to hold: a mapping or nothing at all, with an architecture that is text and
paths that are a mapping, as far as they are given. Any other value is refused for its kind, before
a dictionary is looked for. Only paths that count as nothing slip through, and then there are none.
All this holds whatever the reader is that tells the value of the file.
-/
namespace TaggerFeatures.Settings

variable (r : Reader)

/-! ## Kinds of values -/

/-- The root is null or a mapping, with these pairs. -/
inductive RootIs (root : r.Value) : List (r.Value × r.Value) → Prop
  | null : r.view root = .null → RootIs root []
  | mapping {pairs} : r.view root = .mapping pairs → RootIs root pairs

/-- The architecture is absent or a text. -/
inductive ArchIs : Option r.Value → Prop
  | absent : ArchIs none
  | text {value s} : r.view value = .text s → ArchIs (some value)

/-- The paths are absent, null or a mapping, with these pairs. -/
inductive PathsAre : Option r.Value → List (r.Value × r.Value) → Prop
  | absent : PathsAre none []
  | null {value} : r.view value = .null → PathsAre (some value) []
  | mapping {value pairs} : r.view value = .mapping pairs → PathsAre (some value) pairs

/-- The values that count as nothing, though they are neither null nor a mapping: the empty text,
and what the reader counts as nothing of the other kinds. -/
inductive Vacant (value : r.Value) : Prop
  | text : r.view value = .text "" → Vacant value
  | other {kind} : r.view value = .other kind true → Vacant value

/-- The values are of the kinds that they have to be, and these are the pairs of the paths. -/
def Valid (value : r.Value) (pairs : List (r.Value × r.Value)) : Prop :=
  ∃ root, RootIs r value root ∧ ArchIs r (r.member? "arch" root) ∧
    PathsAre r (r.member? "paths" root) pairs

/-- The values are of the kinds that they have to be but for the paths, which count as nothing. -/
def VacantPaths (value : r.Value) : Prop :=
  ∃ root paths, RootIs r value root ∧ ArchIs r (r.member? "arch" root) ∧
    r.member? "paths" root = some paths ∧ Vacant r paths

/-- The errors for values of another kind, and what each of them is for. The architecture is looked
at before the paths. -/
inductive Refused (path : String) (value : r.Value) : Error → Prop
  | root : r.view value ≠ .null → (∀ pairs, r.view value ≠ .mapping pairs) →
      Refused path value (.notMapping path)
  | arch {root given} : RootIs r value root → r.member? "arch" root = some given →
      (∀ s, r.view given ≠ .text s) → Refused path value (.archKind path (r.view given).kindName)
  | paths {root given} : RootIs r value root → ArchIs r (r.member? "arch" root) →
      r.member? "paths" root = some given → r.view given ≠ .null →
      (∀ pairs, r.view given ≠ .mapping pairs) → ¬ Vacant r given →
      Refused path value (.pathsKind path)

/-- The errors for values of another kind. -/
inductive Error.OfKind : Error → Prop
  | root (path : String) : OfKind (.notMapping path)
  | arch (path kind : String) : OfKind (.archKind path kind)
  | paths (path : String) : OfKind (.pathsKind path)

/-! ## Written forms of values -/

/-- The keys and values of pairs, as they are written one after the other. -/
def parts {Value : Type} (pairs : List (Value × Value)) : List Value :=
  pairs.flatMap fun (key, value) => [key, value]

/-- All keys and values have written forms. -/
def Written (pairs : List (r.Value × r.Value)) : Prop :=
  ∀ value ∈ parts pairs, ∃ s, r.written value = .ok s

/-- Why the first key or value without a written form has none. -/
def FirstUnwritten (pairs : List (r.Value × r.Value)) (cause : Unwritten) : Prop :=
  ∃ before value after, parts pairs = before ++ value :: after ∧
    (∀ u ∈ before, ∃ s, r.written u = .ok s) ∧ r.written value = .error cause

/-! ## Ends of loading -/

/-- Loading comes to the dictionary: the settings file is completed with it. -/
def ReachesDictionary (files : FileSystem) (path : String) : Prop :=
  ∃ draft, Draft.ofFile r path (files path) = .ok draft ∧
    load r files path = draft.load files path

/-- Loading ends with an error, whatever other files there are, and without a warning. -/
def StopsWith (files : FileSystem) (path : String) (e : Error) : Prop :=
  ∀ files' : FileSystem, files' path = files path → load r files' path = ⟨[], .error e⟩

/-- Loading comes to the dictionary just if all values are of their kinds, and ends with an error
for the kind of a value otherwise. -/
def Validates (files : FileSystem) (path : String) (value : r.Value) : Prop :=
  (ReachesDictionary r files path ↔ ∃ pairs, Valid r value pairs) ∧
    ((¬ ∃ pairs, Valid r value pairs) → ∃ e, e.OfKind ∧ StopsWith r files path e)

section
variable {r} {files : FileSystem} {path : String} {value paths : r.Value} {e : Error}
  {root pairs : List (r.Value × r.Value)} {given : Option r.Value}

theorem Refused.ofKind (h : Refused r path value e) : e.OfKind := by
  cases h with
  | root _ _ => exact .root path
  | arch _ _ _ => exact .arch path _
  | paths _ _ _ _ _ _ => exact .paths path

theorem vacant_iff : Vacant r value ↔ (r.view value).isVoid = true ∧ r.view value ≠ .null ∧
    ∀ pairs, r.view value ≠ .mapping pairs := by
  constructor
  · rintro (h | h) <;> simp [h, View.isVoid]
  · rintro ⟨hvoid, hnull, hmapping⟩
    cases h : r.view value with
    | null => exact absurd h hnull
    | text s =>
        rw [h] at hvoid
        exact .text (h.trans (congrArg View.text (String.isEmpty_iff.mp hvoid)))
    | mapping pairs => exact absurd h (hmapping pairs)
    | other kind isVoid =>
        rw [h] at hvoid
        exact .other (h.trans (congrArg (View.other kind) hvoid))

/-! ## Single values -/

theorem RootIs.rootPairs (h : RootIs r value root) (path : String) :
    rootPairs r path value = .ok root := by
  cases h with
  | null h | mapping h => rw [Settings.rootPairs, h]

theorem rootIs_or (value : r.Value) : (∃ root, RootIs r value root) ∨
    r.view value ≠ .null ∧ ∀ pairs, r.view value ≠ .mapping pairs := by
  cases h : r.view value with
  | null => exact Or.inl ⟨[], .null h⟩
  | mapping pairs => exact Or.inl ⟨pairs, .mapping h⟩
  | text _ | other _ _ => exact Or.inr ⟨by simp, by simp⟩

theorem rootPairs_of_no_mapping (hnull : r.view value ≠ .null)
    (hmapping : ∀ pairs, r.view value ≠ .mapping pairs) (path : String) :
    rootPairs r path value = .error (.notMapping path) := by
  cases hview : r.view value with
  | null => exact absurd hview hnull
  | mapping pairs => exact absurd hview (hmapping pairs)
  | text _ | other _ _ => simp only [Settings.rootPairs, hview]

theorem RootIs.unique {root' : List (r.Value × r.Value)} (h : RootIs r value root)
    (h' : RootIs r value root') : root = root' :=
  Except.ok.inj ((h.rootPairs "").symm.trans (h'.rootPairs ""))

theorem ArchIs.readArch (h : ArchIs r given) (path : String) :
    ∃ arch, readArch r path given = .ok arch := by
  cases h with
  | absent => exact ⟨_, rfl⟩
  | @text value s h => exact ⟨s, by rw [Settings.readArch, h]⟩

theorem archIs_or (given : Option r.Value) :
    ArchIs r given ∨ ∃ value, given = some value ∧ ∀ s, r.view value ≠ .text s := by
  cases given with
  | none => exact Or.inl .absent
  | some value =>
      cases h : r.view value with
      | text s => exact Or.inl (.text h)
      | null | mapping _ | other _ _ => exact Or.inr ⟨value, rfl, by simp [h]⟩

theorem readArch_of_no_text (h : ∀ s, r.view value ≠ .text s) :
    readArch r path (some value) = .error (.archKind path (r.view value).kindName) := by
  cases hview : r.view value with
  | text s => exact absurd hview (h s)
  | null | mapping _ | other _ _ => simp only [readArch, hview]

theorem PathsAre.pathPairs (h : PathsAre r given pairs) (path : String) :
    pathPairs r path given = .ok pairs := by
  cases h with
  | absent => rfl
  | null h => simp [Settings.pathPairs, h, View.isVoid]
  | mapping h => cases pairs <;> simp [Settings.pathPairs, h, View.isVoid]

theorem Vacant.pathPairs (h : Vacant r value) (path : String) :
    pathPairs r path (some value) = .ok [] := by
  rw [Settings.pathPairs, if_pos (vacant_iff.mp h).1]

theorem pathPairs_of_no_mapping (hnull : r.view value ≠ .null)
    (hmapping : ∀ pairs, r.view value ≠ .mapping pairs) (hvacant : ¬ Vacant r value) :
    pathPairs r path (some value) = .error (.pathsKind path) := by
  have hvoid : ¬ (r.view value).isVoid = true := fun hvoid =>
    hvacant (vacant_iff.mpr ⟨hvoid, hnull, hmapping⟩)
  rw [Settings.pathPairs, if_neg hvoid]
  cases hview : r.view value with
  | mapping pairs => exact absurd hview (hmapping pairs)
  | null | text _ | other _ _ => rfl

theorem pathsAre_or (given : Option r.Value) : (∃ pairs, PathsAre r given pairs) ∨
    ∃ value, given = some value ∧ r.view value ≠ .null ∧
      ∀ pairs, r.view value ≠ .mapping pairs := by
  cases given with
  | none => exact Or.inl ⟨[], .absent⟩
  | some value =>
      cases h : r.view value with
      | null => exact Or.inl ⟨[], .null h⟩
      | mapping pairs => exact Or.inl ⟨pairs, .mapping h⟩
      | text _ | other _ _ => exact Or.inr ⟨value, rfl, by simp [h], by simp [h]⟩

/-! ## Written forms -/

theorem written_or (pairs : List (r.Value × r.Value)) :
    Written r pairs ∨ ∃ cause, FirstUnwritten r pairs cause := by
  cases h : (parts pairs).mapM r.written with
  | ok written => exact Or.inl (exists_mapM_ok_iff.mp ⟨written, h⟩)
  | error cause => exact Or.inr ⟨cause, mapM_eq_error_iff.mp h⟩

/-- The pairs are written, or it is told why they are not, as their parts are one by one. -/
theorem printedPairs_cases (read : List (String × String)) (pairs : List (r.Value × r.Value)) :
    (∃ paths written, printedPairs r read pairs = .ok paths ∧
      (parts pairs).mapM r.written = .ok written) ∨
    ∃ cause, printedPairs r read pairs = .error (.unwritten cause) ∧
      (parts pairs).mapM r.written = .error cause := by
  induction pairs generalizing read with
  | nil => exact Or.inl ⟨read, [], rfl, rfl⟩
  | cons pair rest ih =>
      have hparts : parts (pair :: rest) = pair.1 :: pair.2 :: parts rest := rfl
      simp only [printedPairs, printed, hparts, bind, Except.bind]
      cases hkey : r.written pair.1 with
      | error cause => exact Or.inr ⟨cause, rfl, mapM_cons_of_error hkey _⟩
      | ok key =>
          rw [mapM_cons_of_ok hkey]
          cases hvalue : r.written pair.2 with
          | error cause => exact Or.inr ⟨cause, rfl, by rw [mapM_cons_of_error hvalue]; rfl⟩
          | ok value =>
              rw [mapM_cons_of_ok hvalue]
              rcases ih (putText key value read) with ⟨paths, written, hpaths, hwritten⟩ |
                ⟨cause, hcause, hparts⟩
              · exact Or.inl ⟨paths, _, hpaths, by rw [hwritten]; rfl⟩
              · exact Or.inr ⟨cause, hcause, by rw [hparts]; rfl⟩

theorem exists_printedPairs_iff {read : List (String × String)} :
    (∃ paths, printedPairs r read pairs = .ok paths) ↔ Written r pairs := by
  rw [Written, ← exists_mapM_ok_iff]
  rcases printedPairs_cases read pairs with ⟨paths, written, hpaths, hwritten⟩ |
    ⟨cause, hcause, hparts⟩
  · simp [hpaths, hwritten]
  · simp [hcause, hparts]

theorem printedPairs_eq_error_iff {read : List (String × String)} :
    printedPairs r read pairs = .error e ↔
      ∃ cause, e = .unwritten cause ∧ FirstUnwritten r pairs cause := by
  simp only [FirstUnwritten, ← mapM_eq_error_iff]
  rcases printedPairs_cases read pairs with ⟨paths, written, hpaths, hwritten⟩ |
    ⟨cause, hcause, hparts⟩
  · simp [hpaths, hwritten]
  · simp [hcause, hparts, eq_comm]

theorem readSeparator_eq_error_iff : readSeparator r given = .error e ↔
    ∃ value cause, given = some value ∧ r.written value = .error cause ∧ e = .unwritten cause := by
  cases given with
  | none => simp [readSeparator]
  | some value =>
      simp only [readSeparator, printed, mapError_eq_error_iff, Option.some.injEq, exists_eq_left',
        exists_and_left]
      exact exists_congr fun cause => and_congr_right fun _ => eq_comm

/-! ## Whole files -/

theorem Valid.unique {pairs' : List (r.Value × r.Value)} (h : Valid r value pairs)
    (h' : Valid r value pairs') : pairs = pairs' := by
  obtain ⟨root, hroot, -, hpaths⟩ := h
  obtain ⟨root', hroot', -, hpaths'⟩ := h'
  obtain rfl := hroot.unique hroot'
  exact Except.ok.inj ((hpaths.pathPairs "").symm.trans (hpaths'.pathPairs ""))

theorem VacantPaths.not_valid (h : VacantPaths r value) : ¬ Valid r value pairs := by
  rintro ⟨root', hroot', -, hpaths⟩
  obtain ⟨root, item, hroot, -, hitem, hvacant⟩ := h
  obtain rfl := hroot.unique hroot'
  rw [hitem] at hpaths
  obtain ⟨-, hnull, hmapping⟩ := vacant_iff.mp hvacant
  cases hpaths with
  | null h => exact hnull h
  | mapping h => exact hmapping _ h

theorem valid_or (path : String) (value : r.Value) :
    (∃ pairs, Valid r value pairs) ∨ VacantPaths r value ∨ ∃ e, Refused r path value e := by
  rcases rootIs_or value with ⟨root, hroot⟩ | ⟨hnull, hmapping⟩
  · rcases archIs_or (r.member? "arch" root) with harch | ⟨given, hgiven, htext⟩
    · rcases pathsAre_or (r.member? "paths" root) with
        ⟨pairs, hpaths⟩ | ⟨given, hgiven, hnull, hmapping⟩
      · exact Or.inl ⟨pairs, root, hroot, harch, hpaths⟩
      · by_cases hvacant : Vacant r given
        · exact Or.inr (Or.inl ⟨root, given, hroot, harch, hgiven, hvacant⟩)
        · exact Or.inr (Or.inr ⟨_, .paths hroot harch hgiven hnull hmapping hvacant⟩)
    · exact Or.inr (Or.inr ⟨_, .arch hroot hgiven htext⟩)
  · exact Or.inr (Or.inr ⟨_, .root hnull hmapping⟩)

theorem ofValue_of_pathPairs (hroot : RootIs r value root)
    (harch : ArchIs r (r.member? "arch" root))
    (hpaths : pathPairs r path (r.member? "paths" root) = .ok pairs) :
    ∃ arch separator, Draft.ofValue r path value =
      (printedPairs r [] pairs).map fun paths => ⟨arch, paths, separator⟩ := by
  obtain ⟨arch, harch⟩ := harch.readArch path
  refine ⟨arch, readSeparator r (r.member? "tag_separator" root), ?_⟩
  simp only [Draft.ofValue, bind, Except.bind, hroot.rootPairs path, harch, hpaths]
  rfl

theorem Refused.ofValue (h : Refused r path value e) : Draft.ofValue r path value = .error e := by
  cases h with
  | root hnull hmapping =>
      simp [Draft.ofValue, rootPairs_of_no_mapping hnull hmapping, bind, Except.bind]
  | arch hroot hgiven htext =>
      simp [Draft.ofValue, hroot.rootPairs path, hgiven, readArch_of_no_text htext, bind,
        Except.bind]
  | paths hroot harch hgiven hnull hmapping hvacant =>
      obtain ⟨arch, harch⟩ := harch.readArch path
      simp [Draft.ofValue, hroot.rootPairs path, harch, hgiven,
        pathPairs_of_no_mapping hnull hmapping hvacant, bind, Except.bind]

theorem Valid.exists_ofValue_iff (h : Valid r value pairs) :
    (∃ draft, Draft.ofValue r path value = .ok draft) ↔ Written r pairs := by
  obtain ⟨root, hroot, harch, hpaths⟩ := h
  obtain ⟨arch, separator, hdraft⟩ := ofValue_of_pathPairs hroot harch (hpaths.pathPairs path)
  rw [hdraft, exists_map_ok_iff, exists_printedPairs_iff]

theorem Valid.ofValue_eq_error_iff (h : Valid r value pairs) :
    Draft.ofValue r path value = .error e ↔
      ∃ cause, e = .unwritten cause ∧ FirstUnwritten r pairs cause := by
  obtain ⟨root, hroot, harch, hpaths⟩ := h
  obtain ⟨arch, separator, hdraft⟩ := ofValue_of_pathPairs hroot harch (hpaths.pathPairs path)
  rw [hdraft, map_eq_error_iff, printedPairs_eq_error_iff]

/-- Paths that count as nothing are no paths. -/
theorem VacantPaths.ofValue (h : VacantPaths r value) (path : String) :
    ∃ draft, Draft.ofValue r path value = .ok draft ∧ draft.paths = [] := by
  obtain ⟨root, given, hroot, harch, hgiven, hvacant⟩ := h
  have hpaths : pathPairs r path (r.member? "paths" root) = .ok [] :=
    hgiven ▸ hvacant.pathPairs path
  obtain ⟨arch, separator, hdraft⟩ := ofValue_of_pathPairs hroot harch hpaths
  exact ⟨_, hdraft, rfl⟩

/-! ## Loading -/

theorem ofFile_of_value (hv : valueOfFile r path (files path) = .ok value) :
    Draft.ofFile r path (files path) = Draft.ofValue r path value := by
  rw [Draft.ofFile, hv, Except.bind]

theorem reachesDictionary_iff (hv : valueOfFile r path (files path) = .ok value) :
    ReachesDictionary r files path ↔ ∃ draft, Draft.ofValue r path value = .ok draft := by
  rw [← ofFile_of_value hv]
  constructor
  · rintro ⟨draft, hdraft, -⟩
    exact ⟨draft, hdraft⟩
  · rintro ⟨draft, hdraft⟩
    exact ⟨draft, hdraft, by rw [load, hdraft]⟩

theorem stopsWith_of_ofValue (hv : valueOfFile r path (files path) = .ok value)
    (h : Draft.ofValue r path value = .error e) : StopsWith r files path e := by
  intro files' hsame
  have hfile : Draft.ofFile r path (files' path) = .error e := by
    rw [hsame, ofFile_of_value hv, h]
  rw [load, hfile]

/-- Loading comes to the dictionary just if all values are of their kinds and the paths have written
forms, or the paths count as nothing. Any other value ends it with the error for its kind, and paths
without a written form with the cause of that. -/
theorem load_validates (hv : valueOfFile r path (files path) = .ok value) :
    (ReachesDictionary r files path ↔
      VacantPaths r value ∨ ∃ pairs, Valid r value pairs ∧ Written r pairs) ∧
    (∀ pairs, Valid r value pairs → ¬ Written r pairs →
      ∃ cause, FirstUnwritten r pairs cause ∧ StopsWith r files path (.unwritten cause)) ∧
    (¬ VacantPaths r value → (¬ ∃ pairs, Valid r value pairs) →
      ∃ e, Refused r path value e ∧ StopsWith r files path e) ∧
    (Validates r files path value ↔
      ¬ VacantPaths r value ∧ ∀ pairs, Valid r value pairs → Written r pairs) := by
  have hreaches : ReachesDictionary r files path ↔
      VacantPaths r value ∨ ∃ pairs, Valid r value pairs ∧ Written r pairs := by
    rw [reachesDictionary_iff hv]
    constructor
    · rintro ⟨draft, hdraft⟩
      rcases valid_or path value with ⟨pairs, hvalid⟩ | hvacant | ⟨e, hrefused⟩
      · exact Or.inr ⟨pairs, hvalid, hvalid.exists_ofValue_iff.mp ⟨draft, hdraft⟩⟩
      · exact Or.inl hvacant
      · rw [hrefused.ofValue] at hdraft
        cases hdraft
    · rintro (hvacant | ⟨pairs, hvalid, hwritten⟩)
      · obtain ⟨draft, hdraft, -⟩ := hvacant.ofValue path
        exact ⟨draft, hdraft⟩
      · exact hvalid.exists_ofValue_iff.mpr hwritten
  have hrefuses : ¬ VacantPaths r value → (¬ ∃ pairs, Valid r value pairs) →
      ∃ e, Refused r path value e ∧ StopsWith r files path e := by
    intro hvacant hvalid
    rcases valid_or path value with h | h | ⟨e, hrefused⟩
    · exact absurd h hvalid
    · exact absurd h hvacant
    · exact ⟨e, hrefused, stopsWith_of_ofValue hv hrefused.ofValue⟩
  refine ⟨hreaches, fun pairs hvalid hwritten => ?_, hrefuses, ?_, ?_⟩
  · obtain ⟨cause, hcause⟩ := (written_or pairs).resolve_left hwritten
    have hdraft : Draft.ofValue r path value = .error (.unwritten cause) :=
      hvalid.ofValue_eq_error_iff.mpr ⟨cause, rfl, hcause⟩
    exact ⟨cause, hcause, stopsWith_of_ofValue hv hdraft⟩
  · rintro ⟨hiff, -⟩
    constructor
    · intro hvacant
      obtain ⟨pairs, hvalid⟩ := hiff.mp (hreaches.mpr (Or.inl hvacant))
      exact hvacant.not_valid hvalid
    · intro pairs hvalid
      rcases hreaches.mp (hiff.mpr ⟨pairs, hvalid⟩) with hvacant | ⟨pairs', hvalid', hwritten⟩
      · exact absurd hvalid hvacant.not_valid
      · exact hvalid.unique hvalid' ▸ hwritten
  · rintro ⟨hvacant, hwritten⟩
    refine ⟨?_, fun hvalid => ?_⟩
    · rw [hreaches, or_iff_right hvacant]
      exact exists_congr fun pairs => and_iff_left_of_imp (hwritten pairs)
    · obtain ⟨e, hrefused, hstops⟩ := hrefuses hvacant hvalid
      exact ⟨e, hrefused.ofKind, hstops⟩

end

/-! ## YAML -/

/-- The items that count as nothing, though they are neither null nor a mapping: no, zero, and what
is empty. -/
inductive IsNothing (d : Yaml.Document) : Yaml.Item → Prop
  | no : IsNothing d (.scalar (.boolean false))
  | zero : IsNothing d (.scalar (.integer 0))
  | realZero (negative : Bool) (exponent : Int) :
      IsNothing d (.scalar (.real (.finite negative 0 exponent)))
  | text : IsNothing d (.scalar (.text ""))
  | bytes : IsNothing d (.scalar (.bytes []))
  | list {place} : d.collection place = .list [] → IsNothing d (.collection place)
  | pairs {place} : d.collection place = .pairs [] → IsNothing d (.collection place)
  | set {place} : d.collection place = .set [] → IsNothing d (.collection place)

theorem vacant_yaml_iff {d : Yaml.Document} {item : Yaml.Item} :
    Vacant Yaml.reader ⟨d, item⟩ ↔ IsNothing d item := by
  rw [vacant_iff]
  constructor
  · rintro ⟨hvoid, hnull, hmapping⟩
    cases item with
    | scalar s =>
        cases s with
        | null => exact absurd rfl hnull
        | boolean b =>
            cases b with
            | false => exact .no
            | true => cases hvoid
        | integer n =>
            obtain rfl : n = 0 := eq_of_beq hvoid
            exact .zero
        | real x =>
            cases x with
            | nan | infinity _ => cases hvoid
            | finite negative mantissa exponent =>
                obtain rfl : mantissa = 0 := eq_of_beq hvoid
                exact .realZero negative exponent
        | text s =>
            obtain rfl : s = "" := String.isEmpty_iff.mp hvoid
            exact .text
        | bytes bs =>
            obtain rfl : bs = [] := List.isEmpty_iff.mp hvoid
            exact .bytes
        | computedNan _ | time _ => cases hvoid
    | collection place =>
        cases hplace : d.collection place with
        | mapping entries =>
            have hview : Yaml.Value.view ⟨d, .collection place⟩ = .mapping (entries.map
                fun entry => (⟨d, .scalar entry.1⟩, ⟨d, entry.2⟩)) := by
              simp only [Yaml.Value.view, hplace]
            exact absurd hview (hmapping _)
        | list _ | pairs _ | set _ =>
            obtain rfl : _ = [] := by
              simpa [Yaml.reader, Yaml.Value.view, View.isVoid, hplace] using hvoid
            first | exact .list hplace | exact .pairs hplace | exact .set hplace
  · intro h
    cases h with
    | list hplace | pairs hplace | set hplace =>
        simp [Yaml.reader, Yaml.Value.view, View.isVoid, hplace]
    | _ => simp [Yaml.reader, Yaml.Value.view, View.isVoid, Yaml.Scalar.isVoid]

/-- Settings with an empty list for the paths, and settings that name a dictionary. -/
def pathFiles : FileTree := .ofList [
  ("empty.yaml", "paths: []\n".toUTF8.toList),
  ("named.yaml", "paths:\n  dictionary: d.json\n".toUTF8.toList)]

def emptyPaths : Yaml.Value where
  document := ⟨#[.mapping [(.text "paths", .collection 1)], .list []], .collection 0⟩
  item := .collection 0

def namedPaths : Yaml.Value where
  document := ⟨#[.mapping [(.text "paths", .collection 1)],
    .mapping [(.text "dictionary", .scalar (.text "d.json"))]], .collection 0⟩
  item := .collection 0

theorem valueOfFile_emptyPaths :
    valueOfFile Yaml.reader "empty.yaml" (pathFiles.look "empty.yaml") = .ok emptyPaths := by
  decide +kernel

theorem vacantPaths_emptyPaths : VacantPaths Yaml.reader emptyPaths :=
  ⟨_, _, .mapping rfl, .absent, rfl, vacant_yaml_iff.mpr (.list rfl)⟩

theorem load_validates_pathFiles :
    valueOfFile Yaml.reader "empty.yaml" (pathFiles.look "empty.yaml") = .ok emptyPaths ∧
      ReachesDictionary Yaml.reader pathFiles.look "empty.yaml" ∧
      ¬ Validates Yaml.reader pathFiles.look "empty.yaml" emptyPaths ∧
      valueOfFile Yaml.reader "named.yaml" (pathFiles.look "named.yaml") = .ok namedPaths ∧
      Validates Yaml.reader pathFiles.look "named.yaml" namedPaths := by
  obtain ⟨hreaches, -, -, hvalidates⟩ := load_validates valueOfFile_emptyPaths
  have hv : valueOfFile Yaml.reader "named.yaml" (pathFiles.look "named.yaml") =
      .ok namedPaths := by decide +kernel
  have hvalid : Valid Yaml.reader namedPaths
      [(⟨namedPaths.document, .scalar (.text "dictionary")⟩,
        ⟨namedPaths.document, .scalar (.text "d.json")⟩)] :=
    ⟨_, .mapping rfl, .absent, .mapping rfl⟩
  refine ⟨valueOfFile_emptyPaths, hreaches.mpr (Or.inl vacantPaths_emptyPaths),
    fun h => (hvalidates.mp h).1 vacantPaths_emptyPaths, hv, (load_validates hv).2.2.2.mpr ?_⟩
  refine ⟨fun hvacant => hvacant.not_valid hvalid, fun pairs hpairs => ?_⟩
  obtain rfl := hvalid.unique hpairs
  exact List.forall_mem_cons.mpr ⟨⟨_, rfl⟩, List.forall_mem_singleton.mpr ⟨_, rfl⟩⟩

/-- Not every value of another kind is refused: an empty list passes for the paths. -/
theorem not_forall_validates :
    ¬ ∀ (r : Reader) (files : FileSystem) (path : String) (value : r.Value),
      valueOfFile r path (files path) = .ok value → Validates r files path value := by
  intro h
  obtain ⟨hiff, -⟩ := h Yaml.reader pathFiles.look "empty.yaml" emptyPaths valueOfFile_emptyPaths
  obtain ⟨draft, hdraft, -⟩ := vacantPaths_emptyPaths.ofValue "empty.yaml"
  obtain ⟨pairs, hvalid⟩ :=
    hiff.mp ((reachesDictionary_iff valueOfFile_emptyPaths).mpr ⟨draft, hdraft⟩)
  exact vacantPaths_emptyPaths.not_valid hvalid

end TaggerFeatures.Settings
