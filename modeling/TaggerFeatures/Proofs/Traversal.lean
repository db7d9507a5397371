import Mathlib.Data.List.Forall2

/-! Results that may be errors, and traversals of a list that stop at the first error. -/
namespace TaggerFeatures

theorem exists_of_map_ok {ε α β : Type} {r : Except ε α} {f : α → β} {y : β}
    (h : r.map f = .ok y) : ∃ x, r = .ok x ∧ f x = y := by
  cases r with
  | error e => cases h
  | ok x =>
      cases h
      exact ⟨x, rfl, rfl⟩

theorem exists_map_ok_iff {ε α β : Type} {r : Except ε α} {f : α → β} :
    (∃ y, r.map f = .ok y) ↔ ∃ x, r = .ok x := by
  cases r <;> simp [Except.map]

theorem map_eq_error_iff {ε α β : Type} {r : Except ε α} {f : α → β} {e : ε} :
    r.map f = .error e ↔ r = .error e := by
  cases r <;> simp [Except.map]

theorem mapError_eq_error_iff {ε κ α : Type} {r : Except ε α} {φ : ε → κ} {e : κ} :
    r.mapError φ = .error e ↔ ∃ e', r = .error e' ∧ φ e' = e := by
  cases r <;> simp [Except.mapError]

theorem mapError_eq_ok_iff {ε κ α : Type} {r : Except ε α} {φ : ε → κ} {x : α} :
    r.mapError φ = .ok x ↔ r = .ok x := by
  cases r <;> simp [Except.mapError]

theorem exists_mapError_ok_iff {ε κ α : Type} {r : Except ε α} {φ : ε → κ} :
    (∃ x, r.mapError φ = .ok x) ↔ ∃ x, r = .ok x := by
  cases r <;> simp [Except.mapError]

theorem toOption_bind_eq_some_iff {ε α β : Type} {r : Except ε α} {f : α → Option β} {y : β} :
    r.toOption.bind f = some y ↔ ∃ x, r = .ok x ∧ f x = some y := by
  cases r <;> simp [Except.toOption]

theorem bind_eq_ok_iff {ε α β : Type} {r : Except ε α} {f : α → Except ε β} {y : β} :
    r.bind f = .ok y ↔ ∃ x, r = .ok x ∧ f x = .ok y := by
  cases r <;> simp [Except.bind]

theorem bind_eq_error_iff {ε α β : Type} {r : Except ε α} {f : α → Except ε β} {e : ε} :
    r.bind f = .error e ↔ r = .error e ∨ ∃ x, r = .ok x ∧ f x = .error e := by
  cases r <;> simp [Except.bind]

/-- Results that are equal up to what errors are taken for. -/
theorem cases_of_mapError_eq {ε κ α : Type} {r r' : Except ε α} {φ : ε → κ}
    (h : r.mapError φ = r'.mapError φ) :
    (∃ x, r = .ok x ∧ r' = .ok x) ∨ ∃ e e', r = .error e ∧ r' = .error e' ∧ φ e = φ e' := by
  cases r with
  | ok x =>
      cases r' with
      | ok x' => exact Or.inl ⟨x, rfl, congrArg Except.ok (Except.ok.inj h).symm⟩
      | error e' => cases h
  | error e =>
      cases r' with
      | ok x' => cases h
      | error e' => exact Or.inr ⟨e, e', rfl, rfl, Except.error.inj h⟩

/-- Both are the same error, or both are results that belong together. -/
inductive Matches {ε α β : Type} (rel : α → β → Prop) : Except ε α → Except ε β → Prop
  | error (e : ε) : Matches rel (.error e) (.error e)
  | ok {x y} : rel x y → Matches rel (.ok x) (.ok y)

theorem Matches.map {ε α β γ δ : Type} {rel : α → β → Prop} {rel' : γ → δ → Prop}
    {r : Except ε α} {s : Except ε β} {f : α → γ} {g : β → δ} (h : Matches rel r s)
    (hfg : ∀ x y, rel x y → rel' (f x) (g y)) : Matches rel' (r.map f) (s.map g) := by
  cases h with
  | error e => exact .error e
  | ok hxy => exact .ok (hfg _ _ hxy)

theorem Matches.eq_error_iff {ε α β : Type} {rel : α → β → Prop} {r : Except ε α} {s : Except ε β}
    (h : Matches rel r s) (e : ε) : r = .error e ↔ s = .error e := by
  cases h <;> simp

variable {ε α β : Type} {f g : α → Except ε β}

theorem mapM_cons_of_ok {x : α} {y : β} (h : f x = .ok y) (xs : List α) :
    (x :: xs).mapM f = (xs.mapM f).map (y :: ·) := by
  rw [List.mapM_cons, h]
  cases xs.mapM f <;> rfl

theorem mapM_cons_of_error {x : α} {e : ε} (h : f x = .error e) (xs : List α) :
    (x :: xs).mapM f = .error e := by
  rw [List.mapM_cons, h]
  rfl

/-- A traversal succeeds just if each step does, and then gives what the steps give. -/
theorem mapM_eq_ok_iff {xs : List α} {ys : List β} :
    xs.mapM f = .ok ys ↔ xs.map f = ys.map .ok := by
  induction xs generalizing ys with
  | nil => cases ys <;> simp [pure, Except.pure]
  | cons x xs ih =>
      cases hx : f x with
      | error e =>
          rw [mapM_cons_of_error hx]
          cases ys <;> simp [hx]
      | ok y =>
          rw [mapM_cons_of_ok hx]
          cases ys with
          | nil => cases xs.mapM f <;> simp [Except.map]
          | cons y' ys =>
              rw [List.map_cons, List.map_cons, hx, List.cons.injEq, ← ih]
              cases xs.mapM f <;> simp [Except.map]

theorem mapM_reverse_eq_ok_iff {xs : List α} {ys : List β} :
    xs.reverse.mapM f = .ok ys.reverse ↔ xs.mapM f = .ok ys := by
  rw [mapM_eq_ok_iff, mapM_eq_ok_iff, List.map_reverse, List.map_reverse, List.reverse_inj]

/-- A traversal gives the results that stand beside the members they are results of. -/
theorem mapM_eq_ok_iff_forall₂ {xs : List α} {ys : List β} :
    xs.mapM f = .ok ys ↔ List.Forall₂ (fun x y => f x = .ok y) xs ys := by
  rw [mapM_eq_ok_iff, ← List.forall₂_eq_eq_eq, List.forall₂_map_left_iff,
    List.forall₂_map_right_iff]

theorem forall₂_of_mapM_ok {xs : List α} {ys : List β} (h : xs.mapM f = .ok ys) :
    List.Forall₂ (fun x y => f x = .ok y) xs ys :=
  mapM_eq_ok_iff_forall₂.mp h

/-- Steps that give the same results make traversals that do. -/
theorem mapM_ok_congr {α' ε' : Type} {f' : α' → Except ε' β} {xs : List α} {xs' : List α'}
    (h : List.Forall₂ (fun x x' => ∀ y, f x = .ok y ↔ f' x' = .ok y) xs xs') {ys : List β} :
    xs.mapM f = .ok ys ↔ xs'.mapM f' = .ok ys := by
  rw [mapM_eq_ok_iff_forall₂, mapM_eq_ok_iff_forall₂]
  induction h generalizing ys with
  | nil => rw [List.forall₂_nil_left_iff, List.forall₂_nil_left_iff]
  | cons hx _ ih => simp only [List.forall₂_cons_left_iff, hx, ih]

theorem mapM_eq_ok_map {v : α → β} {xs : List α} (h : ∀ x ∈ xs, f x = .ok (v x)) :
    xs.mapM f = .ok (xs.map v) := by
  rw [mapM_eq_ok_iff, List.map_map]
  exact List.map_congr_left h

theorem exists_mapM_ok_iff {xs : List α} :
    (∃ ys, xs.mapM f = .ok ys) ↔ ∀ x ∈ xs, ∃ y, f x = .ok y := by
  induction xs with
  | nil => exact ⟨fun _ x hx => (List.not_mem_nil hx).elim, fun _ => ⟨[], rfl⟩⟩
  | cons x xs ih =>
      rw [List.forall_mem_cons, ← ih]
      cases hx : f x with
      | error e =>
          rw [mapM_cons_of_error hx]
          simp
      | ok y =>
          rw [mapM_cons_of_ok hx]
          cases xs.mapM f <;> simp [Except.map]

/-- Where each step succeeds, the results are those of a function. -/
theorem exists_forall_eq_ok [Inhabited β] {xs : List α} (h : ∀ x ∈ xs, ∃ y, f x = .ok y) :
    ∃ v : α → β, ∀ x ∈ xs, f x = .ok (v x) := by
  refine ⟨fun x => (f x).toOption.getD default, fun x hx => ?_⟩
  obtain ⟨y, hy⟩ := h x hx
  simp [hy, Except.toOption]

theorem mapM_append_of_ok {xs xs' : List α} {ys ys' : List β} (h : xs.mapM f = .ok ys)
    (h' : xs'.mapM f = .ok ys') : (xs ++ xs').mapM f = .ok (ys ++ ys') := by
  rw [List.mapM_append, h, h']
  rfl

theorem exists_of_mapM_append_ok {xs xs' : List α} {zs : List β}
    (h : (xs ++ xs').mapM f = .ok zs) :
    ∃ ys ys', xs.mapM f = .ok ys ∧ xs'.mapM f = .ok ys' ∧ zs = ys ++ ys' := by
  rw [mapM_eq_ok_iff, List.map_append] at h
  obtain ⟨ys, ys', hzs, hys, hys'⟩ := List.map_eq_append_iff.mp h.symm
  exact ⟨ys, ys', mapM_eq_ok_iff.mpr hys.symm, mapM_eq_ok_iff.mpr hys'.symm, hzs⟩

theorem exists_of_mapM_cons_ok {x : α} {xs : List α} {zs : List β}
    (h : (x :: xs).mapM f = .ok zs) : ∃ y ys, f x = .ok y ∧ xs.mapM f = .ok ys ∧ zs = y :: ys := by
  cases hx : f x with
  | error e =>
      rw [mapM_cons_of_error hx] at h
      cases h
  | ok y =>
      rw [mapM_cons_of_ok hx] at h
      obtain ⟨ys, hys, rfl⟩ := exists_of_map_ok h
      exact ⟨y, ys, rfl, hys, rfl⟩

theorem exists_of_mem_of_mapM_ok {xs : List α} {ys : List β} (h : xs.mapM f = .ok ys) {y : β}
    (hy : y ∈ ys) : ∃ x ∈ xs, f x = .ok y := by
  have hmem : Except.ok y ∈ ys.map (.ok : β → Except ε β) := List.mem_map_of_mem hy
  rw [← mapM_eq_ok_iff.mp h] at hmem
  exact List.mem_map.mp hmem

theorem length_of_mapM_ok {xs : List α} {ys : List β} (h : xs.mapM f = .ok ys) :
    ys.length = xs.length := by
  have hl := congrArg List.length (mapM_eq_ok_iff.mp h)
  rw [List.length_map, List.length_map] at hl
  exact hl.symm

theorem getElem?_of_mapM_ok {xs : List α} {ys : List β} (h : xs.mapM f = .ok ys) {i : Nat} {x : α}
    (hx : xs[i]? = some x) : ∃ y, ys[i]? = some y ∧ f x = .ok y := by
  have hget := congrArg (fun results => results[i]?) (mapM_eq_ok_iff.mp h)
  simp only [List.getElem?_map, hx, Option.map_some] at hget
  obtain ⟨y, hy, hfx⟩ := Option.map_eq_some_iff.mp hget.symm
  exact ⟨y, hy, hfx.symm⟩

/-- What each result shares with the member that it was made from, the lists share. -/
theorem map_eq_map_of_mapM_ok {γ : Type} {k : α → γ} {k' : β → γ} {xs : List α} {ys : List β}
    (h : xs.mapM f = .ok ys) (hk : ∀ x y, f x = .ok y → k' y = k x) : ys.map k' = xs.map k := by
  induction xs generalizing ys with
  | nil =>
      cases h
      rfl
  | cons x xs ih =>
      obtain ⟨y, rest, hx, hrest, rfl⟩ := exists_of_mapM_cons_ok h
      rw [List.map_cons, List.map_cons, hk x y hx, ih hrest]

/-- Where each result tells what it was made from, the results tell the list. -/
theorem map_eq_of_mapM_ok {xs : List α} {ys : List β} {made : β → α} (h : xs.mapM f = .ok ys)
    (hmade : ∀ x y, f x = .ok y → made y = x) : ys.map made = xs :=
  (map_eq_map_of_mapM_ok h hmade).trans (List.map_id xs)

/-- A traversal stops at the first step that fails. -/
theorem mapM_eq_error_iff {xs : List α} {e : ε} :
    xs.mapM f = .error e ↔ ∃ before x after, xs = before ++ x :: after ∧
      (∀ u ∈ before, ∃ y, f u = .ok y) ∧ f x = .error e := by
  constructor
  · intro h
    induction xs with
    | nil => cases h
    | cons x xs ih =>
        cases hx : f x with
        | error e' =>
            rw [mapM_cons_of_error hx] at h
            cases h
            exact ⟨[], x, xs, rfl, List.forall_mem_nil _, hx⟩
        | ok y =>
            rw [mapM_cons_of_ok hx, map_eq_error_iff] at h
            obtain ⟨before, x', after, rfl, hbefore, hx'⟩ := ih h
            exact ⟨x :: before, x', after, rfl, List.forall_mem_cons.mpr ⟨⟨y, hx⟩, hbefore⟩, hx'⟩
  · rintro ⟨before, x, after, rfl, hbefore, hx⟩
    obtain ⟨ys, hys⟩ := exists_mapM_ok_iff.mpr hbefore
    rw [List.mapM_append, hys, mapM_cons_of_error hx]
    rfl

/-- The error of a traversal is that of one of its steps. -/
theorem exists_of_mapM_error {xs : List α} {e : ε} (h : xs.mapM f = .error e) :
    ∃ x ∈ xs, f x = .error e := by
  obtain ⟨before, x, after, rfl, _, hx⟩ := mapM_eq_error_iff.mp h
  exact ⟨x, by simp, hx⟩

/-- Where the steps of two traversals give the same results or both fail, so do the traversals, and
they stop at the same member. -/
theorem mapM_ok_or_stop {ε' : Type} {g : α → Except ε' β} {xs : List α}
    (h : ∀ x ∈ xs, (∃ y, f x = .ok y ∧ g x = .ok y) ∨
      ∃ e e', f x = .error e ∧ g x = .error e') :
    (∃ ys, xs.mapM f = .ok ys ∧ xs.mapM g = .ok ys) ∨
      ∃ x ∈ xs, ∃ e e', (f x = .error e ∧ g x = .error e') ∧
        xs.mapM f = .error e ∧ xs.mapM g = .error e' := by
  induction xs with
  | nil => exact Or.inl ⟨[], rfl, rfl⟩
  | cons x xs ih =>
      obtain ⟨hx, hxs⟩ := List.forall_mem_cons.mp h
      rcases hx with ⟨y, hf, hg⟩ | ⟨e, e', hf, hg⟩
      · rw [mapM_cons_of_ok hf, mapM_cons_of_ok hg]
        rcases ih hxs with ⟨ys, hys, hys'⟩ | ⟨x', hx', e, e', hfails, hstops, hstops'⟩
        · exact Or.inl ⟨y :: ys, by rw [hys]; rfl, by rw [hys']; rfl⟩
        · exact Or.inr ⟨x', List.mem_cons_of_mem x hx', e, e', hfails,
            map_eq_error_iff.mpr hstops, map_eq_error_iff.mpr hstops'⟩
      · exact Or.inr ⟨x, List.mem_cons_self, e, e', ⟨hf, hg⟩, mapM_cons_of_error hf xs,
          mapM_cons_of_error hg xs⟩

/-- The first error is found again among the steps that can fail. -/
theorem mapM_filter_eq_error_iff {γ : Type} {g : α → Except ε γ} {p : α → Bool} {xs : List α}
    (h : ∀ x ∈ xs, ∀ e, f x = .error e ↔ p x = true ∧ g x = .error e) {e : ε} :
    (xs.filter p).mapM g = .error e ↔ xs.mapM f = .error e := by
  induction xs with
  | nil => exact ⟨fun he => (by cases he), fun he => (by cases he)⟩
  | cons x xs ih =>
      obtain ⟨hx, hxs⟩ := List.forall_mem_cons.mp h
      cases hf : f x with
      | error e' =>
          obtain ⟨hp, hg⟩ := (hx e').mp hf
          rw [List.filter_cons_of_pos hp, mapM_cons_of_error hg, mapM_cons_of_error hf]
          simp only [Except.error.injEq]
      | ok y =>
          rw [mapM_cons_of_ok hf, map_eq_error_iff, ← ih hxs]
          by_cases hp : p x = true
          · cases hg : g x with
            | error e' =>
                rw [(hx e').mpr ⟨hp, hg⟩] at hf
                cases hf
            | ok z => rw [List.filter_cons_of_pos hp, mapM_cons_of_ok hg, map_eq_error_iff]
          · rw [List.filter_cons_of_neg hp]

theorem mapM_congr {xs : List α} (h : ∀ x ∈ xs, f x = g x) : xs.mapM f = xs.mapM g := by
  induction xs with
  | nil => rfl
  | cons x xs ih =>
      rw [List.mapM_cons, List.mapM_cons, h x (by simp), ih fun x' hx' => h x' (by simp [hx'])]

theorem mapM_mapError {ε' : Type} (φ : ε → ε') (xs : List α) :
    (xs.mapM f).mapError φ = xs.mapM fun x => (f x).mapError φ := by
  induction xs with
  | nil => rfl
  | cons x xs ih =>
      rw [List.mapM_cons, List.mapM_cons, ← ih]
      cases f x with
      | error e => rfl
      | ok y => cases xs.mapM f <;> rfl

theorem mapM_map_ok {γ : Type} (k : β → γ) (xs : List α) :
    (xs.mapM f).map (List.map k) = xs.mapM fun x => (f x).map k := by
  induction xs with
  | nil => rfl
  | cons x xs ih =>
      rw [List.mapM_cons, List.mapM_cons, ← ih]
      cases f x with
      | error e => rfl
      | ok y => cases xs.mapM f <;> rfl

/-- Two traversals of a list give the same results just if their steps do. -/
theorem results_eq_iff {xs : List α} {ys zs : List β} (hf : xs.mapM f = .ok ys)
    (hg : xs.mapM g = .ok zs) : ys = zs ↔ ∀ x ∈ xs, ∃ y, f x = .ok y ∧ g x = .ok y := by
  constructor
  · rintro rfl x hx
    obtain ⟨y, hy⟩ := exists_mapM_ok_iff.mp ⟨ys, hf⟩ x hx
    have hmaps := (mapM_eq_ok_iff.mp hf).trans (mapM_eq_ok_iff.mp hg).symm
    exact ⟨y, hy, by rw [← List.map_inj_left.mp hmaps x hx, hy]⟩
  · intro hall
    have hsame : xs.mapM f = xs.mapM g := by
      apply mapM_congr
      intro x hx
      obtain ⟨y, hfx, hgx⟩ := hall x hx
      rw [hfx, hgx]
    rw [hf, hg] at hsame
    exact Except.ok.inj hsame

/-- Steps that succeed beside steps that succeed give results beside results. -/
theorem mapM_map_of_ok {ε' α' β' : Type} {f' : α' → Except ε' β'} {g : α → α'} {k : β → β'}
    {xs : List α} {ys : List β} (h : ∀ x ∈ xs, ∀ y, f x = .ok y → f' (g x) = .ok (k y))
    (hm : xs.mapM f = .ok ys) : (xs.map g).mapM f' = .ok (ys.map k) := by
  induction xs generalizing ys with
  | nil =>
      cases hm
      rfl
  | cons x xs ih =>
      obtain ⟨hx, hxs⟩ := List.forall_mem_cons.mp h
      obtain ⟨y, rest, hf, hrest, rfl⟩ := exists_of_mapM_cons_ok hm
      rw [List.map_cons, mapM_cons_of_ok (hx y hf), ih hxs hrest]
      rfl

theorem mapM_map_of_error {ε' α' β' : Type} {f' : α' → Except ε' β'} {g : α → α'} {xs : List α}
    {e : ε} (h : ∀ x ∈ xs, ∀ e, f x = .error e → ∃ e', f' (g x) = .error e')
    (hm : xs.mapM f = .error e) : ∃ e', (xs.map g).mapM f' = .error e' := by
  obtain ⟨x, hx, hf⟩ := exists_of_mapM_error hm
  obtain ⟨e', he'⟩ := h x hx e hf
  cases hg : (xs.map g).mapM f' with
  | error e'' => exact ⟨e'', rfl⟩
  | ok ys =>
      obtain ⟨y, hy⟩ := exists_mapM_ok_iff.mp ⟨ys, hg⟩ (g x) (List.mem_map_of_mem hx)
      rw [he'] at hy
      cases hy

/-! ## Traversals without an error to tell -/

theorem mapM_eq_some_iff {k : α → Option β} {xs : List α} {ys : List β} :
    xs.mapM k = some ys ↔ xs.map k = ys.map some := by
  induction xs generalizing ys with
  | nil => cases ys <;> simp
  | cons x xs ih =>
      rw [List.mapM_cons, List.map_cons]
      cases hx : k x with
      | none => cases ys <;> simp
      | some y => cases ys <;> simp [Option.bind_eq_some_iff, ih, and_comm]

theorem mapM_eq_some_map {k : α → Option β} {v : α → β} {xs : List α}
    (h : ∀ x ∈ xs, k x = some (v x)) : xs.mapM k = some (xs.map v) := by
  rw [mapM_eq_some_iff, List.map_map]
  exact List.map_congr_left h

theorem exists_of_mapM_eq_some {k : α → Option β} {xs : List α} {ys : List β}
    (h : xs.mapM k = some ys) {x : α} (hx : x ∈ xs) : ∃ y, k x = some y := by
  have hmem : k x ∈ ys.map some := mapM_eq_some_iff.mp h ▸ List.mem_map_of_mem hx
  obtain ⟨y, _, hy⟩ := List.mem_map.mp hmem
  exact ⟨y, hy.symm⟩

end TaggerFeatures
