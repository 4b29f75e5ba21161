import Mathlib.Data.List.Forall2

/-!
# Computations that can fail

What is known of the steps of a computation from what it ended with.
-/

namespace WorkspaceLink

variable {ε ε' α β γ : Type}

theorem bind_eq_ok {x : Except ε α} {f : α → Except ε β} {b : β} :
    (x >>= f) = .ok b ↔ ∃ a, x = .ok a ∧ f a = .ok b := by
  cases x <;> simp [bind, Except.bind]

theorem mapError_ok {f : ε → ε'} {a : α} : (Except.ok a : Except ε α).mapError f = .ok a := rfl

theorem mapError_eq_ok {x : Except ε α} {f : ε → ε'} {a : α} :
    x.mapError f = .ok a ↔ x = .ok a := by
  cases x with
  | ok b =>
      constructor <;> intro h
      · rw [Except.ok.inj h]
      · obtain rfl := Except.ok.inj h
        rfl
  | error e =>
      constructor <;> intro h <;> cases h

theorem mapError_eq_error {x : Except ε α} {f : ε → ε'} {e' : ε'} :
    x.mapError f = .error e' ↔ ∃ e, x = .error e ∧ f e = e' := by
  cases x with
  | ok b =>
      constructor
      · intro h
        cases h
      · rintro ⟨e, he, -⟩
        cases he
  | error e =>
      constructor
      · intro h
        exact ⟨e, rfl, Except.error.inj h⟩
      · rintro ⟨e, he, rfl⟩
        rw [he]
        rfl

/-- Going through a list ends with what each step ends with, in order. -/
theorem mapM_eq_ok_iff {f : α → Except ε β} {xs : List α} {ys : List β} :
    xs.mapM f = .ok ys ↔ List.Forall₂ (fun x y => f x = .ok y) xs ys := by
  induction xs generalizing ys with
  | nil =>
      rw [List.forall₂_nil_left_iff]
      exact ⟨fun h => (Except.ok.inj h).symm, fun h => h ▸ rfl⟩
  | cons x xs ih =>
      rw [List.mapM_cons, List.forall₂_cons_left_iff, bind_eq_ok]
      constructor
      · rintro ⟨y, hy, h⟩
        obtain ⟨rest, hrest, h⟩ := bind_eq_ok.mp h
        exact ⟨y, rest, hy, ih.mp hrest, (Except.ok.inj h).symm⟩
      · rintro ⟨y, rest, hy, hrest, rfl⟩
        rw [ih.mpr hrest]
        exact ⟨y, hy, rfl⟩

/-- Going through a list with a step that only checks what it goes through makes what the step makes
of each. -/
theorem mapM_eq_ok_map_iff {f : α → Except ε β} {p : α → Prop} {g : α → β}
    (h : ∀ x y, f x = .ok y ↔ p x ∧ y = g x) {xs : List α} {ys : List β} :
    xs.mapM f = .ok ys ↔ (∀ x ∈ xs, p x) ∧ ys = xs.map g := by
  have made : List.Forall₂ (fun x y => y = g x) xs ys ↔ ys = xs.map g := by
    rw [eq_comm, ← List.forall₂_eq_eq_eq, List.forall₂_map_left_iff]
    simp only [eq_comm]
  rw [mapM_eq_ok_iff, ← made, ← List.forall₂_and_left]
  simp only [h]

theorem exists_left_of_mem {R : α → β → Prop} {xs : List α} {ys : List β}
    (h : List.Forall₂ R xs ys) {y : β} (hy : y ∈ ys) : ∃ x ∈ xs, R x y := by
  induction h with
  | nil => cases hy
  | cons related _ ih =>
      rcases List.mem_cons.mp hy with rfl | hy
      · exact ⟨_, by simp, related⟩
      · obtain ⟨x, hx, related⟩ := ih hy
        exact ⟨x, List.mem_cons_of_mem _ hx, related⟩

theorem mapM_eq_ok {f : α → Except ε β} {xs : List α} {ys : List β} (h : xs.mapM f = .ok ys)
    {x : α} (hx : x ∈ xs) : ∃ y ∈ ys, f x = .ok y :=
  exists_left_of_mem (mapM_eq_ok_iff.mp h).flip hx

/-- Going through a list succeeds exactly if every step does. -/
theorem mapM_succeeds_iff {f : α → Except ε β} {xs : List α} :
    (∃ ys, xs.mapM f = .ok ys) ↔ ∀ x ∈ xs, ∃ y, f x = .ok y := by
  constructor
  · rintro ⟨ys, h⟩ x hx
    obtain ⟨y, -, hy⟩ := mapM_eq_ok h hx
    exact ⟨y, hy⟩
  · intro h
    induction xs with
    | nil => exact ⟨[], rfl⟩
    | cons x xs ih =>
        obtain ⟨y, hy⟩ := h x (by simp)
        obtain ⟨ys, hys⟩ := ih fun z hz => h z (List.mem_cons_of_mem x hz)
        refine ⟨y :: ys, ?_⟩
        rw [List.mapM_cons, hy, hys]
        rfl

/-- Lists that are collected on the way are all empty together exactly if each is. -/
theorem mapM_flatten_eq_nil_iff {f : α → Except ε (List β)} {xs : List α} :
    (∃ yss, xs.mapM f = .ok yss ∧ yss.flatten = []) ↔ ∀ x ∈ xs, f x = .ok [] := by
  constructor
  · rintro ⟨yss, h, empty⟩ x hx
    obtain ⟨ys, hys, hf⟩ := mapM_eq_ok h hx
    rw [hf, List.flatten_eq_nil_iff.mp empty ys hys]
  · intro h
    induction xs with
    | nil => exact ⟨[], rfl, rfl⟩
    | cons x xs ih =>
        obtain ⟨yss, hyss, empty⟩ := ih fun z hz => h z (List.mem_cons_of_mem x hz)
        refine ⟨[] :: yss, ?_, empty⟩
        rw [List.mapM_cons, h x (by simp), hyss]
        rfl

/-- What is made of a result does not matter for whether there is one. -/
theorem bind_pure_succeeds_iff {x : Except ε α} {g : α → β} :
    (∃ b, (x >>= fun a => pure (g a)) = .ok b) ↔ ∃ a, x = .ok a := by
  cases x with
  | ok a => exact iff_of_true ⟨g a, rfl⟩ ⟨a, rfl⟩
  | error e =>
      constructor <;> rintro ⟨_, h⟩ <;> cases h

theorem bind_bind_pure_succeeds_iff {x : Except ε α} {y : Except ε β} {g : α → β → γ} :
    (∃ c, (x >>= fun a => y >>= fun b => pure (g a b)) = .ok c) ↔
      (∃ a, x = .ok a) ∧ ∃ b, y = .ok b := by
  cases x with
  | ok a =>
      rw [and_iff_right ⟨a, rfl⟩]
      exact bind_pure_succeeds_iff
  | error e => constructor <;> rintro ⟨_, h⟩ <;> simp_all [bind, Except.bind]

end WorkspaceLink
