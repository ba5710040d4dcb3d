/-!
# Conditions along a list

A pass over a list often looks at an item together with the items before it. `Along` asks a
condition on the two at every place of the list. It is read off a list item by item
(`along_cons`) or part by part (`along_append`, `along_flatMap`), and where the condition says how
an item stands to each one before it, it is a condition on all pairs (`along_pairwise`).

A pass that stops does so at the first item that gives it an answer. `FirstAnswer` is that answer,
where the answers of an item are given by a relation. Where a pass is stopped by what an item is,
whatever has been collected before it, looking for such an item and collecting can be told apart
(`foldlM_eq_of_refusal`).
-/

namespace SiteRouter

/-- Every item of the list stands in a relation with the items before it. -/
def Along {α : Type} (r : List α → α → Prop) (xs : List α) : Prop :=
  ∀ front x back, xs = front ++ x :: back → r front x

variable {α : Type} {r s : List α → α → Prop}

theorem along_nil : Along r [] := by
  intro front x back h
  exact absurd h (by simp)

theorem along_cons {x : α} {xs : List α} :
    Along r (x :: xs) ↔ r [] x ∧ Along (fun front y => r (x :: front) y) xs := by
  constructor
  · intro h
    refine ⟨h [] x xs rfl, ?_⟩
    rintro front y back rfl
    exact h (x :: front) y back rfl
  · rintro ⟨hx, hxs⟩ front y back h
    cases front with
    | nil =>
      obtain ⟨rfl, -⟩ := List.cons.inj h
      exact hx
    | cons z front =>
      obtain ⟨rfl, hsplit⟩ := List.cons.inj h
      exact hxs front y back hsplit

theorem along_append {xs ys : List α} :
    Along r (xs ++ ys) ↔ Along r xs ∧ Along (fun front y => r (xs ++ front) y) ys := by
  induction xs generalizing r with
  | nil => exact (and_iff_right along_nil).symm
  | cons x xs ih =>
    rw [List.cons_append, along_cons, along_cons, ih, and_assoc]
    rfl

/-- Lists that meet the condition behind anything meet it when they are joined. -/
theorem along_flatMap {β : Type} {f : β → List α} {xs : List β}
    (h : ∀ x ∈ xs, ∀ before, Along (fun front y => r (before ++ front) y) (f x)) :
    Along r (xs.flatMap f) := by
  induction xs generalizing r with
  | nil => exact along_nil
  | cons x xs ih =>
    rw [List.flatMap_cons, along_append]
    refine ⟨h x (List.mem_cons_self ..) [], ih ?_⟩
    intro y hy before
    simpa only [List.append_assoc] using h y (List.mem_cons_of_mem _ hy) (f x ++ before)

theorem along_congr {xs : List α} (h : ∀ front x, r front x ↔ s front x) :
    Along r xs ↔ Along s xs :=
  forall_congr' fun front => forall_congr' fun x => forall_congr' fun _ =>
    imp_congr_right fun _ => h front x

theorem along_and {xs : List α} :
    Along (fun front x => r front x ∧ s front x) xs ↔ Along r xs ∧ Along s xs := by
  constructor
  · intro h
    exact ⟨fun front x back hxs => (h front x back hxs).1,
      fun front x back hxs => (h front x back hxs).2⟩
  · rintro ⟨hr, hs⟩ front x back hxs
    exact ⟨hr front x back hxs, hs front x back hxs⟩

/-- A condition that does not look back is a condition on every item. -/
theorem along_const {p : α → Prop} {xs : List α} : Along (fun _ x => p x) xs ↔ ∀ x ∈ xs, p x := by
  induction xs with
  | nil => exact iff_of_true along_nil (by simp)
  | cons x xs ih => rw [along_cons, ih, List.forall_mem_cons]

/-- A condition between an item and each one before it is a condition on all pairs. -/
theorem along_pairwise {p : α → α → Prop} {xs : List α} :
    Along (fun front x => ∀ y ∈ front, p y x) xs ↔ xs.Pairwise p := by
  induction xs with
  | nil => exact iff_of_true along_nil List.Pairwise.nil
  | cons x xs ih =>
    simp only [along_cons, List.forall_mem_cons, along_and, along_const, ih, List.pairwise_cons]
    simp

/-- Differing from every item before it, in what `f` shows, is having no two items alike. -/
theorem along_nodup {β : Type} {f : α → β} {xs : List α} :
    Along (fun front x => ∀ y ∈ front, f y ≠ f x) xs ↔ (xs.map f).Nodup := by
  rw [along_pairwise, List.Nodup, List.pairwise_map]

/-! ## First answers -/

/-- An answer of the first item of the list that has one. -/
def FirstAnswer {β : Type} (answers : α → β → Prop) (xs : List α) (b : β) : Prop :=
  ∃ front x back, xs = front ++ x :: back ∧ answers x b ∧ ∀ y ∈ front, ∀ c, ¬answers y c

section Answers

variable {β : Type} {answers answers' : α → β → Prop} {xs : List α} {b : β}

theorem not_firstAnswer_nil : ¬FirstAnswer answers [] b := by
  rintro ⟨front, x, back, h, -⟩
  exact absurd h (by simp)

theorem firstAnswer_cons {x : α} : FirstAnswer answers (x :: xs) b ↔
    answers x b ∨ (∀ c, ¬answers x c) ∧ FirstAnswer answers xs b := by
  constructor
  · rintro ⟨front, y, back, h, hy, hfront⟩
    cases front with
    | nil =>
      obtain ⟨rfl, -⟩ := List.cons.inj h
      exact Or.inl hy
    | cons z front =>
      obtain ⟨rfl, hsplit⟩ := List.cons.inj h
      rw [List.forall_mem_cons] at hfront
      exact Or.inr ⟨hfront.1, front, y, back, hsplit, hy, hfront.2⟩
  · rintro (hx | ⟨hx, front, y, back, rfl, hy, hfront⟩)
    · exact ⟨[], x, xs, rfl, hx, by simp⟩
    · exact ⟨x :: front, y, back, rfl, hy, List.forall_mem_cons.mpr ⟨hx, hfront⟩⟩

theorem firstAnswer_congr (h : ∀ x ∈ xs, ∀ b, answers x b ↔ answers' x b) :
    FirstAnswer answers xs b ↔ FirstAnswer answers' xs b := by
  induction xs with
  | nil => exact iff_of_false not_firstAnswer_nil not_firstAnswer_nil
  | cons x xs ih =>
    rw [List.forall_mem_cons] at h
    simp only [firstAnswer_cons, h.1, ih h.2]

/-- Without a first answer there is none. -/
theorem forall_not_firstAnswer_iff :
    (∀ b, ¬FirstAnswer answers xs b) ↔ ∀ x ∈ xs, ∀ b, ¬answers x b := by
  induction xs with
  | nil => exact iff_of_true (fun b => not_firstAnswer_nil) (by simp)
  | cons x xs ih =>
    simp only [firstAnswer_cons, not_or, not_and, forall_and, List.forall_mem_cons]
    exact and_congr_right fun hx => (forall_congr' fun b => imp_iff_right hx).trans ih

theorem findSome?_eq_some_iff_firstAnswer {f : α → Option β} :
    xs.findSome? f = some b ↔ FirstAnswer (fun x b => f x = some b) xs b := by
  rw [List.findSome?_eq_some_iff]
  simp only [FirstAnswer, Option.eq_none_iff_forall_ne_some, ne_eq]

end Answers

/-! ## Refusals -/

/-- Collecting from items that may be refused is looking for the first one that is, and then
collecting from all of them. -/
theorem foldlM_eq_of_refusal {ε β : Type} {step : β → α → Except ε β} {refusal? : α → Option ε}
    {next : β → α → β} (h : ∀ b x, step b x = (refusal? x).elim (.ok (next b x)) .error)
    (b : β) (xs : List α) : xs.foldlM step b =
      (xs.findSome? refusal?).elim (.ok (xs.foldl next b)) .error := by
  induction xs generalizing b with
  | nil => rfl
  | cons x xs ih =>
    rw [List.foldlM_cons, h, List.findSome?_cons]
    cases refusal? x with
    | some e => rfl
    | none => exact ih (next b x)

section Elim

variable {ε β : Type} {refusal? : Option ε} {b c : β} {e : ε}

theorem elim_refusal_eq_ok :
    refusal?.elim (.ok b) .error = Except.ok c ↔ refusal? = none ∧ b = c := by
  cases refusal? <;> simp

theorem elim_refusal_eq_error :
    refusal?.elim (.ok b) .error = Except.error e ↔ refusal? = some e := by
  cases refusal? <;> simp

end Elim

end SiteRouter
