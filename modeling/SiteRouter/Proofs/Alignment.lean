import Mathlib.Data.List.Forall2
import SiteRouter.Proofs.Lines

/-!
# Scripts side by side

Two scripts that are written from almost the same things have almost the same lines, and the lines
that differ must not move the others. `Script.Aligned` says so of scripts: they have the same header
and sections of the same names, and of every two lines at one place that differ some relation holds.

`Script.Aligned.lines_of_write_eq_ok` reads this off the written texts, which are split at their
line feeds.
-/

namespace SiteRouter

/-! ## Lists -/

/-- The lists have the same length, and items at one index are equal or related. -/
def Aligned {α : Type} (R : α → α → Prop) (xs ys : List α) : Prop :=
  List.Forall₂ (fun x y => x = y ∨ R x y) xs ys

namespace Aligned

variable {α β : Type} {R : α → α → Prop} {S : β → β → Prop} {xs ys xs' ys' : List α} {x y : α}

theorem refl (xs : List α) : Aligned R xs xs := List.forall₂_same.mpr fun _ _ => .inl rfl

theorem singleton (h : R x y) : Aligned R [x] [y] := .cons (.inr h) .nil

theorem append (h : Aligned R xs ys) (h' : Aligned R xs' ys') :
    Aligned R (xs ++ xs') (ys ++ ys') := List.rel_append h h'

theorem map {f g : α → β} (hsame : ∀ x ∈ xs, f x = g x)
    (hrelated : ∀ x y, R x y → S (f x) (g y)) (h : Aligned R xs ys) :
    Aligned S (xs.map f) (ys.map g) := by
  induction h with
  | nil => exact .nil
  | cons h _ ih =>
    rw [List.forall_mem_cons] at hsame
    refine .cons ?_ (ih hsame.2)
    rcases h with rfl | h
    · exact .inl hsame.1
    · exact .inr (hrelated _ _ h)

theorem length_eq (h : Aligned R xs ys) : xs.length = ys.length := List.Forall₂.length_eq h

/-- Items at one index that differ are related. -/
theorem of_getElem? (h : Aligned R xs ys) {k : Nat} (hx : xs[k]? = some x) (hy : ys[k]? = some y)
    (hne : x ≠ y) : R x y := by
  obtain ⟨hkx, rfl⟩ := List.getElem?_eq_some_iff.mp hx
  obtain ⟨hky, rfl⟩ := List.getElem?_eq_some_iff.mp hy
  exact (List.Forall₂.get h hkx hky).resolve_left hne

end Aligned

/-! ## Scripts -/

namespace Script

/-- The sections have the same name, and lines at one place are equal or related. -/
structure Section.Aligned (R : Line → Line → Prop) (a b : Section) : Prop where
  name_eq : a.name = b.name
  lines : SiteRouter.Aligned R a.lines b.lines

/-- The scripts have the same header and sections that are aligned one by one. -/
structure Aligned (R : Line → Line → Prop) (a b : Script) : Prop where
  header_eq : a.header = b.header
  sections : List.Forall₂ (Section.Aligned R) a.sections b.sections

variable {R : Line → Line → Prop}

/-- The relation between two lines, of their texts. -/
def OfTexts (R : Line → Line → Prop) (x y : String) : Prop :=
  ∃ l m, R l m ∧ x = l.render ∧ y = m.render

theorem Section.Aligned.refl (sec : Section) : Section.Aligned R sec sec := ⟨rfl, .refl _⟩

theorem Section.Aligned.texts {a b : Section} (h : Section.Aligned R a b) :
    SiteRouter.Aligned (OfTexts R) a.texts b.texts := by
  rw [Section.texts, Section.texts, h.name_eq]
  exact .cons (.inl rfl) (h.lines.map (fun _ _ => rfl) fun l m hlm => ⟨l, m, hlm, rfl, rfl⟩)

theorem Aligned.lines {a b : Script} (h : a.Aligned R b) :
    SiteRouter.Aligned (OfTexts R) a.lines b.lines := by
  rw [Script.lines, Script.lines, h.header_eq]
  exact (SiteRouter.Aligned.refl _).append
    (List.rel_flatMap h.sections fun _ _ hsection => hsection.texts)

/-- Aligned scripts are written as texts with as many lines, and lines at one place that differ are
the texts of related lines. -/
theorem Aligned.lines_of_write_eq_ok {a b : Script} (h : a.Aligned R b) {text text' : String}
    (ha : a.write = .ok text) (hb : b.write = .ok text') :
    (Text.fieldsAt '\n' text.toList).length = (Text.fieldsAt '\n' text'.toList).length ∧
      ∀ (k : Nat) x y, (Text.fieldsAt '\n' text.toList)[k]? = some x →
        (Text.fieldsAt '\n' text'.toList)[k]? = some y → x ≠ y →
          ∃ l m, R l m ∧ x = l.render.toList ∧ y = m.render.toList := by
  have hfields : SiteRouter.Aligned
      (fun x y => ∃ l m, R l m ∧ x = l.render.toList ∧ y = m.render.toList)
      (Text.fieldsAt '\n' text.toList) (Text.fieldsAt '\n' text'.toList) := by
    rw [fieldsAt_of_write_eq_ok ha, fieldsAt_of_write_eq_ok hb]
    refine (h.lines.map (fun _ _ => rfl) ?_).append (.refl _)
    rintro _ _ ⟨l, m, hlm, rfl, rfl⟩
    exact ⟨l, m, hlm, rfl, rfl⟩
  exact ⟨hfields.length_eq, fun k x y hx hy hne => hfields.of_getElem? hx hy hne⟩

end Script

end SiteRouter
