import Mathlib.Data.List.Nodup
import SiteRouter.Document.Record

/-!
# Records read back

What the readers of documents make of values that have been written out. A table without repeated
names gives every field as it was written (`fields?_table`), a list gives its items (`listOf_map`),
and a table with free names gives its entries in their order (`keyedOf_map`), because entering
distinct names one after the other keeps them in order (`Keyed.ofList_entries`).
-/

namespace SiteRouter

namespace Keyed

variable {α : Type}

theorem entries_injective {m m' : Keyed α} (h : m.entries = m'.entries) : m = m' := by
  cases m
  cases m'
  congr

/-- A new name comes behind all others. -/
theorem entries_insert_of_not_mem {m : Keyed α} {name : String} (value : α)
    (h : name ∉ m.keys) :
    (m.insert name value).entries = m.entries ++ [(name, value)] := by
  rw [insert, dif_neg h]

/-- Entries with distinct names keep their order when they are put in one after the other. -/
theorem ofList_entries (m : Keyed α) : ofList m.entries = m := by
  have hfold : ∀ (entries : List (String × α)) (front : Keyed α),
      (front.entries.map Prod.fst ++ entries.map Prod.fst).Nodup →
        (entries.foldl (fun m e => m.insert e.1 e.2) front).entries = front.entries ++ entries := by
    intro entries
    induction entries with
    | nil => exact fun front _ => (List.append_nil _).symm
    | cons e entries ih =>
      intro front hnodup
      obtain ⟨name, value⟩ := e
      have hnew : name ∉ front.keys := by
        intro hmem
        rw [List.nodup_append] at hnodup
        exact hnodup.2.2 name hmem name (List.mem_cons_self ..) rfl
      have hinsert := entries_insert_of_not_mem value hnew
      rw [List.foldl_cons, ih, hinsert, List.append_assoc, List.singleton_append]
      rw [hinsert, List.map_append, List.append_assoc]
      exact hnodup
  exact entries_injective (hfold m.entries empty m.nodup)

end Keyed

namespace Document

variable {α : Type}

/-! ## Tables -/

/-- A table in which no name is repeated is a record, whatever the names of the record are. -/
theorem fields?_table (format : Format) (names : List String) {entries : List (String × Value)}
    (h : (entries.map Prod.fst).Nodup) :
    fields? format names (.table entries) = some fun name => entries.lookup name := by
  have honce : atMostOnce names entries = true := by
    refine List.all_eq_true.mpr fun name _ => decide_eq_true ?_
    have hcount : entries.countP (·.1 == name) = (entries.map Prod.fst).count name := by
      rw [List.count, List.countP_map]
      rfl
    rw [hcount]
    exact List.nodup_iff_count_le_one.mp h name
  show (if atMostOnce names entries then some fun name => entries.lookup name else none) = _
  rw [if_pos honce]

/-! ## Fields

A record is decoded field by field. One step of this is one of the three lemmas: the field is there,
it is read as some value, and the rest goes on from that value. -/

section Steps

variable {β : Type} {f : Fields} {name : String} {v : Value} {decode : Value → Option α} {a : α}
  {b : β}

theorem fields?_bind {format : Format} {names : List String} {entries : List (String × Value)}
    {rest : Fields → Option β} (h : (entries.map Prod.fst).Nodup)
    (hrest : rest (fun name => entries.lookup name) = some b) :
    (fields? format names (.table entries) >>= rest) = some b := by
  rw [fields?_table format names h]
  exact hrest

theorem required_bind {rest : α → Option β} (hv : f name = some v) (ha : decode v = some a)
    (hrest : rest a = some b) : (f.required name decode >>= rest) = some b := by
  rw [Fields.required, hv, Option.bind_some, ha]
  exact hrest

theorem optional_bind {default : α} {rest : α → Option β} (hv : f name = some v)
    (ha : decode v = some a) (hrest : rest a = some b) :
    (f.optional name default decode >>= rest) = some b := by
  rw [Fields.optional, hv]
  show (decode v >>= rest) = some b
  rw [ha]
  exact hrest

end Steps

/-! ## Single values -/

theorem written_text {ofString? : String → Option α} {render : α → String}
    (h : ∀ a, ofString? (render a) = some a) (a : α) :
    written ofString? (.text (render a)) = some a := h a

/-! ## Lists and free names -/

/-- What has been written item by item is read item by item. -/
theorem mapM_map {β : Type} {read : β → Option α} {write : α → β}
    (h : ∀ a, read (write a) = some a) (xs : List α) : (xs.map write).mapM read = some xs := by
  induction xs with
  | nil => rfl
  | cons x xs ih =>
    rw [List.map_cons, List.mapM_cons, h, ih]
    rfl

section Encoded

variable {decode : Value → Option α} {encode : α → Value} (h : ∀ a, decode (encode a) = some a)

include h

theorem listOf_map (xs : List α) : listOf decode (.list (xs.map encode)) = some xs :=
  mapM_map h xs

theorem keyedOf_map (m : Keyed α) :
    keyedOf decode (.table (m.entries.map fun e => (e.1, encode e.2))) = some m := by
  have hentries : (m.entries.map fun e => (e.1, encode e.2)).mapM
      (fun e => (decode e.2).map (e.1, ·)) = some m.entries := by
    refine mapM_map (fun e => ?_) m.entries
    rw [h, Option.map_some]
  have hkeyed : (some m.entries).bind (fun entries => some (Keyed.ofList entries)) = some m := by
    rw [Option.bind_some, Keyed.ofList_entries]
  rw [← hentries] at hkeyed
  exact hkeyed

end Encoded

end Document

end SiteRouter
