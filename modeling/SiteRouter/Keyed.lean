/-!
# Named entries in order

A collection of values under distinct names that remembers the order in which the names first came.
Giving a name a new value leaves it where it is.
-/

namespace SiteRouter

/-- Values under distinct names, in the order in which the names were first given. -/
structure Keyed (α : Type) where
  entries : List (String × α)
  nodup : (entries.map Prod.fst).Nodup
  deriving DecidableEq

namespace Keyed

variable {α : Type}

/-- No entries. -/
def empty : Keyed α := ⟨[], by simp⟩

/-- The names, in order. -/
def keys (m : Keyed α) : List String := m.entries.map Prod.fst

/-- The values, in the order of their names. -/
def values (m : Keyed α) : List α := m.entries.map Prod.snd

/-- The value under a name. -/
def get? (m : Keyed α) (name : String) : Option α := m.entries.lookup name

/-- Is there a value under the name? -/
def contains (m : Keyed α) (name : String) : Bool := m.keys.contains name

/-- The value under a name is that of the one entry with the name. -/
theorem get?_eq_some_iff {m : Keyed α} {name : String} {value : α} :
    m.get? name = some value ↔ (name, value) ∈ m.entries := by
  rw [get?, List.lookup_eq_some_iff]
  constructor
  · rintro ⟨front, back, hentries, -⟩
    rw [hentries]
    exact List.mem_append_right _ (List.mem_cons_self ..)
  · intro h
    obtain ⟨front, back, hentries⟩ := List.append_of_mem h
    refine ⟨front, back, hentries, fun p hp => bne_iff_ne.mpr ?_⟩
    rintro rfl
    have hnodup := m.nodup
    rw [hentries, List.map_append, List.nodup_append] at hnodup
    exact hnodup.2.2 p.1 (List.mem_map.mpr ⟨p, hp, rfl⟩) p.1 (List.mem_cons_self ..) rfl

/-- There is a value under every name that has been given, and under no other. -/
theorem mem_keys_iff {m : Keyed α} {name : String} :
    name ∈ m.keys ↔ ∃ value, m.get? name = some value := by
  simp only [keys, List.mem_map, get?_eq_some_iff]
  constructor
  · rintro ⟨⟨_, value⟩, hmem, rfl⟩
    exact ⟨value, hmem⟩
  · rintro ⟨value, hmem⟩
    exact ⟨(name, value), hmem, rfl⟩

/-- The entries with the value of one name replaced. -/
def replaceIn (name : String) (value : α) (entries : List (String × α)) : List (String × α) :=
  entries.map fun (n, v) => if n = name then (n, value) else (n, v)

/-- Replacing a value keeps the names. -/
theorem map_fst_replaceIn (name : String) (value : α) (entries : List (String × α)) :
    (replaceIn name value entries).map Prod.fst = entries.map Prod.fst := by
  rw [replaceIn, List.map_map]
  apply List.map_congr_left
  rintro ⟨n, v⟩ -
  simp only [Function.comp]
  split <;> rfl

/-- Puts a value under a name, in its old place if the name has one and after all others if not. -/
def insert (m : Keyed α) (name : String) (value : α) : Keyed α :=
  if h : name ∈ m.keys then
    ⟨replaceIn name value m.entries, by rw [map_fst_replaceIn]; exact m.nodup⟩
  else
    ⟨m.entries ++ [(name, value)], by
      rw [List.map_append, List.nodup_append]
      refine ⟨m.nodup, by simp, ?_⟩
      intro a ha b hb hab
      simp only [List.map_cons, List.map_nil, List.mem_singleton] at hb
      subst hab hb
      exact h ha⟩

/-- Puts all the values in, one after the other. -/
def ofList (entries : List (String × α)) : Keyed α :=
  entries.foldl (fun m (name, value) => m.insert name value) empty

end Keyed

end SiteRouter
