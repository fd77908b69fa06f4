import Mathlib
import Timetable.Attributes
import Timetable.Proofs.KeyedLists
/-!
# Values at keys

What is at a key of a map after each change to the map. A map is known from the values at all
keys, since its entries are in the order of their keys.

## Main statements

- `Attributes.ext_get?` — maps with the same values at all keys
- `Attributes.get?_insert`, `Attributes.get?_eraseAll`, `Attributes.get?_merge` — values after
  a change
- `Attributes.get?_ofList` — values in a map made of members
-/

namespace Timetable

namespace Attributes

variable (m : Attributes) (key : String)

theorem get?_eq_lookup : m.get? key = m.entries.lookup key := by
  rw [get?]
  induction m.entries with
  | nil => rfl
  | cons entry later ih =>
    rw [List.lookup_cons, List.find?_cons, BEq.comm]
    split
    · simp_all
    · simp_all

theorem nodup_keys : (m.entries.map Prod.fst).Nodup :=
  List.pairwise_map.2 (m.sorted.imp fun h => String.ne_of_lt h)

variable {m key}

theorem get?_eq_some_iff {value : Json} : m.get? key = some value ↔ (key, value) ∈ m.entries := by
  rw [get?_eq_lookup, lookup_eq_some_iff_of_nodup m.nodup_keys]

/-- The entries are in the order of their keys, so that only the values at the keys count. -/
theorem ext_get? {m n : Attributes} (h : ∀ key, m.get? key = n.get? key) : m = n := by
  have hmem : ∀ entry, entry ∈ m.entries ↔ entry ∈ n.entries := by
    rintro ⟨key, value⟩
    rw [← get?_eq_some_iff, ← get?_eq_some_iff, h key]
  have hperm : m.entries.Perm n.entries :=
    (List.perm_ext_iff_of_nodup m.nodup_keys.of_map n.nodup_keys.of_map).2 hmem
  have hentries : m.entries = n.entries :=
    hperm.eq_of_pairwise (fun _ _ _ _ hab hba => absurd hba (String.lt_asymm hab))
      m.sorted n.sorted
  cases m
  cases n
  cases hentries
  rfl

/-! ## Changes -/

@[simp]
theorem get?_empty (key : String) : empty.get? key = none := rfl

theorem lookup_insertEntry (key : String) (value : Json) (entries : List (String × Json))
    (other : String) :
    (insertEntry key value entries).lookup other =
      if other = key then some value else entries.lookup other := by
  induction entries with
  | nil => exact lookup_cons_eq_ite _
  | cons entry later ih =>
    rw [insertEntry]
    split
    · exact lookup_cons_eq_ite _
    · split
      · rename_i hsame
        -- The new value hides the old one.
        rw [lookup_cons_eq_ite, lookup_cons_eq_ite, ← hsame]
        by_cases hother : other = key <;> simp [hother]
      · rename_i hdifferent
        rw [lookup_cons_eq_ite, lookup_cons_eq_ite, ih]
        by_cases hother : other = key
        · simp [hother, hdifferent]
        · simp [hother]

theorem get?_insert (m : Attributes) (key : String) (value : Json) (other : String) :
    (m.insert key value).get? other = if other = key then some value else m.get? other := by
  rw [get?_eq_lookup, get?_eq_lookup]
  exact lookup_insertEntry key value m.entries other

theorem get?_erase (m : Attributes) (key other : String) :
    (m.erase key).get? other = if other = key then none else m.get? other := by
  rw [get?_eq_lookup, get?_eq_lookup]
  exact lookup_filter_of_ne fun _ => bne_iff_ne

theorem get?_eraseAll (m : Attributes) (keys : List String) (key : String) :
    (m.eraseAll keys).get? key = if key ∈ keys then none else m.get? key := by
  rw [eraseAll]
  induction keys generalizing m with
  | nil => simp
  | cons first later ih =>
    rw [List.foldl_cons, ih, get?_erase]
    by_cases hlater : key ∈ later
    · simp [hlater]
    · simp [hlater]

/-- Members that are added one after the other: the last one with a key counts. -/
theorem get?_foldl_insert (m : Attributes) (members : List (String × Json)) (key : String) :
    (members.foldl (fun m member => m.insert member.1 member.2) m).get? key =
      (members.reverse.lookup key).or (m.get? key) := by
  induction members generalizing m with
  | nil => rfl
  | cons member later ih =>
    rw [List.foldl_cons, ih, get?_insert, List.reverse_cons, List.lookup_append, Option.or_assoc,
      lookup_cons_eq_ite]
    by_cases hkey : key = member.1 <;> simp [hkey]

/-- Of members with one key the last counts. -/
theorem get?_ofList (members : List (String × Json)) (key : String) :
    (ofList members).get? key = members.reverse.lookup key := by
  rw [ofList, get?_foldl_insert, get?_empty, Option.or_none]

theorem get?_merge (m later : Attributes) (key : String) :
    (m.merge later).get? key = (later.get? key).or (m.get? key) := by
  rw [merge, get?_foldl_insert, get?_eq_lookup later,
    lookup_eq_of_perm later.entries.reverse_perm.symm later.nodup_keys]

end Attributes

end Timetable
