import Timetable.Json
/-!
# Attributes

A finite map from keys to JSON values. Its entries are kept in increasing order of their
keys, so that two maps with the same values at all keys are equal and print alike.

## Main definitions

- `Attributes` — entries in increasing order of keys
- `Attributes.get?` — the value at a key
- `Attributes.insert`, `Attributes.erase` — changes at one key
- `Attributes.merge` — two maps in one, the second winning
- `Attributes.ofList` — a map from members that may repeat a key, the last one winning
-/

namespace Timetable

/-- Entries in strictly increasing order of their keys. -/
def SortedByKey (entries : List (String × Json)) : Prop :=
  entries.Pairwise fun a b => a.1 < b.1

/-- A finite map from keys to values. -/
structure Attributes where
  entries : List (String × Json)
  sorted : SortedByKey entries

namespace Attributes

/-- Sets the value at a key in a sorted list of entries. -/
def insertEntry (key : String) (value : Json) : List (String × Json) → List (String × Json)
  | [] => [(key, value)]
  | entry :: later =>
    if key < entry.1 then (key, value) :: entry :: later
    else if key = entry.1 then (key, value) :: later
    else entry :: insertEntry key value later

theorem key_of_mem_insertEntry {key : String} {value : Json} {entries : List (String × Json)}
    {e : String × Json} (h : e ∈ insertEntry key value entries) :
    e.1 = key ∨ e ∈ entries := by
  induction entries with
  | nil => simp_all [insertEntry]
  | cons entry later ih =>
    unfold insertEntry at h
    split at h
    · rcases List.mem_cons.1 h with rfl | h
      · exact .inl rfl
      · exact .inr h
    · split at h
      · rcases List.mem_cons.1 h with rfl | h
        · exact .inl rfl
        · exact .inr (List.mem_cons_of_mem _ h)
      · rcases List.mem_cons.1 h with rfl | h
        · exact .inr List.mem_cons_self
        · exact (ih h).imp_right (List.mem_cons_of_mem _)

theorem sorted_insertEntry {key : String} {value : Json} {entries : List (String × Json)}
    (h : SortedByKey entries) : SortedByKey (insertEntry key value entries) := by
  induction entries with
  | nil => exact List.pairwise_singleton ..
  | cons entry later ih =>
    obtain ⟨first, rest⟩ := List.pairwise_cons.1 h
    unfold insertEntry
    split
    · rename_i before
      refine List.pairwise_cons.2 ⟨fun e he => ?_, h⟩
      rcases List.mem_cons.1 he with rfl | he
      · exact before
      · exact String.lt_trans before (first e he)
    · split
      · rename_i same
        exact List.pairwise_cons.2 ⟨fun e he => same ▸ first e he, rest⟩
      · rename_i notBefore notSame
        refine List.pairwise_cons.2 ⟨fun e he => ?_, ih rest⟩
        rcases key_of_mem_insertEntry he with same | he
        · rw [same]
          exact Decidable.byContradiction fun notAfter =>
            notSame (String.le_antisymm notAfter notBefore)
        · exact first e he

def empty : Attributes :=
  ⟨[], List.Pairwise.nil⟩

def get? (m : Attributes) (key : String) : Option Json :=
  (m.entries.find? (·.1 == key)).map Prod.snd

def insert (m : Attributes) (key : String) (value : Json) : Attributes :=
  ⟨insertEntry key value m.entries, sorted_insertEntry m.sorted⟩

def erase (m : Attributes) (key : String) : Attributes :=
  ⟨m.entries.filter (·.1 != key), m.sorted.filter _⟩

def eraseAll (m : Attributes) (keys : List String) : Attributes :=
  keys.foldl erase m

/-- Both maps in one. Where both have a key, the value is that of `later`. -/
def merge (m later : Attributes) : Attributes :=
  later.entries.foldl (fun m entry => m.insert entry.1 entry.2) m

/-- The map with these members. Of members with one key the last counts. -/
def ofList (members : List (String × Json)) : Attributes :=
  members.foldl (fun m member => m.insert member.1 member.2) empty

end Attributes

end Timetable
