import Mathlib
/-!
# Lists of members with keys

What is found at a key of a list whose members are pairs of a key and a value. The first member
with a key counts.

## Main statements

- `lookup_eq_some_iff_of_nodup` — members with distinct keys are found by their keys
- `lookup_eq_of_perm` — the order of members with distinct keys does not count
- `lookup_filter_of_ne` — members without a key
-/

namespace Timetable

variable {κ β : Type} [BEq κ] [LawfulBEq κ] {members : List (κ × β)} {key : κ}

theorem lookup_eq_none_iff_notMem : members.lookup key = none ↔ key ∉ members.map Prod.fst := by
  rw [List.lookup_eq_none_iff, List.mem_map]
  constructor
  · rintro h ⟨member, hmem, rfl⟩
    exact bne_iff_ne.1 (h member hmem) rfl
  · intro h member hmem
    exact bne_iff_ne.2 fun hkey => h ⟨member, hmem, hkey.symm⟩

variable [DecidableEq κ]

theorem lookup_cons_eq_ite (member : κ × β) :
    (member :: members).lookup key =
      if key = member.1 then some member.2 else members.lookup key := by
  rw [List.lookup_cons]
  split
  · rename_i hkey
    rw [if_pos (beq_iff_eq.1 hkey)]
  · rename_i hkey
    rw [if_neg (beq_eq_false_iff_ne.1 hkey)]

/-- A key that stands only once leads to the value beside it. -/
theorem lookup_eq_some_iff_of_nodup (h : (members.map Prod.fst).Nodup) {value : β} :
    members.lookup key = some value ↔ (key, value) ∈ members := by
  induction members with
  | nil => simp
  | cons member later ih =>
    obtain ⟨k, v⟩ := member
    rw [List.map_cons, List.nodup_cons] at h
    obtain ⟨hfirst, hlater⟩ := h
    rw [lookup_cons_eq_ite, List.mem_cons, Prod.mk.injEq, ← ih hlater]
    by_cases hkey : key = k
    · subst hkey
      have habsent : (key, value) ∉ later := fun hmem => hfirst (List.mem_map.2 ⟨_, hmem, rfl⟩)
      simp [ih hlater, habsent, eq_comm]
    · simp [hkey]

/-- If no key stands twice, the order of the members does not count. -/
theorem lookup_eq_of_perm {members' : List (κ × β)} (hperm : members.Perm members')
    (h : (members.map Prod.fst).Nodup) : members.lookup key = members'.lookup key := by
  have h' : (members'.map Prod.fst).Nodup := (hperm.map Prod.fst).nodup_iff.1 h
  apply Option.ext
  intro value
  rw [lookup_eq_some_iff_of_nodup h, lookup_eq_some_iff_of_nodup h', hperm.mem_iff]

/-- A filter that drops the members with one key changes what is found there and nowhere else. -/
theorem lookup_filter_of_ne {p : κ × β → Bool} {dropped : κ}
    (hp : ∀ member, p member = true ↔ member.1 ≠ dropped) :
    (members.filter p).lookup key = if key = dropped then none else members.lookup key := by
  induction members with
  | nil => simp
  | cons member later ih =>
    rw [lookup_cons_eq_ite]
    by_cases hmember : member.1 = dropped
    · rw [List.filter_cons_of_neg (fun h => (hp member).1 h hmember), ih, hmember]
      by_cases hkey : key = dropped <;> simp [hkey]
    · rw [List.filter_cons_of_pos ((hp member).2 hmember), lookup_cons_eq_ite, ih]
      by_cases hkey : key = dropped
      · simp [hkey, Ne.symm hmember]
      · simp [hkey]

end Timetable
