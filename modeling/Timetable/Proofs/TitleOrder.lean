import Mathlib
import Timetable.Crontab
/-!
# Events in the order of their titles

The events of a crontab are sorted by their titles, and events with the same title stay in the
order in which they were. This leaves no choice: for each title the events that carry it are the
same as before, and events that are sorted by title are known from those of each title.

## Main definitions

- `Event.sortByTitle` — the events in the order of their titles

## Main statements

- `pairwise_mergeSort_key_of_pairwise` — items with the same title stay in order
- `Event.eq_of_filter_title` — sorted events are known from the events of each title
- `Event.map_title_sortByTitle` — sorted events have the sorted titles
-/

namespace Timetable

/-- The order of texts, as a comparison to sort by. -/
def titleLe (a b : String) : Bool :=
  a ≤ b

theorem titleLe_trans (a b c : String) (hab : titleLe a b = true) (hbc : titleLe b c = true) :
    titleLe a c = true :=
  decide_eq_true (String.le_trans (of_decide_eq_true hab) (of_decide_eq_true hbc))

theorem titleLe_total (a b : String) : (titleLe a b || titleLe b a) = true := by
  rw [Bool.or_eq_true, titleLe, titleLe, decide_eq_true_iff, decide_eq_true_iff]
  exact String.le_total a b

/-- Sorted texts do not depend on the order in which they were. -/
theorem mergeSort_titleLe_of_perm {titles titles' : List String} (h : titles.Perm titles') :
    titles.mergeSort titleLe = titles'.mergeSort titleLe := by
  have hperm : (titles.mergeSort titleLe).Perm (titles'.mergeSort titleLe) :=
    (List.mergeSort_perm titles titleLe).trans
      (h.trans (List.mergeSort_perm titles' titleLe).symm)
  refine List.Perm.eq_of_pairwise ?_ (List.pairwise_mergeSort titleLe_trans titleLe_total titles)
    (List.pairwise_mergeSort titleLe_trans titleLe_total titles') hperm
  intro a b _ _ hab hba
  exact String.le_antisymm (of_decide_eq_true hab) (of_decide_eq_true hba)

section
variable {α : Type} (key : α → String) (items : List α)

theorem pairwise_mergeSort_key :
    (items.mergeSort fun a b => titleLe (key a) (key b)).Pairwise fun a b => key a ≤ key b := by
  refine (List.pairwise_mergeSort ?_ ?_ items).imp fun h => of_decide_eq_true h
  · intro a b c
    exact titleLe_trans (key a) (key b) (key c)
  · intro a b
    exact titleLe_total (key a) (key b)

/-- Items with the same key stay in the order in which they were. -/
theorem filter_mergeSort_key (value : String) :
    (items.mergeSort fun a b => titleLe (key a) (key b)).filter (fun a => key a = value) =
      items.filter fun a => key a = value := by
  have hsame : (items.filter fun a => key a = value).Pairwise
      fun a b => titleLe (key a) (key b) = true := by
    rw [List.pairwise_filter]
    refine List.pairwise_of_forall fun a b ha hb => ?_
    rw [of_decide_eq_true ha, of_decide_eq_true hb]
    exact decide_eq_true (String.le_refl value)
  -- They are in order already, so that sorting keeps them as they follow each other.
  have hsublist : (items.filter fun a => key a = value).Sublist
      (items.mergeSort fun a b => titleLe (key a) (key b)) := by
    refine List.sublist_mergeSort ?_ ?_ hsame List.filter_sublist
    · intro a b c
      exact titleLe_trans (key a) (key b) (key c)
    · intro a b
      exact titleLe_total (key a) (key b)
  have hfilter := hsublist.filter fun a => decide (key a = value)
  rw [List.filter_filter] at hfilter
  simp only [Bool.and_self] at hfilter
  exact (hfilter.eq_of_length ((List.mergeSort_perm items _).filter _).length_eq.symm).symm

/-- An order that the items are in decides between those with the same key. -/
theorem pairwise_mergeSort_key_of_pairwise {R : α → α → Prop} (h : items.Pairwise R) :
    (items.mergeSort fun a b => titleLe (key a) (key b)).Pairwise
      fun a b => key a < key b ∨ key a = key b ∧ R a b := by
  rw [List.pairwise_iff_forall_sublist]
  intro a b hab
  have hle := List.pairwise_iff_forall_sublist.1 (pairwise_mergeSort_key key items) hab
  by_cases hkey : key a = key b
  · right
    refine ⟨hkey, ?_⟩
    -- Among the items with this key the two stand as they did before.
    have hfilter := hab.filter fun x => decide (key x = key b)
    have hboth : [a, b].filter (fun x => decide (key x = key b)) = [a, b] := by simp [hkey]
    rw [filter_mergeSort_key, hboth] at hfilter
    exact List.pairwise_iff_forall_sublist.1 h (hfilter.trans List.filter_sublist)
  · exact .inl (Std.lt_of_le_of_ne hle hkey)

end

namespace Event

/-- The events in the order of their titles, those with the same title in their own order. -/
def sortByTitle (events : List Event) : List Event :=
  events.mergeSort fun a b => titleLe a.title b.title

theorem sortByTitle_perm (events : List Event) : (sortByTitle events).Perm events :=
  List.mergeSort_perm _ _

theorem pairwise_sortByTitle (events : List Event) :
    (sortByTitle events).Pairwise fun a b => a.title ≤ b.title :=
  pairwise_mergeSort_key title events

theorem map_title_sortByTitle (events : List Event) :
    (sortByTitle events).map title = (events.map title).mergeSort titleLe :=
  List.map_mergeSort fun _ _ _ _ => rfl

/-- Events with the same title stay in the order in which they were. -/
theorem filter_sortByTitle (events : List Event) (title : String) :
    (sortByTitle events).filter (fun e => e.title = title) =
      events.filter fun e => e.title = title :=
  filter_mergeSort_key Event.title events title

theorem mem_iff_of_filter_title {events events' : List Event}
    (hsame : ∀ title : String, events.filter (fun e => e.title = title) =
      events'.filter fun e => e.title = title) (e : Event) : e ∈ events ↔ e ∈ events' := by
  have he := congrArg (e ∈ ·) (hsame e.title)
  simpa using he

/-- Sorted events are known from the events of each title: the first event has the least title,
and it is the first one with it. -/
theorem eq_of_filter_title {events events' : List Event}
    (h : events.Pairwise fun a b => a.title ≤ b.title)
    (h' : events'.Pairwise fun a b => a.title ≤ b.title)
    (hsame : ∀ title : String, events.filter (fun e => e.title = title) =
      events'.filter fun e => e.title = title) : events = events' := by
  induction events generalizing events' with
  | nil =>
    cases events' with
    | nil => rfl
    | cons b events' =>
      exact absurd ((mem_iff_of_filter_title hsame b).2 List.mem_cons_self) List.not_mem_nil
  | cons a events ih =>
    have hmem := mem_iff_of_filter_title hsame
    cases events' with
    | nil => exact absurd ((hmem a).1 List.mem_cons_self) List.not_mem_nil
    | cons b events' =>
      obtain ⟨hfirst, hlater⟩ := List.pairwise_cons.1 h
      obtain ⟨hfirst', hlater'⟩ := List.pairwise_cons.1 h'
      have hab : a.title ≤ b.title := by
        rcases List.mem_cons.1 ((hmem b).2 List.mem_cons_self) with rfl | hb
        · exact String.le_refl _
        · exact hfirst b hb
      have hba : b.title ≤ a.title := by
        rcases List.mem_cons.1 ((hmem a).1 List.mem_cons_self) with rfl | ha
        · exact String.le_refl _
        · exact hfirst' a ha
      have htitle : a.title = b.title := String.le_antisymm hab hba
      have hheads := hsame a.title
      rw [List.filter_cons_of_pos (by simp), List.filter_cons_of_pos (by simp [htitle]),
        List.cons.injEq] at hheads
      obtain ⟨rfl, -⟩ := hheads
      have hrest : ∀ title : String, events.filter (fun e => e.title = title) =
          events'.filter fun e => e.title = title := by
        intro title
        have htitles := hsame title
        by_cases hcase : a.title = title
        · simpa [List.filter_cons, hcase] using htitles
        · simpa [List.filter_cons, hcase] using htitles
      exact congrArg (a :: ·) (ih hlater hlater' hrest)

/-- Sorted events depend on nothing but the events of each title, in their order. -/
theorem sortByTitle_congr {events events' : List Event}
    (h : ∀ title : String, events.filter (fun e => e.title = title) =
      events'.filter fun e => e.title = title) : sortByTitle events = sortByTitle events' := by
  apply eq_of_filter_title (pairwise_sortByTitle events) (pairwise_sortByTitle events')
  intro title
  rw [filter_sortByTitle, filter_sortByTitle, h]

end Event

/-- A crontab shows the events of its jobs in the order of their titles. -/
theorem Crontab.events_eq (c : Crontab) :
    c.events = Event.sortByTitle (c.jobs.flatMap Job.events) :=
  rfl

end Timetable
