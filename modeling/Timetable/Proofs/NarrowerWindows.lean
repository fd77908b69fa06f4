import Mathlib
import Timetable.Proofs.Chronology
/-!
# Narrower windows

A narrower window has the occurrences of a wider one that it contains, in the order in which the
wider one has them. Years that it does not touch have no occurrences in it, so that looking
through more years changes nothing, and within a year it keeps a minute exactly if it contains
it. If a window is cut between two minutes, its occurrences are those of its two parts.

## Main definitions

- `Window.Within` — a window inside another one
- `Window.IsCut` — a window and its two parts

## Main statements

- `Schedule.filter_fires_candidates` — more years, the same occurrences
- `occurrences_within` — narrower windows, and windows that are cut in two
-/

namespace Timetable

namespace Window

/-- The window `v` lies inside `w`. -/
structure Within (v w : Window) : Prop where
  earliest : w.earliest ≤ v.earliest
  latest : v.latest ≤ w.latest

/-- The window `w` is cut after a minute: `first` ends with it, and `second` begins with the
next one. -/
structure IsCut (w first second : Window) : Prop where
  earliest : first.earliest = w.earliest
  next : second.earliest = first.latest.next
  latest : second.latest = w.latest

theorem Within.contains {v w : Window} (h : v.Within w) {t : Moment}
    (ht : v.contains t = true) : w.contains t = true := by
  obtain ⟨hearliest, hlatest⟩ := v.contains_iff.1 ht
  exact w.contains_iff.2 ⟨le_trans h.earliest hearliest, le_trans hlatest h.latest⟩

theorem Within.mem_years {v w : Window} (h : v.Within w) {year : Int} (hyear : year ∈ v.years) :
    year ∈ w.years := by
  obtain ⟨hearliest, hlatest⟩ := v.mem_years.1 hyear
  exact w.mem_years.2 ⟨Int.le_trans (Moment.year_le_of_le h.earliest) hearliest,
    Int.le_trans hlatest (Moment.year_le_of_le h.latest)⟩

namespace IsCut

variable {w first second : Window} (h : w.IsCut first second)

include h

/-- The two parts follow each other without a gap. -/
theorem minuteNumber_eq :
    second.earliest.minuteNumber = first.latest.minuteNumber + 1 := by
  rw [h.next, Moment.minuteNumber_next]

theorem within_first : first.Within w := by
  refine ⟨h.earliest.ge, ?_⟩
  have hparts := h.minuteNumber_eq
  have hsecond := second.minuteNumber_earliest_le
  rw [← h.latest, Moment.le_iff_minuteNumber_le first.floor_latest second.floor_latest]
  omega

theorem within_second : second.Within w := by
  refine ⟨?_, h.latest.le⟩
  have hparts := h.minuteNumber_eq
  have hfirst := first.minuteNumber_earliest_le
  rw [← h.earliest, Moment.le_iff_minuteNumber_le first.floor_earliest second.floor_earliest]
  omega

/-- A minute of the window lies in the first part up to the end of that part. -/
theorem contains_first {t : Moment} (ht : w.contains t = true) :
    first.contains t = decide (t ≤ first.latest) := by
  obtain ⟨hearliest, -⟩ := w.contains_iff.1 ht
  rw [← h.earliest] at hearliest
  rw [Bool.eq_iff_iff, first.contains_iff, decide_eq_true_iff]
  exact ⟨And.right, fun hlatest => ⟨hearliest, hlatest⟩⟩

/-- All other minutes of the window lie in the second part. -/
theorem contains_second {t : Moment} (hfloor : t.floor = t) (ht : w.contains t = true) :
    second.contains t = !decide (t ≤ first.latest) := by
  have hparts := h.minuteNumber_eq
  obtain ⟨-, hlatest⟩ := w.contains_iff.1 ht
  rw [← h.latest] at hlatest
  rw [Bool.eq_iff_iff, second.contains_iff, Bool.not_eq_true', decide_eq_false_iff_not,
    Moment.le_iff_minuteNumber_le hfloor first.floor_latest,
    Moment.le_iff_minuteNumber_le second.floor_earliest hfloor]
  constructor
  · rintro ⟨hearliest, -⟩
    omega
  · intro hafter
    exact ⟨by omega, hlatest⟩

end IsCut

end Window

/-! ## More years -/

/-- A year that the window does not touch has no minute that fires in it. -/
theorem Schedule.filter_fires_eq_nil (s : Schedule) {v : Window} {year : Int}
    (h : year ∉ v.years) :
    ((s.datesIn year).flatMap s.momentsOn).filter (s.fires v) = [] := by
  rw [List.filter_eq_nil_iff]
  intro t ht hfires
  obtain ⟨date, hdate, ht⟩ := List.mem_flatMap.1 ht
  obtain ⟨rfl, -⟩ := s.mem_momentsOn.1 ht
  obtain ⟨rfl, -⟩ := s.mem_datesIn.1 hdate
  exact h (v.year_mem_years ((s.fires_iff v).1 hfires).1)

/-- The candidates of more years than the window touches give no other occurrences. -/
theorem Schedule.filter_fires_candidates (s : Schedule) {v : Window} {years : List Int}
    (hyears : years.Pairwise (· < ·)) (hsub : ∀ year ∈ v.years, year ∈ years) :
    (s.candidates years).filter (s.fires v) = occurrences s v := by
  have htouched : v.years = years.filter (· ∈ v.years) := by
    apply v.pairwise_years.eq_of_mem_iff (hyears.filter _)
    intro year
    rw [List.mem_filter, decide_eq_true_iff]
    exact ⟨fun hyear => ⟨hsub year hyear, hyear⟩, And.right⟩
  rw [occurrences_eq_filter, candidates, candidates, List.filter_flatMap, List.filter_flatMap]
  conv_rhs => rw [htouched, flatMap_filter_eq]
  apply List.flatMap_congr
  intro year _
  by_cases hyear : year ∈ v.years
  · rw [if_pos (decide_eq_true hyear)]
  · rw [if_neg (by simpa using hyear), s.filter_fires_eq_nil hyear]

theorem occurrences_eq_filter_contains (s : Schedule) {v w : Window} (h : v.Within w) :
    occurrences s v = (occurrences s w).filter v.contains := by
  rw [← s.filter_fires_candidates w.pairwise_years fun year => h.mem_years,
    occurrences_eq_filter s w, List.filter_filter]
  apply List.filter_congr
  intro t _
  rw [Schedule.fires, Schedule.fires]
  by_cases hcontains : v.contains t = true
  · rw [hcontains, h.contains hcontains, Bool.true_and, Bool.true_and]
  · rw [Bool.eq_false_iff.2 hcontains, Bool.false_and, Bool.false_and]

/-! ## Windows that are cut in two -/

namespace Window.IsCut

variable {w first second : Window} (h : w.IsCut first second) (s : Schedule)

include h

theorem occurrences_first :
    occurrences s first = (occurrences s w).filter fun t => t ≤ first.latest := by
  rw [occurrences_eq_filter_contains s h.within_first]
  apply List.filter_congr
  intro t ht
  exact h.contains_first (mem_occurrences.1 ht).2.1

theorem occurrences_second :
    occurrences s second = (occurrences s w).filter fun t => !decide (t ≤ first.latest) := by
  rw [occurrences_eq_filter_contains s h.within_second]
  apply List.filter_congr
  intro t ht
  exact h.contains_second (mem_occurrences.1 ht).1 (mem_occurrences.1 ht).2.1

theorem occurrences_perm :
    (occurrences s first ++ occurrences s second).Perm (occurrences s w) := by
  rw [h.occurrences_first s, h.occurrences_second s]
  exact List.filter_append_perm _ _

/-- No minute is in both parts. -/
theorem disjoint_occurrences : (occurrences s first).Disjoint (occurrences s second) := by
  intro t hfirst hsecond
  rw [h.occurrences_first s, List.mem_filter] at hfirst
  rw [h.occurrences_second s, List.mem_filter, hfirst.2] at hsecond
  cases hsecond.2

/-- In the order of time the occurrences of the first part come first. -/
theorem occurrences_append (hascending : s.Ascending) :
    occurrences s w = occurrences s first ++ occurrences s second := by
  have hparts : (occurrences s first ++ occurrences s second).Pairwise (· < ·) := by
    rw [List.pairwise_append]
    refine ⟨hascending.pairwise_occurrences first, hascending.pairwise_occurrences second, ?_⟩
    intro a ha b hb
    have hnumbers := h.minuteNumber_eq
    obtain ⟨hfa, hca, -⟩ := mem_occurrences.1 ha
    obtain ⟨hfb, hcb, -⟩ := mem_occurrences.1 hb
    have hlatest := ((first.contains_iff_minuteNumber hfa).1 hca).2
    have hearliest := ((second.contains_iff_minuteNumber hfb).1 hcb).1
    rw [Moment.lt_iff_minuteNumber_lt hfa hfb]
    omega
  apply List.Pairwise.eq_of_mem_iff (hascending.pairwise_occurrences w) hparts
  intro t
  exact (h.occurrences_perm s).mem_iff.symm

end Window.IsCut

/-- The occurrences in a narrower window are those in the wider one that it contains, in the
same order and as often. If a window is cut after one of its minutes, each of its occurrences is
one of the first part or of the second, none is lost and none is in both, and for a schedule in
the order of time those of the first part come first. -/
theorem occurrences_within (s : Schedule) (w : Window) :
    (∀ v : Window, w.earliest ≤ v.earliest → v.latest ≤ w.latest →
      occurrences s v = (occurrences s w).filter v.contains) ∧
      ∀ first second : Window, first.earliest = w.earliest →
        second.earliest = first.latest.next → second.latest = w.latest →
          occurrences s first = (occurrences s w).filter (fun t => t ≤ first.latest) ∧
            occurrences s second =
              (occurrences s w).filter (fun t => !decide (t ≤ first.latest)) ∧
            (occurrences s first ++ occurrences s second).Perm (occurrences s w) ∧
            (occurrences s first).Disjoint (occurrences s second) ∧
            (s.Ascending → occurrences s w = occurrences s first ++ occurrences s second) := by
  refine ⟨?_, ?_⟩
  · intro v hearliest hlatest
    exact occurrences_eq_filter_contains s ⟨hearliest, hlatest⟩
  · intro first second hearliest hnext hlatest
    have hcut : w.IsCut first second := ⟨hearliest, hnext, hlatest⟩
    exact ⟨hcut.occurrences_first s, hcut.occurrences_second s, hcut.occurrences_perm s,
      hcut.disjoint_occurrences s, hcut.occurrences_append s⟩

/-- The night of a new year, cut at midnight, for a schedule whose lists are in no order. -/
theorem occurrences_within_new_year :
    ∃ (s : Schedule) (w first second : Window),
      Schedule.parse "30,0,75,0 1,0,23 1,31 12,1 *" = .ok s ∧
        Window.parse "2011-12-31 23:15" "2012-01-01 01:00" = .ok w ∧
        Window.parse "2011-12-31 23:15" "2011-12-31 23:59" = .ok first ∧
        Window.parse "2012-01-01 00:00" "2012-01-01 01:00" = .ok second ∧
        (occurrences s w).map Moment.minuteText =
          ["2011-12-31 23:30", "2012-01-01 01:00", "2012-01-01 01:00", "2012-01-01 00:30",
            "2012-01-01 00:00", "2012-01-01 00:00"] ∧
        w.earliest ≤ second.earliest ∧ second.latest ≤ w.latest ∧
        occurrences s second = (occurrences s w).filter second.contains ∧
        first.earliest = w.earliest ∧ second.earliest = first.latest.next ∧
        second.latest = w.latest ∧
        (occurrences s first ++ occurrences s second).Perm (occurrences s w) ∧
        (occurrences s first).Disjoint (occurrences s second) := by
  let s : Schedule :=
    { minute := ⟨[30, 0, 75, 0]⟩, hour := ⟨[1, 0, 23]⟩, day := ⟨[1, 31]⟩, month := ⟨[12, 1]⟩,
      weekday := .full .weekday, command := "" }
  let w : Window :=
    ⟨⟨⟨2011, 12, 31, by decide⟩, 23, 15, 0, 0, by decide⟩,
      ⟨⟨2012, 1, 1, by decide⟩, 1, 0, 0, 0, by decide⟩,
      _, _, rfl, rfl, by decide, by decide, by decide, rfl, rfl⟩
  let first : Window :=
    ⟨⟨⟨2011, 12, 31, by decide⟩, 23, 15, 0, 0, by decide⟩,
      ⟨⟨2011, 12, 31, by decide⟩, 23, 59, 0, 0, by decide⟩,
      _, _, rfl, rfl, by decide, by decide, by decide, rfl, rfl⟩
  let second : Window :=
    ⟨⟨⟨2012, 1, 1, by decide⟩, 0, 0, 0, 0, by decide⟩,
      ⟨⟨2012, 1, 1, by decide⟩, 1, 0, 0, 0, by decide⟩,
      _, _, rfl, rfl, by decide, by decide, by decide, rfl, rfl⟩
  have hs : Schedule.parse "30,0,75,0 1,0,23 1,31 12,1 *" = .ok s := by rfl
  have hw : Window.parse "2011-12-31 23:15" "2012-01-01 01:00" = .ok w := by rfl
  have hfirst : Window.parse "2011-12-31 23:15" "2011-12-31 23:59" = .ok first := by rfl
  have hsecond : Window.parse "2012-01-01 00:00" "2012-01-01 01:00" = .ok second := by rfl
  have htimes : (occurrences s w).map Moment.minuteText =
      ["2011-12-31 23:30", "2012-01-01 01:00", "2012-01-01 01:00", "2012-01-01 00:30",
        "2012-01-01 00:00", "2012-01-01 00:00"] := by decide
  have hearliest : w.earliest ≤ second.earliest := by decide
  have hlatest : second.latest ≤ w.latest := by decide
  obtain ⟨hnarrower, hcut⟩ := occurrences_within s w
  obtain ⟨-, -, hperm, hdisjoint, -⟩ := hcut first second rfl rfl rfl
  exact ⟨s, w, first, second, hs, hw, hfirst, hsecond, htimes, hearliest, hlatest,
    hnarrower second hearliest hlatest, rfl, rfl, rfl, hperm, hdisjoint⟩

end Timetable
