import Mathlib
import Timetable.Proofs.LineByLine
/-!
# Texts that are joined

If a text ends where one of its lines ends, another text can be put after it, and the lines of
both together are those of the first and then those of the second. Loading the whole is loading
one after the other, except that an error in the second text takes away what the first one would
have added, and that its line is counted from the beginning of the whole.

## Main definitions

- `Text.EndsLine` — a text that ends where a line ends
- `Error.shiftLine` — an error some lines further down

## Main statements

- `Text.linesOf_append` — the lines of two texts
- `Crontab.readText_append` — reading two texts
- `loadText_append` — loading two texts
-/

namespace Timetable

namespace Text

/-- The text is empty, or a line feed is its last character. -/
def EndsLine (cs : List Char) : Prop :=
  ∀ c ∈ cs.getLast?, c = '\n'

/-! ## The lines of two texts -/

theorem EndsLine.nil : EndsLine [] := by
  intro c hc
  cases hc

/-- The end of a text is the end of each text that follows one of its lines. -/
theorem EndsLine.of_suffix {cs text : List Char} (h : EndsLine cs) (hsuffix : text <:+ cs) :
    EndsLine text := by
  obtain ⟨front, rfl⟩ := hsuffix
  cases text with
  | nil => exact .nil
  | cons c text => rwa [EndsLine, List.getLast?_append_of_ne_nil _ (List.cons_ne_nil c text)] at h

theorem EndsLine.eq_nil {line : List Char} (h : EndsLine line) (hfeed : '\n' ∉ line) :
    line = [] := by
  rw [← List.getLast?_eq_none_iff, Option.eq_none_iff_forall_not_mem]
  intro c hc
  exact hfeed (h c hc ▸ List.mem_of_getLast? hc)

theorem HasLines.append {cs ds : List Char} {ls ls' : List (List Char)} (h : HasLines cs ls)
    (hend : EndsLine cs) (h' : HasLines ds ls') : HasLines (cs ++ ds) (ls ++ ls') := by
  induction h with
  | none => exact h'
  | last hne hfeed => exact absurd (hend.eq_nil hfeed) hne
  | @feed line text later hfeed hreturn _ ih =>
    rw [List.append_assoc]
    exact .feed hfeed hreturn (ih (hend.of_suffix ⟨line ++ ['\n'], by simp⟩))
  | @returnFeed line text later hfeed _ ih =>
    rw [List.append_assoc]
    exact .returnFeed hfeed (ih (hend.of_suffix ⟨line ++ ['\r', '\n'], by simp⟩))

/-- If the last line has an end as well, there are as many lines as line feeds. -/
theorem HasLines.length_eq_count {cs : List Char} {ls : List (List Char)} (h : HasLines cs ls)
    (hend : EndsLine cs) : ls.length = cs.count '\n' := by
  induction h with
  | none => rfl
  | last hne hfeed => exact absurd (hend.eq_nil hfeed) hne
  | @feed line text later hfeed hreturn _ ih =>
    rw [List.length_cons, ih (hend.of_suffix ⟨line ++ ['\n'], by simp⟩), List.count_append,
      List.count_eq_zero_of_not_mem hfeed, List.count_cons_self, Nat.zero_add]
  | @returnFeed line text later hfeed _ ih =>
    rw [List.length_cons, ih (hend.of_suffix ⟨line ++ ['\r', '\n'], by simp⟩), List.count_append,
      List.count_eq_zero_of_not_mem hfeed, List.count_cons_of_ne (by decide),
      List.count_cons_self, Nat.zero_add]

theorem linesOf_append {a : String} (h : EndsLine a.toList) (b : String) :
    linesOf (a ++ b) = linesOf a ++ linesOf b := by
  have hlines := (hasLines_lines a.toList).append h (hasLines_lines b.toList)
  rw [linesOf, String.toList_append, hasLines_iff.1 hlines, List.map_append, linesOf, linesOf]

theorem length_linesOf {a : String} (h : EndsLine a.toList) :
    (linesOf a).length = a.toList.count '\n' := by
  rw [linesOf, List.length_map, (hasLines_lines a.toList).length_eq_count h]

end Text

/-- The error with its line some lines further down, if it is an error in a line. -/
def Error.shiftLine (n : Nat) : Error → Error
  | .atLine line error => .atLine (line + n) error
  | error => error

namespace Crontab

/-! ## Reading two texts -/

theorem readLines_add (n m : Nat) (lines : List String) :
    readLines (n + m) lines = (readLines n lines).mapError (Error.shiftLine m) := by
  induction lines generalizing n with
  | nil => rfl
  | cons line later ih =>
    have hlater := ih (n + 1)
    rw [Nat.add_right_comm] at hlater
    rw [readLines, readLines, hlater]
    by_cases hline : isScheduleLine line = true
    · rw [if_pos hline, if_pos hline]
      cases Schedule.parse line with
      | ok schedule => exact map_mapError _ _
      | error error => rfl
    · rw [if_neg hline, if_neg hline]

theorem readLines_append (n : Nat) (first later : List String) :
    readLines n (first ++ later) =
      readLines n first >>= fun schedules =>
        (readLines (n + first.length) later).map (schedules ++ ·) := by
  induction first generalizing n with
  | nil =>
    rw [List.nil_append, readLines, List.length_nil, Nat.add_zero]
    cases readLines n later with
    | ok schedules => rfl
    | error error => rfl
  | cons line first ih =>
    rw [List.cons_append, readLines, readLines, ih, List.length_cons, Nat.add_right_comm,
      Nat.add_assoc]
    by_cases hline : isScheduleLine line = true
    · rw [if_pos hline, if_pos hline]
      cases Schedule.parse line with
      | error error => rfl
      | ok schedule =>
        cases readLines (n + 1) first with
        | error error => rfl
        | ok schedules =>
          cases readLines (n + (first.length + 1)) later with
          | error error => rfl
          | ok schedules' => rfl
    · rw [if_neg hline, if_neg hline]

/-- An error in the second text counts its lines from the beginning of the first. -/
theorem readText_append {a : String} (h : Text.EndsLine a.toList) (b : String) :
    readText (a ++ b) =
      readText a >>= fun schedules =>
        ((readText b).map (schedules ++ ·)).mapError
          (Error.shiftLine (Text.linesOf a).length) := by
  rw [readText_eq, Text.linesOf_append h, readLines_append, readLines_add, readText_eq, readText_eq]
  simp only [map_mapError]

theorem loadText_of_readText_ok {c : Crontab} {text : String} {schedules : List Schedule}
    (h : readText text = .ok schedules) :
    c.loadText text = (.ok schedules.length, c.adding schedules) := by
  rw [loadText_eq, h]

theorem loadText_of_readText_error {c : Crontab} {text : String} {failure : Error}
    (h : readText text = .error failure) : c.loadText text = (.error failure, c) := by
  rw [loadText_eq, h]

/-- Whatever is wrong with a text is wrong in one of its lines. -/
theorem exists_atLine_of_readText (c : Crontab) {text : String} {failure : Error}
    (h : readText text = .error failure) : ∃ k error, failure = .atLine k error := by
  have hcollect : collect 1 (c.addLines (Text.linesOf text)).1 = .error failure := by
    rw [← c.loadText_fst, loadText_of_readText_error h]
  obtain ⟨k, error, hfailure, -⟩ := collect_eq_error_iff.1 hcollect
  exact ⟨1 + k, error, hfailure⟩

theorem length_jobs_adding (c : Crontab) (schedules : List Schedule) :
    (c.adding schedules).jobs.length = c.jobs.length + schedules.length := by
  simp [adding, furtherJobs]

end Crontab

/-- Let a text end where one of its lines ends, or be empty. If it can be loaded, and a second one
after it, then both can be loaded as one text, which adds as many jobs and leaves the same crontab.
If it cannot be loaded, its error is that of the whole text. If only the second one cannot, the
error is in one of its lines, and the error of the whole text is the same, in the line that is
as many lines further down as the first text has. The whole text then adds nothing, although the
first text alone does. -/
theorem loadText_append (c : Crontab) {a : String} (h : Text.EndsLine a.toList) (b : String) :
    (∀ n m, (c.loadText a).1 = .ok n → ((c.loadText a).2.loadText b).1 = .ok m →
      c.loadText (a ++ b) = (.ok (n + m), ((c.loadText a).2.loadText b).2)) ∧
      (∀ failure, (c.loadText a).1 = .error failure →
        c.loadText (a ++ b) = (.error failure, c)) ∧
      ∀ n failure, (c.loadText a).1 = .ok n →
        ((c.loadText a).2.loadText b).1 = .error failure →
          ∃ k error, failure = .atLine k error ∧
            c.loadText (a ++ b) =
              (.error (.atLine (k + (Text.linesOf a).length) error), c) ∧
            (Text.linesOf a).length = a.toList.count '\n' ∧
            ((c.loadText a).2.loadText b).2 = (c.loadText a).2 ∧
            (c.loadText a).2.jobs.length = c.jobs.length + n := by
  have hread := Crontab.readText_append h b
  cases ha : Crontab.readText a with
  | error error =>
    rw [ha] at hread
    rw [Crontab.loadText_of_readText_error ha, Crontab.loadText_of_readText_error hread]
    simp
  | ok first =>
    rw [ha] at hread
    rw [Crontab.loadText_of_readText_ok ha]
    cases hb : Crontab.readText b with
    | ok later =>
      rw [hb] at hread
      rw [Crontab.loadText_of_readText_ok hb, Crontab.loadText_of_readText_ok hread,
        List.length_append, c.adding_append]
      simp
    | error error =>
      rw [hb] at hread
      obtain ⟨k, failure, rfl⟩ := Crontab.exists_atLine_of_readText c hb
      rw [Crontab.loadText_of_readText_error hb, Crontab.loadText_of_readText_error hread,
        Text.length_linesOf h, c.length_jobs_adding]
      refine ⟨by simp, by simp, ?_⟩
      rintro n failure' hn hfailure
      cases hn
      cases hfailure
      exact ⟨k, failure, rfl, rfl, rfl, rfl, rfl⟩

/-- A text with two kinds of line ends and no schedule in its last line, before a text that can be
loaded and before one that fails in its second line; and a text that fails itself. -/
theorem loadText_append_after_comment :
    ∃ (c : Crontab) (a b b' a' : String),
      a = "# nightly\r\n0 1 * * * first\n \n" ∧ b = "0 3 * * * second" ∧
        b' = "\r\n0 3 * bad * second\n" ∧ a' = "0 x * * * first\n" ∧
        Text.EndsLine a.toList ∧ Text.EndsLine a'.toList ∧
        (c.loadText a).1 = .ok 1 ∧ ((c.loadText a).2.loadText b).1 = .ok 1 ∧
        c.loadText (a ++ b) = (.ok 2, ((c.loadText a).2.loadText b).2) ∧
        ((c.loadText a).2.loadText b').1 = .error (.atLine 2 (.invalidToken .month "bad")) ∧
        c.loadText (a ++ b') = (.error (.atLine 5 (.invalidToken .month "bad")), c) ∧
        (c.loadText a).2.jobs.length = c.jobs.length + 1 ∧
        c.loadText (a' ++ b) = (.error (.atLine 1 (.invalidToken .hour "x")), c) := by
  let w : Window :=
    ⟨⟨⟨2011, 10, 11, by decide⟩, 0, 0, 0, 0, by decide⟩,
      ⟨⟨2011, 10, 12, by decide⟩, 0, 0, 0, 0, by decide⟩,
      _, _, rfl, rfl, by decide, by decide, by decide, rfl, rfl⟩
  let c := (Crontab.empty w .builtin).after [.withThreads 4, .addLine "30 2 * * * earlier"]
  let s : Schedule :=
    ⟨⟨[0]⟩, ⟨[1]⟩, .full .day, .full .month, .full .weekday, "first"⟩
  let t : Schedule :=
    ⟨⟨[0]⟩, ⟨[3]⟩, .full .day, .full .month, .full .weekday, "second"⟩
  have ha : Crontab.readText "# nightly\r\n0 1 * * * first\n \n" = .ok [s] := by rfl
  have hb : Crontab.readText "0 3 * * * second" = .ok [t] := by rfl
  have hb' : Crontab.readText "\r\n0 3 * bad * second\n" =
      .error (.atLine 2 (.invalidToken .month "bad")) := by rfl
  have ha' : Crontab.readText "0 x * * * first\n" =
      .error (.atLine 1 (.invalidToken .hour "x")) := by rfl
  have hend : Text.EndsLine "# nightly\r\n0 1 * * * first\n \n".toList := by
    simp [Text.EndsLine]
  have hend' : Text.EndsLine "0 x * * * first\n".toList := by simp [Text.EndsLine]
  have hlines : (Text.linesOf "# nightly\r\n0 1 * * * first\n \n").length = 3 := by
    rw [Text.length_linesOf hend]
    decide
  have hfirst := Crontab.loadText_of_readText_ok (c := c) ha
  have hsecond := Crontab.loadText_of_readText_ok (c := c.adding [s]) hb
  have hbad := Crontab.loadText_of_readText_error (c := c.adding [s]) hb'
  have hfails := Crontab.loadText_of_readText_error (c := c) ha'
  obtain ⟨hok, -, -⟩ := loadText_append c hend "0 3 * * * second"
  obtain ⟨-, -, herror⟩ := loadText_append c hend "\r\n0 3 * bad * second\n"
  obtain ⟨-, hfailing, -⟩ := loadText_append c hend' "0 3 * * * second"
  obtain ⟨k, error, hk, hwhole, -, -, hjobs⟩ := herror 1 _ (by rw [hfirst]; rfl)
    (by rw [hfirst, hbad])
  cases hk
  rw [hlines] at hwhole
  refine ⟨c, _, _, _, _, rfl, rfl, rfl, rfl, hend, hend', ?_, ?_, ?_, ?_, hwhole, hjobs, ?_⟩
  · rw [hfirst]
    rfl
  · rw [hfirst, hsecond]
    rfl
  · exact hok 1 1 (by rw [hfirst]; rfl) (by rw [hfirst, hsecond]; rfl)
  · rw [hfirst, hbad]
  · exact hfailing _ (by rw [hfails])

end Timetable
