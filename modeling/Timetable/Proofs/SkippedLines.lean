import Mathlib
import Timetable.Proofs.LineByLine
import Timetable.Proofs.ScheduleLine
import Timetable.Proofs.Tokens
/-!
# Lines that are passed over

A line is passed over on account of its first character alone. That character is also the first
one of the first column's token, and whatever form this token has, it begins with a digit or a
star. So a line with a schedule is never passed over: the jobs of a crontab are those of all
lines that have a schedule, among the lines of the operations that succeeded.

## Main definitions

- `BeginsToken` — the characters with which a token can begin
- `Crontab.takenLines` — the lines of those among some operations that succeed

## Main statements

- `Field.Denotes.head` — every form of a token begins with such a character
- `isScheduleLine_of_parse` — a line with a schedule is no line to pass over
- `schedules_never_passed_over` — what adding lines and loading texts makes of them
-/

namespace Timetable

/-- A digit or a star. -/
def BeginsToken (c : Char) : Prop :=
  c.isDigit = true ∨ c = '*'

/-! ## The first character -/

namespace Field

theorem IsNumeral.head {cs : List Char} {n : Nat} (h : IsNumeral cs n) :
    ∃ d ∈ cs.head?, BeginsToken d := by
  cases cs with
  | nil => exact absurd rfl h.nonempty
  | cons d cs => exact ⟨d, rfl, .inl (h.digits d List.mem_cons_self)⟩

theorem Denotes.head {c : Column} {cs : List Char} {values : List Nat}
    (h : Denotes c cs values) : ∃ d ∈ cs.head?, BeginsToken d := by
  cases h with
  | number hn => exact hn.head
  | @list parts ns htwo hparts =>
    match parts, htwo with
    | first :: second :: later, _ =>
      cases hparts with
      | cons hfirst _ =>
        obtain ⟨d, hd, hbegins⟩ := hfirst.head
        refine ⟨d, ?_, hbegins⟩
        rw [List.intercalate_cons_cons, List.append_assoc, List.head?_append, Option.mem_def.1 hd]
        rfl
  | @range first last a b hfirst hlast hspan =>
    obtain ⟨d, hd, hbegins⟩ := hfirst.head
    refine ⟨d, ?_, hbegins⟩
    rw [List.head?_append, Option.mem_def.1 hd]
    rfl
  | all => exact ⟨'*', rfl, .inr rfl⟩
  | step hn hpos => exact ⟨'*', rfl, .inr rfl⟩

theorem denotes_of_parse {c : Column} {token : String} {field : Field c}
    (h : Field.parse c token = .ok field) : Denotes c token.toList field.values := by
  rw [Field.parse] at h
  split at h
  · next hvalues =>
    cases h
    exact denotes_of_values? hvalues
  · cases h

end Field

/-- The first word begins where the text without the blanks in front of it begins. -/
theorem Text.head?_trimStart_of_takeWords {n : Nat} {cs word rest : List Char}
    {words : List (List Char)} (h : takeWords (n + 1) cs = (word :: words, rest)) :
    (trimStart cs).head? = word.head? := by
  obtain hgap | ⟨gap, first, text, rfl, hgap, hfirst, hend⟩ := isGap_or_exists_word cs
  · rw [takeWords_gap hgap] at h
    cases h
  · rw [takeWords_cons hgap hfirst hend] at h
    obtain rfl : first = word := by cases h; rfl
    have hhead : (first ++ text).head? = first.head? :=
      List.head?_append_of_ne_nil _ hfirst.nonempty
    rw [List.append_assoc, trimStart_gap_append hgap, trimStart_of_head, hhead]
    intro c hc
    rw [hhead] at hc
    exact hfirst.solid c (List.mem_of_head? hc)

theorem isScheduleLine_iff {line : String} :
    isScheduleLine line = true ↔ ∃ c ∈ (Text.trimStart line.toList).head?, BeginsToken c := by
  rw [isScheduleLine]
  cases Text.trimStart line.toList with
  | nil => simp
  | cons c cs => simp [BeginsToken]

/-- The character that decides over a line is the first one of its first token. -/
theorem isScheduleLine_of_parse {line : String} {schedule : Schedule}
    (h : Schedule.parse line = .ok schedule) : isScheduleLine line = true := by
  obtain ⟨minute, hour, day, month, weekday, rest, htake, htokens⟩ :=
    Schedule.exists_takeWords_of_parse h
  obtain ⟨hminute, -⟩ := Schedule.ofTokens_eq_ok_iff.1 htokens
  have hdenotes := Field.denotes_of_parse hminute
  rw [String.toList_ofList] at hdenotes
  rw [isScheduleLine_iff, Text.head?_trimStart_of_takeWords htake]
  exact hdenotes.head

theorem parse_of_not_isScheduleLine {line : String} (h : isScheduleLine line = false) :
    ∃ error, Schedule.parse line = .error error := by
  cases hparse : Schedule.parse line with
  | error error => exact ⟨error, rfl⟩
  | ok schedule =>
    rw [isScheduleLine_of_parse hparse] at h
    cases h

/-! ## The schedules on some lines -/

/-- The schedules on those of some lines that have one. -/
def schedulesOn (lines : List String) : List Schedule :=
  lines.filterMap fun line => (Schedule.parse line).toOption

/-- The lines that are passed over have no schedules. -/
theorem schedulesOn_filter (lines : List String) :
    schedulesOn (lines.filter isScheduleLine) = schedulesOn lines := by
  rw [schedulesOn, List.filterMap_filter, schedulesOn]
  apply List.filterMap_congr
  intro line _
  by_cases hline : isScheduleLine line = true
  · rw [if_pos hline]
  · obtain ⟨error, herror⟩ := parse_of_not_isScheduleLine (Bool.eq_false_iff.2 hline)
    rw [if_neg hline, herror]
    rfl

/-- If all lines that are not passed over are understood, they are all lines with schedules. -/
theorem schedulesOn_eq {lines : List String} {schedules : List Schedule}
    (h : (lines.filter isScheduleLine).map Schedule.parse = schedules.map .ok) :
    schedulesOn lines = schedules := by
  have hok : (schedules.map (Except.ok (ε := Error))).filterMap Except.toOption = schedules := by
    rw [List.filterMap_map]
    exact List.filterMap_some
  rw [← schedulesOn_filter, schedulesOn, ← hok, ← h, List.filterMap_map]
  rfl

/-! ## Adding and loading -/

/-- The lines of an operation if it succeeds, and none otherwise. -/
def Operation.takenLines (c : Crontab) (op : Operation) : List String :=
  match (op.perform c).1 with
  | .ok _ => op.lines
  | .error _ => []

theorem Operation.acceptedLines_eq_filter (c : Crontab) (op : Operation) :
    op.acceptedLines c = (op.takenLines c).filter isScheduleLine := by
  rw [acceptedLines, takenLines]
  cases (op.perform c).1 with
  | ok answer => rfl
  | error error => rfl

namespace Crontab

/-- The lines of those among some operations that succeed, in order. -/
def takenLines (c : Crontab) : List Operation → List String
  | [] => []
  | op :: later => op.takenLines c ++ takenLines (op.perform c).2 later

theorem acceptedLines_eq_filter (c : Crontab) (ops : List Operation) :
    c.acceptedLines ops = (c.takenLines ops).filter isScheduleLine := by
  induction ops generalizing c with
  | nil => rfl
  | cons op later ih =>
    rw [acceptedLines, takenLines, List.filter_append, ih, op.acceptedLines_eq_filter]

/-- The jobs of a crontab are those of all schedules on the lines that were taken. -/
theorem Holds.after_takenLines {c : Crontab} {w : Window} {styles : StyleTable}
    {schedules : List Schedule} (h : c.Holds w styles schedules) (ops : List Operation) :
    (c.after ops).Holds w styles (schedules ++ schedulesOn (c.takenLines ops)) := by
  obtain ⟨added, hadded, hafter⟩ := h.after ops
  rw [acceptedLines_eq_filter] at hadded
  rw [schedulesOn_eq hadded]
  exact hafter

theorem addLine_of_parse (c : Crontab) {line : String} {schedule : Schedule}
    (h : Schedule.parse line = .ok schedule) :
    c.addLine line = (.ok (some c.jobs.length), c.adding [schedule]) := by
  rw [addLine_eq, if_pos (isScheduleLine_of_parse h), h]

theorem isScheduleLine_of_addLine {c : Crontab} {line : String}
    (h : (c.addLine line).1 = .ok none) : isScheduleLine line = false := by
  rw [Bool.eq_false_iff]
  intro hline
  rw [addLine_eq, if_pos hline] at h
  cases hparse : Schedule.parse line with
  | ok schedule => simp [hparse] at h
  | error error => simp [hparse] at h

theorem loadText_of_ok {c : Crontab} {text : String} {count : Nat}
    (h : (c.loadText text).1 = .ok count) :
    count = (schedulesOn (Text.linesOf text)).length ∧
      (c.loadText text).2 = c.adding (schedulesOn (Text.linesOf text)) := by
  rw [loadText_eq] at h ⊢
  cases hread : readText text with
  | error error => simp [hread] at h
  | ok schedules =>
    rw [schedulesOn_eq (readText_eq_ok_iff.1 hread)]
    rw [hread] at h
    exact ⟨(Except.ok.inj h).symm, rfl⟩

end Crontab

/-- A line with a schedule is not passed over. Adding it adds its job, and a line that adds
nothing, without an error, has no schedule. A text that is loaded adds the jobs of all schedules
on its lines, and those that it passes over have none. So after any operations the jobs are those
of all schedules on the lines that were taken. -/
theorem schedules_never_passed_over :
    (∀ line schedule, Schedule.parse line = .ok schedule → isScheduleLine line = true) ∧
      (∀ (c : Crontab) (line : String) (schedule : Schedule),
        Schedule.parse line = .ok schedule →
          c.addLine line = (.ok (some c.jobs.length), c.adding [schedule])) ∧
      (∀ (c : Crontab) (line : String), (c.addLine line).1 = .ok none →
        ∃ error, Schedule.parse line = .error error) ∧
      (∀ (c : Crontab) (text : String) (count : Nat), (c.loadText text).1 = .ok count →
        count = (schedulesOn (Text.linesOf text)).length ∧
          (c.loadText text).2 = c.adding (schedulesOn (Text.linesOf text)) ∧
          ∀ line ∈ Text.linesOf text, isScheduleLine line = false →
            ∃ error, Schedule.parse line = .error error) ∧
      ∀ (w : Window) (styles : StyleTable) (ops : List Operation),
        ((Crontab.empty w styles).after ops).jobs =
          (schedulesOn ((Crontab.empty w styles).takenLines ops)).mapIdx
            (Job.build w (.ofWindow w styles)) := by
  refine ⟨fun _ _ => isScheduleLine_of_parse, fun c _ _ => c.addLine_of_parse, ?_, ?_, ?_⟩
  · intro c line h
    exact parse_of_not_isScheduleLine (Crontab.isScheduleLine_of_addLine h)
  · intro c text count h
    obtain ⟨hcount, hafter⟩ := Crontab.loadText_of_ok h
    exact ⟨hcount, hafter, fun line _ => parse_of_not_isScheduleLine⟩
  · intro w styles ops
    have h := (Crontab.holds_empty w styles).after_takenLines ops
    rw [List.nil_append] at h
    exact h.jobs

/-- A comment is passed over, and a line is not that begins with a wide blank. -/
theorem schedules_never_passed_over_wide_blank :
    ∃ (w : Window) (c : Crontab) (s : Schedule) (text : String),
      Window.parse "2011-10-11 00:00" "2011-10-12 00:00" = .ok w ∧
        c = (Crontab.empty w .builtin).after [.withThreads 4] ∧
        Schedule.parse "\u3000*/5 * * * * second" = .ok s ∧
        isScheduleLine "\u3000*/5 * * * * second" = true ∧
        c.addLine "\u3000*/5 * * * * second" = (.ok (some 0), c.adding [s]) ∧
        (c.addLine "# 0 1 * * * first").1 = .ok none ∧
        (∃ error, Schedule.parse "# 0 1 * * * first" = .error error) ∧
        text = "# 0 1 * * * first\n\u3000*/5 * * * * second" ∧
        (c.loadText text).1 = .ok 1 ∧ (schedulesOn (Text.linesOf text)).length = 1 ∧
        (c.loadText text).2 = c.adding (schedulesOn (Text.linesOf text)) := by
  let w : Window :=
    { earliest := ⟨⟨2011, 10, 11, by decide⟩, 0, 0, 0, 0, by decide⟩
      latest := ⟨⟨2011, 10, 12, by decide⟩, 0, 0, 0, 0, by decide⟩
      earliestKey := _
      latestKey := _
      floor_earliest := rfl
      floor_latest := rfl
      earliest_le_latest := by decide
      fourDigitYear_earliest := by decide
      fourDigitYear_latest := by decide }
  let c := (Crontab.empty w .builtin).after [.withThreads 4]
  let s : Schedule := { Schedule.everyFiveMinutes with command := "second" }
  have hw : Window.parse "2011-10-11 00:00" "2011-10-12 00:00" = .ok w := by rfl
  have hs : Schedule.parse "\u3000*/5 * * * * second" = .ok s := by rfl
  have hcomment : isScheduleLine "# 0 1 * * * first" = false := by rfl
  have hread : Crontab.readText "# 0 1 * * * first\n\u3000*/5 * * * * second" = .ok [s] := by rfl
  obtain ⟨hline, hadd, hpassed, hload, -⟩ := schedules_never_passed_over
  have hcount : (c.loadText "# 0 1 * * * first\n\u3000*/5 * * * * second").1 = .ok 1 := by
    rw [Crontab.loadText_eq, hread]
    rfl
  have hnone : (c.addLine "# 0 1 * * * first").1 = .ok none := by
    rw [Crontab.addLine_eq, if_neg (by simp [hcomment])]
  obtain ⟨hlength, hafter, -⟩ := hload c _ 1 hcount
  exact ⟨w, c, s, _, hw, rfl, hs, hline _ _ hs, hadd c _ s hs, hnone, hpassed c _ hnone, rfl,
    hcount, hlength.symm, hafter⟩

end Timetable
