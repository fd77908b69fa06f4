import Mathlib
import Timetable.Proofs.AscendingLines
/-!
# Schedules written as lines

The fields of a schedule can be written as lists of their values, whatever tokens they came from.
The line that is made of them, with one space after each, and of the command is read as the same
schedule again. All that is needed is that no field is empty, since no list is, and two things
that every line provides: values of 32 bits, and a command without blanks at its ends.

## Main definitions

- `Field.Writable`, `Schedule.Writable` — what can be written so that it is read again

## Main statements

- `Field.Denotes.isWord` — a token holds no blanks
- `Field.Writable.parse_renderField` — the list of a field's values
- `Schedule.Writable.parse_render` — the line of a schedule
- `lines_survive_rendering` — lines in the place of others
-/

namespace Timetable

namespace Field

variable {c : Column}

/-! ## Tokens are words -/

theorem IsNumeral.isWord {cs : List Char} {n : Nat} (h : IsNumeral cs n) : Text.IsWord cs :=
  ⟨h.nonempty, fun d hd => Text.isBlank_of_isDigit (h.digits d hd)⟩

/-- What is joined without blanks has none, if the parts have none. -/
theorem isBlank_of_mem_intercalate {separator : Char} (hseparator : Text.isBlank separator = false)
    {parts : List (List Char)} (h : ∀ part ∈ parts, ∀ d ∈ part, Text.isBlank d = false) :
    ∀ d ∈ List.intercalate [separator] parts, Text.isBlank d = false := by
  induction parts with
  | nil =>
    intro d hd
    cases hd
  | cons first later ih =>
    obtain ⟨hfirst, hlater⟩ := List.forall_mem_cons.1 h
    cases later with
    | nil =>
      rw [List.intercalate_singleton]
      exact hfirst
    | cons second later =>
      intro d hd
      rw [List.intercalate_cons_cons, List.append_assoc, List.mem_append, List.mem_append,
        List.mem_singleton] at hd
      rcases hd with hd | rfl | hd
      · exact hfirst d hd
      · exact hseparator
      · exact ih hlater d hd

/-- No form of a token has blanks in it. -/
theorem Denotes.isWord {cs : List Char} {values : List Nat} (h : Denotes c cs values) :
    Text.IsWord cs := by
  obtain ⟨first, hfirst, -⟩ := h.head
  refine ⟨List.ne_nil_of_mem (List.mem_of_head? hfirst), ?_⟩
  cases h with
  | number hn => exact hn.isWord.solid
  | @list parts ns htwo hparts =>
    have hwords := hparts.imp fun part n hn => And.intro hn.isWord hn
    obtain ⟨hwords, -⟩ := (List.forall₂_and_left parts values).1 hwords
    exact isBlank_of_mem_intercalate (by decide) fun part hpart => (hwords part hpart).solid
  | range ha hb hspan =>
    simp only [List.forall_mem_append, List.forall_mem_cons]
    exact ⟨ha.isWord.solid, by decide, hb.isWord.solid⟩
  | all => exact List.forall_mem_singleton.2 (by decide)
  | step hn hpos =>
    simp only [List.forall_mem_cons]
    exact ⟨by decide, by decide, hn.isWord.solid⟩

/-! ## Lists of values -/

/-- The values of a token have 32 bits, as the numerals that it is made of have. -/
theorem Denotes.lt {cs : List Char} {values : List Nat} (h : Denotes c cs values) :
    ∀ value ∈ values, value < 2 ^ 32 := by
  have hlast : c.last < 2 ^ 32 := by cases c <;> decide
  intro value hvalue
  cases h with
  | number hn =>
    rw [List.mem_singleton.1 hvalue]
    exact hn.bound
  | @list parts ns htwo hparts =>
    have hbounds := hparts.flip.imp fun n part hn => And.intro hn.bound hn
    exact ((List.forall₂_and_left values parts).1 hbounds).1 value hvalue
  | range ha hb hspan =>
    exact Nat.lt_of_lt_of_le (List.Ico.mem.1 hvalue).2 hb.bound
  | all => exact Nat.lt_of_lt_of_le (List.Ico.mem.1 hvalue).2 hlast
  | step hn hpos =>
    exact Nat.lt_of_lt_of_le (List.Ico.mem.1 (List.mem_of_mem_filter hvalue)).2 hlast

/-- A field whose values can be written as a list. -/
structure Writable (f : Field c) : Prop where
  nonempty : f.values ≠ []
  lt : ∀ value ∈ f.values, value < 2 ^ 32

theorem isNumeral_digits {n : Nat} (h : n < 2 ^ 32) : IsNumeral (Text.digits n) n := by
  rw [← number?_eq_some_iff, number?, Text.numeral?_digits, Option.filter_some]
  exact if_pos (decide_eq_true (Nat.le_of_lt_succ h))

/-- The list of a field's values stands for these values: as a number if there is one of them, and
as a list if there are more. -/
theorem Writable.denotes {f : Field c} (h : f.Writable) :
    Denotes c (Schedule.renderField f) f.values := by
  have hnumerals : List.Forall₂ IsNumeral (f.values.map Text.digits) f.values := by
    rw [List.forall₂_map_left_iff, List.forall₂_same]
    exact fun value hvalue => isNumeral_digits (h.lt value hvalue)
  have hne := h.nonempty
  rw [Schedule.renderField]
  match f.values, hne, hnumerals with
  | [value], _, .cons hvalue _ =>
    rw [List.map_singleton, List.intercalate_singleton]
    exact .number hvalue
  | first :: second :: later, _, hnumerals =>
    exact .list (Nat.le_add_left 2 _) hnumerals

theorem Writable.parse_renderField {f : Field c} (h : f.Writable) :
    Field.parse c (String.ofList (Schedule.renderField f)) = .ok f := by
  rw [Field.parse, String.toList_ofList, values?_of_denotes h.denotes]

end Field

namespace Schedule

/-- A schedule that can be written as a line. -/
structure Writable (s : Schedule) : Prop where
  minute : s.minute.Writable
  hour : s.hour.Writable
  day : s.day.Writable
  month : s.month.Writable
  weekday : s.weekday.Writable
  command : Text.IsTrimmed s.command.toList s.command.toList

/-- Each field matches some value. -/
structure HasValues (s : Schedule) : Prop where
  minute : s.minute.values ≠ []
  hour : s.hour.values ≠ []
  day : s.day.values ≠ []
  month : s.month.values ≠ []
  weekday : s.weekday.values ≠ []

variable {s : Schedule}

/-! ## Lines -/

/-- With a space in front of each, words are the ones that a text begins with. -/
theorem beginsWith_spaced {words : List (List Char)} (h : ∀ word ∈ words, Text.IsWord word)
    (rest : List Char) :
    Text.BeginsWith (' ' :: List.intercalate [' '] (words ++ [rest])) words (' ' :: rest) := by
  have hspace : Text.IsGap [' '] := List.forall_mem_singleton.2 (by decide)
  induction words with
  | nil =>
    rw [List.nil_append, List.intercalate_singleton]
    exact .nil _
  | cons word later ih =>
    obtain ⟨hword, hlater⟩ := List.forall_mem_cons.1 h
    have hjoined : ' ' :: List.intercalate [' '] (word :: later ++ [rest]) =
        [' '] ++ word ++ ' ' :: List.intercalate [' '] (later ++ [rest]) := by
      rw [List.cons_append, List.intercalate_cons_of_ne_nil (by simp)]
      simp
    rw [hjoined]
    refine .cons hspace hword ?_ (ih hlater)
    intro c hc
    cases hc
    decide

theorem Writable.takeWords_render (h : s.Writable) :
    Text.takeWords 5 s.render.toList =
      ([renderField s.minute, renderField s.hour, renderField s.day, renderField s.month,
        renderField s.weekday], ' ' :: s.command.toList) := by
  have hwords : ∀ word ∈ [renderField s.minute, renderField s.hour, renderField s.day,
      renderField s.month, renderField s.weekday], Text.IsWord word := by
    simp only [List.forall_mem_cons]
    exact ⟨h.minute.denotes.isWord, h.hour.denotes.isWord, h.day.denotes.isWord,
      h.month.denotes.isWord, h.weekday.denotes.isWord, List.forall_mem_nil _⟩
  have hspace : Text.IsGap [' '] := List.forall_mem_singleton.2 (by decide)
  -- A space in front of the first word makes no difference.
  rw [render, String.toList_ofList, ← Text.takeWords_gap_append hspace 4]
  exact Text.takeWords_add (beginsWith_spaced hwords s.command.toList) 0

theorem Writable.parse_render (h : s.Writable) : parse s.render = .ok s := by
  have htrim : Text.trim (' ' :: s.command.toList) = s.command.toList := by
    obtain ⟨-, hhead, hlast⟩ := h.command
    refine Text.isTrimmed_iff.1 ⟨⟨[' '], [], by simp, ?_, ?_⟩, hhead, hlast⟩
    · exact List.forall_mem_singleton.2 (by decide)
    · exact List.forall_mem_nil _
  rw [parse_of_takeWords h.takeWords_render, htrim, String.ofList_toList, ofTokens_eq_ok_iff]
  exact ⟨h.minute.parse_renderField, h.hour.parse_renderField, h.day.parse_renderField,
    h.month.parse_renderField, h.weekday.parse_renderField, rfl⟩

theorem isTrimmed_command_of_parse {line : String} (h : parse line = .ok s) :
    Text.IsTrimmed s.command.toList s.command.toList := by
  obtain ⟨minute, hour, day, month, weekday, rest, -, htokens⟩ := exists_takeWords_of_parse h
  obtain ⟨-, -, -, -, -, hcommand⟩ := ofTokens_eq_ok_iff.1 htokens
  obtain ⟨-, hhead, hlast⟩ := Text.isTrimmed_trim rest
  rw [← hcommand, String.toList_ofList]
  exact ⟨⟨[], [], by simp, List.forall_mem_nil _, List.forall_mem_nil _⟩, hhead, hlast⟩

/-- Of a schedule that was read from a line, only empty fields cannot be written. -/
theorem HasValues.writable_of_parse {line : String} (hvalues : s.HasValues)
    (h : parse line = .ok s) : s.Writable := by
  obtain ⟨minute, hour, day, month, weekday, -, hminute, hhour, hday, hmonth, hweekday⟩ :=
    denotes_of_parse h
  exact
    { minute := ⟨hvalues.minute, hminute.lt⟩
      hour := ⟨hvalues.hour, hhour.lt⟩
      day := ⟨hvalues.day, hday.lt⟩
      month := ⟨hvalues.month, hmonth.lt⟩
      weekday := ⟨hvalues.weekday, hweekday.lt⟩
      command := isTrimmed_command_of_parse h }

end Schedule

/-- If a line has a schedule none of whose fields is empty, the line that lists the values of the
fields, with one space after each field, and then gives the command has the same schedule. It is
no line to pass over either, so that either line adds the same job to any crontab. -/
theorem lines_survive_rendering {line : String} {s : Schedule} (h : Schedule.parse line = .ok s)
    (hvalues : s.HasValues) :
    Schedule.parse s.render = .ok s ∧ isScheduleLine s.render = true ∧
      ∀ c : Crontab, c.addLine s.render = c.addLine line ∧
        c.addLine line = (.ok (some c.jobs.length),
          { c with
            jobs := c.jobs ++ [Job.build c.window c.classifier c.jobs.length s] }) := by
  have hrender := (hvalues.writable_of_parse h).parse_render
  refine ⟨hrender, isScheduleLine_of_parse hrender, ?_⟩
  intro c
  rw [c.addLine_of_parse hrender, c.addLine_of_parse h]
  exact ⟨rfl, rfl⟩

/-- Leading zeros, a repetition, the widest numbers and a command with blanks and commas in it. -/
theorem lines_survive_rendering_widest_numbers :
    ∃ s : Schedule,
      Schedule.parse "\t007,7 4294967294-4294967295 */16\u3000 1 0-3   run  1,2\t* " = .ok s ∧
        s.HasValues ∧
        s.render = "7,7 4294967294,4294967295 1,17 1 0,1,2,3 run  1,2\t*" ∧
        Schedule.parse "7,7 4294967294,4294967295 1,17 1 0,1,2,3 run  1,2\t*" = .ok s ∧
        isScheduleLine "7,7 4294967294,4294967295 1,17 1 0,1,2,3 run  1,2\t*" = true ∧
        ∀ c : Crontab, c.addLine "7,7 4294967294,4294967295 1,17 1 0,1,2,3 run  1,2\t*" =
          c.addLine "\t007,7 4294967294-4294967295 */16\u3000 1 0-3   run  1,2\t* " := by
  let s : Schedule :=
    { minute := ⟨[7, 7]⟩, hour := ⟨[4294967294, 4294967295]⟩, day := ⟨[1, 17]⟩, month := ⟨[1]⟩,
      weekday := ⟨[0, 1, 2, 3]⟩, command := "run  1,2\t*" }
  have hs : Schedule.parse "\t007,7 4294967294-4294967295 */16\u3000 1 0-3   run  1,2\t* " =
      .ok s := by rfl
  have hvalues : s.HasValues := by constructor <;> decide
  have hrender : s.render = "7,7 4294967294,4294967295 1,17 1 0,1,2,3 run  1,2\t*" := by decide
  obtain ⟨hparse, hline, hadd⟩ := lines_survive_rendering hs hvalues
  rw [hrender] at hparse hline hadd
  exact ⟨s, hs, hvalues, hrender, hparse, hline, fun c => (hadd c).1⟩

end Timetable
