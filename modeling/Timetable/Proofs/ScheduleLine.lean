import Mathlib
import Timetable.Schedule
import Timetable.Proofs.Results
import Timetable.Proofs.Words
/-!
# The parts of a schedule line

The first five words of a line are the tokens of its columns, and what follows them is the
command, without the blanks around it. With fewer words the line has no schedule, and its error
says how many there are. Otherwise the error, if there is one, is that of the leftmost token that
its column does not understand. The blanks before, between and after these parts can be any.

## Main definitions

- `Schedule.leftmostRejected` — the first of some tokens that its column does not understand
- `Schedule.RejectedAt` — the error of the first token that is not understood

## Main statements

- `Schedule.parse_of_takeWords` — a line with five words
- `Schedule.ofTokens_eq_error_iff` — which error a schedule of tokens is
- `Schedule.ofTokens_eq_ok_iff` — which schedule tokens make
- `Schedule.parse_of_beginsWith` — lines that differ in blanks only
- `parse_by_words` — what any line is
-/

namespace Timetable

namespace Schedule

/-- The leftmost of the column tokens that its column does not understand. -/
def leftmostRejected (tokens : List String) : Option (Column × String) :=
  (Column.all.zip tokens).find? fun p => (Field.values? p.1 p.2.toList).isNone

/-- The failure is the error of the first of these tokens that its column does not understand. -/
def RejectedAt (tokens : List (Column × String)) (failure : Error) : Prop :=
  ∃ c token, tokens.find? (fun p => (Field.values? p.1 p.2.toList).isNone) = some (c, token) ∧
    failure = .invalidToken c token

/-- A token that its column understands leaves the error to the later ones. -/
theorem parse_bind_eq_error_iff {β : Type} {c : Column} {token : String}
    {next : Field c → Except Error β} {later : List (Column × String)} {failure : Error}
    (hnext : ∀ field, next field = .error failure ↔ RejectedAt later failure) :
    (Field.parse c token >>= next) = .error failure ↔
      RejectedAt ((c, token) :: later) failure := by
  rw [Field.parse, RejectedAt, List.find?_cons]
  cases Field.values? c token.toList with
  | none => simp [bind, Except.bind, eq_comm]
  | some values => exact hnext ⟨values⟩

theorem ofTokens_eq_error_iff {minute hour day month weekday command : String}
    {failure : Error} :
    ofTokens minute hour day month weekday command = .error failure ↔
      ∃ c token, leftmostRejected [minute, hour, day, month, weekday] = some (c, token) ∧
        failure = .invalidToken c token := by
  change ofTokens minute hour day month weekday command = .error failure ↔
    RejectedAt (Column.all.zip [minute, hour, day, month, weekday]) failure
  -- One token after the other, in the order of the columns.
  apply parse_bind_eq_error_iff
  intro minutes
  apply parse_bind_eq_error_iff
  intro hours
  apply parse_bind_eq_error_iff
  intro days
  apply parse_bind_eq_error_iff
  intro months
  apply parse_bind_eq_error_iff
  intro weekdays
  simp [RejectedAt]

/-- Tokens make a schedule if each column understands its own. -/
theorem ofTokens_eq_ok_iff {minute hour day month weekday command : String} {s : Schedule} :
    ofTokens minute hour day month weekday command = .ok s ↔
      Field.parse .minute minute = .ok s.minute ∧ Field.parse .hour hour = .ok s.hour ∧
        Field.parse .day day = .ok s.day ∧ Field.parse .month month = .ok s.month ∧
        Field.parse .weekday weekday = .ok s.weekday ∧ command = s.command := by
  simp only [ofTokens, bind_eq_ok_iff]
  constructor
  · rintro ⟨minutes, hminute, hours, hhour, days, hday, months, hmonth, weekdays, hweekday, h⟩
    cases h
    exact ⟨hminute, hhour, hday, hmonth, hweekday, rfl⟩
  · rintro ⟨hminute, hhour, hday, hmonth, hweekday, rfl⟩
    exact ⟨_, hminute, _, hhour, _, hday, _, hmonth, _, hweekday, rfl⟩

/-- A line with a schedule begins with the five tokens of its columns. -/
theorem exists_takeWords_of_parse {line : String} {s : Schedule} (h : parse line = .ok s) :
    ∃ minute hour day month weekday rest,
      Text.takeWords 5 line.toList = ([minute, hour, day, month, weekday], rest) ∧
        ofTokens (.ofList minute) (.ofList hour) (.ofList day) (.ofList month)
          (.ofList weekday) (.ofList (Text.trim rest)) = .ok s := by
  rw [parse] at h
  split at h
  · next htake => exact ⟨_, _, _, _, _, _, htake, h⟩
  · cases h

theorem parse_of_takeWords {line : String} {minute hour day month weekday rest : List Char}
    (h : Text.takeWords 5 line.toList = ([minute, hour, day, month, weekday], rest)) :
    parse line = ofTokens (.ofList minute) (.ofList hour) (.ofList day) (.ofList month)
      (.ofList weekday) (.ofList (Text.trim rest)) := by
  rw [parse, h]

theorem parse_of_few_words {line : String} (h : (Text.words line.toList).length < 5) :
    parse line = .error (.missingFields (Text.words line.toList).length line) := by
  have htake : (Text.takeWords 5 line.toList).1 = Text.words line.toList := by
    rw [Text.takeWords_fst, List.take_of_length_le (Nat.le_of_lt h)]
  rw [← htake] at h ⊢
  rw [parse]
  split
  · next hwords =>
    rw [hwords] at h
    exact absurd h (Nat.lt_irrefl 5)
  · next hwords => rw [hwords]

/-- Of a line with enough words only the first five of them and what follows them, without the
blanks around it, count. -/
theorem parse_congr {line line' : String} (hlength : 5 ≤ (Text.words line.toList).length)
    (hwords : (Text.takeWords 5 line.toList).1 = (Text.takeWords 5 line'.toList).1)
    (hrest : Text.trim (Text.takeWords 5 line.toList).2 =
      Text.trim (Text.takeWords 5 line'.toList).2) : parse line = parse line' := by
  have hfive : (Text.takeWords 5 line.toList).1.length = 5 := by
    rw [Text.takeWords_fst, List.length_take, Nat.min_eq_left hlength]
  obtain ⟨words, rest, hline⟩ : ∃ words rest, Text.takeWords 5 line.toList = (words, rest) :=
    ⟨_, _, rfl⟩
  obtain ⟨words', rest', hline'⟩ : ∃ words rest, Text.takeWords 5 line'.toList = (words, rest) :=
    ⟨_, _, rfl⟩
  rw [hline] at hfive
  rw [hline, hline'] at hwords hrest
  obtain rfl : words = words' := hwords
  match words, hfive with
  | [minute, hour, day, month, weekday], _ =>
    rw [parse_of_takeWords hline, parse_of_takeWords hline', hrest]

/-- Two lines with the same first five words and the same text after them, less the blanks at
its ends, are the same schedule or the same error. -/
theorem parse_of_beginsWith {line line' : String} {words : List (List Char)}
    {rest rest' command : List Char} (hfive : words.length = 5)
    (h : Text.BeginsWith line.toList words rest) (h' : Text.BeginsWith line'.toList words rest')
    (hcommand : Text.IsTrimmed rest command) (hcommand' : Text.IsTrimmed rest' command) :
    parse line' = parse line := by
  have htake := Text.takeWords_add h 0
  have htake' := Text.takeWords_add h' 0
  rw [hfive, Text.takeWords, List.append_nil] at htake htake'
  symm
  apply parse_congr
  · rw [h.words_eq, List.length_append, hfive]
    exact Nat.le_add_right 5 _
  · rw [htake, htake']
  · rw [htake, htake', Text.isTrimmed_iff.1 hcommand, Text.isTrimmed_iff.1 hcommand']

theorem parse_blanks_around {line : String} (hlength : 5 ≤ (Text.words line.toList).length)
    {before after : String} (hbefore : Text.IsGap before.toList)
    (hafter : Text.IsGap after.toList) : parse (before ++ line ++ after) = parse line := by
  have htake : Text.takeWords 5 (before ++ line ++ after).toList =
      ((Text.takeWords 5 line.toList).1, (Text.takeWords 5 line.toList).2 ++ after.toList) := by
    rw [String.toList_append, String.toList_append, List.append_assoc,
      Text.takeWords_gap_append hbefore,
      Text.takeWords_append hlength fun c hc => hafter c (List.mem_of_head? hc)]
  symm
  apply parse_congr hlength
  · rw [htake]
  · rw [htake, Text.trim_append_gap hafter]

theorem parse_other_gap {start gap gap' rest : String}
    (hlength : 5 ≤ (Text.words (start ++ gap ++ rest).toList).length)
    (hstart : (Text.words start.toList).length ≤ 5) (hgap : Text.IsGap gap.toList)
    (hne : gap ≠ "") (hgap' : Text.IsGap gap'.toList) (hne' : gap' ≠ "") :
    parse (start ++ gap' ++ rest) = parse (start ++ gap ++ rest) := by
  obtain ⟨n, hn⟩ := Nat.exists_eq_add_of_le hstart
  have htake := Text.takeWords_append_gap start.toList hgap (by simpa using hne) n rest.toList
  have htake' := Text.takeWords_append_gap start.toList hgap' (by simpa using hne') n rest.toList
  rw [← hn] at htake htake'
  symm
  apply parse_congr hlength
  · simp only [String.toList_append, htake.1, htake'.1]
  · simp only [String.toList_append, htake.2, htake'.2]

end Schedule

/-- A line is told apart by its words, which are its maximal runs of characters that are not
blank. With fewer than five it has no schedule, and the error says how many there are. With five
or more its schedule is that of the first five as column tokens and of what follows them, less
the blanks at both ends, as the command; an error is that of the leftmost token that its column
does not understand. Blanks around such a line, and other blanks in place of those that follow
one of its first five words, change nothing, nor do other blanks in all of these places. -/
theorem parse_by_words (line : String) :
    (∀ ws, Text.HasWords line.toList ws ↔ Text.words line.toList = ws) ∧
      ((Text.words line.toList).length < 5 →
        Schedule.parse line = .error (.missingFields (Text.words line.toList).length line)) ∧
      (∀ minute hour day month weekday later,
        Text.words line.toList = minute :: hour :: day :: month :: weekday :: later →
          ∃ rest command,
            Text.BeginsWith line.toList [minute, hour, day, month, weekday] rest ∧
              Text.IsTrimmed rest command ∧
              Schedule.parse line = Schedule.ofTokens (.ofList minute) (.ofList hour)
                (.ofList day) (.ofList month) (.ofList weekday) (.ofList command) ∧
              ∀ failure, Schedule.parse line = .error failure ↔
                ∃ c token, Schedule.leftmostRejected [.ofList minute, .ofList hour, .ofList day,
                    .ofList month, .ofList weekday] = some (c, token) ∧
                  failure = .invalidToken c token) ∧
      (5 ≤ (Text.words line.toList).length →
        (∀ before after : String, Text.IsGap before.toList → Text.IsGap after.toList →
          Schedule.parse (before ++ line ++ after) = Schedule.parse line) ∧
        ∀ start gap gap' rest : String, line = start ++ gap ++ rest →
          (Text.words start.toList).length ≤ 5 →
          Text.IsGap gap.toList → gap ≠ "" → Text.IsGap gap'.toList → gap' ≠ "" →
          Schedule.parse (start ++ gap' ++ rest) = Schedule.parse line) ∧
      ∀ (line' : String) (ws : List (List Char)) (rest rest' command : List Char),
        ws.length = 5 →
          Text.BeginsWith line.toList ws rest → Text.BeginsWith line'.toList ws rest' →
          Text.IsTrimmed rest command → Text.IsTrimmed rest' command →
          Schedule.parse line' = Schedule.parse line := by
  refine ⟨fun ws => Text.hasWords_iff, Schedule.parse_of_few_words, ?_, ?_, ?_⟩
  · intro minute hour day month weekday later hwords
    have hlength : 5 ≤ (Text.words line.toList).length := by
      rw [hwords]
      exact Nat.le_add_left 5 later.length
    have hfirst : (Text.takeWords 5 line.toList).1 = [minute, hour, day, month, weekday] := by
      rw [Text.takeWords_fst, hwords]
      rfl
    have hbegins := Text.beginsWith_takeWords hlength
    rw [← Text.takeWords_fst, hfirst] at hbegins
    have hparse := Schedule.parse_of_takeWords (Prod.ext hfirst rfl)
    refine ⟨_, _, hbegins, Text.isTrimmed_trim _, hparse, ?_⟩
    intro failure
    rw [hparse]
    exact Schedule.ofTokens_eq_error_iff
  · intro hlength
    refine ⟨?_, ?_⟩
    · intro before after hbefore hafter
      exact Schedule.parse_blanks_around hlength hbefore hafter
    · rintro start gap gap' rest rfl hstart hgap hne hgap' hne'
      exact Schedule.parse_other_gap hlength hstart hgap hne hgap' hne'
  · intro line' ws rest rest' command hfive h h' hcommand hcommand'
    exact Schedule.parse_of_beginsWith hfive h h' hcommand hcommand'

/-- Three words, and a line in which tabs and wide blanks come after a word. -/
theorem parse_by_words_wide_blanks :
    Schedule.parse "* * 11" = .error (.missingFields 3 "* * 11") ∧
      ∃ line : String, line = "0\t17  * * mon   launch happy\thour  " ∧
        (∃ rest command,
          Text.BeginsWith line.toList
              ["0".toList, "17".toList, "*".toList, "*".toList, "mon".toList] rest ∧
            Text.IsTrimmed rest command ∧
            Schedule.parse line = Schedule.ofTokens "0" "17" "*" "*" "mon" (.ofList command)) ∧
        Schedule.parse line = .error (.invalidToken .weekday "mon") ∧
        Schedule.parse ("\u3000" ++ line ++ "\n") = Schedule.parse line ∧
        Schedule.parse ("0\t17" ++ "\u2003\u00a0" ++ "* * mon   launch happy\thour  ") =
          Schedule.parse line ∧
        Schedule.parse "\t0 17 *\u3000* mon launch happy\thour" = Schedule.parse line := by
  have hfew : (Text.words "* * 11".toList).length = 3 := by cbv
  have hwords : Text.words "0\t17  * * mon   launch happy\thour  ".toList =
      ["0".toList, "17".toList, "*".toList, "*".toList, "mon".toList, "launch".toList,
        "happy".toList, "hour".toList] := by cbv
  have hwords' : Text.words "\t0 17 *\u3000* mon launch happy\thour".toList =
      ["0".toList, "17".toList, "*".toList, "*".toList, "mon".toList, "launch".toList,
        "happy".toList, "hour".toList] := by cbv
  have hstart : (Text.words "0\t17".toList).length = 2 := by cbv
  have hrejected : Schedule.leftmostRejected ["0", "17", "*", "*", "mon"] =
      some (.weekday, "mon") := by cbv
  obtain ⟨-, hmissing, -, -, -⟩ := parse_by_words "* * 11"
  obtain ⟨-, -, htokens, hblanks, hsame⟩ := parse_by_words "0\t17  * * mon   launch happy\thour  "
  obtain ⟨rest, command, hbegins, htrimmed, hparse, herror⟩ := htokens _ _ _ _ _ _ hwords
  obtain ⟨haround, hother⟩ := hblanks (by rw [hwords]; decide)
  rw [hfew] at hmissing
  refine ⟨hmissing (by decide), _, rfl, ⟨rest, command, hbegins, htrimmed, hparse⟩, ?_, ?_, ?_, ?_⟩
  · exact (herror _).2 ⟨_, _, hrejected, rfl⟩
  · exact haround "\u3000" "\n" (by simp [Text.IsGap, Text.isBlank])
      (by simp [Text.IsGap, Text.isBlank])
  · exact hother "0\t17" "  " "\u2003\u00a0" "* * mon   launch happy\thour  " rfl
      (by rw [hstart]; decide) (by simp [Text.IsGap, Text.isBlank]) (by decide)
      (by simp [Text.IsGap, Text.isBlank]) (by decide)
  · have h := Text.beginsWith_takeWords (n := 5) (by rw [hwords]; decide)
    have h' := Text.beginsWith_takeWords (n := 5) (by rw [hwords']; decide)
    rw [hwords] at h
    rw [hwords'] at h'
    refine hsame _ _ _ _ _ rfl h h' (Text.isTrimmed_iff.2 rfl) (Text.isTrimmed_iff.2 ?_)
    cbv

end Timetable
