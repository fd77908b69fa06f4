import Mathlib.Data.List.Basic
import Timetable.Text.Lines
/-!
# The lines of a text

A text is cut into lines in one way only: each line runs up to the next line feed, a carriage
return before that line feed is left out, and what follows the last line feed is a line unless
it is empty. A carriage return anywhere else is a character like any other.

## Main definitions

- `Text.HasLines` — a text is made of these lines

## Main statements

- `Text.lines_append` — a text without line feeds is the beginning of the next line
- `Text.hasLines_iff` — the lines found are the ones the text is made of
-/

namespace Timetable.Text

/-- The text is made of these lines, each with an end, of which the last need not have one. -/
inductive HasLines : List Char → List (List Char) → Prop where
  | none : HasLines [] []
  | last {line : List Char} (hne : line ≠ []) (hfeed : '\n' ∉ line) : HasLines line [line]
  | feed {line text : List Char} {later : List (List Char)} (hfeed : '\n' ∉ line)
    (hreturn : line.getLast? ≠ some '\r') (h : HasLines text later) :
    HasLines (line ++ '\n' :: text) (line :: later)
  | returnFeed {line text : List Char} {later : List (List Char)} (hfeed : '\n' ∉ line)
    (h : HasLines text later) : HasLines (line ++ '\r' :: '\n' :: text) (line :: later)

/-! ## Finding the lines -/

/-- What stands before the end of a line belongs to it. Only a carriage return directly before
a line feed would not. -/
theorem lines_append {begun rest line : List Char} {later : List (List Char)}
    (hfeed : '\n' ∉ begun) (hreturn : begun.getLast? = some '\r' → rest.head? ≠ some '\n')
    (h : lines rest = line :: later) : lines (begun ++ rest) = (begun ++ line) :: later := by
  induction begun with
  | nil => exact h
  | cons c begun ih =>
    rw [List.mem_cons, not_or] at hfeed
    have hlater : lines (begun ++ rest) = (begun ++ line) :: later := by
      apply ih hfeed.2
      intro hlast
      apply hreturn
      rw [List.getLast?_cons, hlast, Option.getD_some]
    rw [List.cons_append, lines, hlater]
    · rfl
    · exact Ne.symm hfeed.1
    · -- The character is no carriage return in front of a line feed.
      intro text hc htext
      cases begun with
      | nil =>
        refine hreturn (by rw [hc, List.getLast?_singleton]) ?_
        rw [← List.nil_append rest, htext, List.head?_cons]
      | cons d begun =>
        rw [List.cons_append, List.cons.injEq] at htext
        exact hfeed.2 (htext.1 ▸ List.mem_cons_self)

theorem lines_last {line : List Char} (hne : line ≠ []) (hfeed : '\n' ∉ line) :
    lines line = [line] := by
  obtain ⟨begun, c, rfl⟩ := (List.eq_nil_or_concat' line).resolve_left hne
  rw [List.mem_append, not_or, List.mem_singleton] at hfeed
  have hc : lines [c] = [[c]] := by
    rw [lines]
    · rfl
    · exact Ne.symm hfeed.2
    · simp
  apply lines_append hfeed.1 _ hc
  rintro - hhead
  exact hfeed.2 (Option.some.inj hhead).symm

theorem lines_feed {line : List Char} (text : List Char) (hfeed : '\n' ∉ line)
    (hreturn : line.getLast? ≠ some '\r') :
    lines (line ++ '\n' :: text) = line :: lines text := by
  have hend : lines ('\n' :: text) = [] :: lines text := by rw [lines]
  rw [lines_append hfeed (fun h => absurd h hreturn) hend, List.append_nil]

theorem lines_returnFeed {line : List Char} (text : List Char) (hfeed : '\n' ∉ line) :
    lines (line ++ '\r' :: '\n' :: text) = line :: lines text := by
  have hend : lines ('\r' :: '\n' :: text) = [] :: lines text := by rw [lines]
  rw [lines_append hfeed (by simp) hend, List.append_nil]

/-- One more character in front of a text, before the end of its first line. -/
theorem HasLines.cons {c : Char} {cs line : List Char} {later : List (List Char)}
    (hfeed : c ≠ '\n') (hreturn : c = '\r' → cs.head? ≠ some '\n')
    (h : HasLines cs (line :: later)) : HasLines (c :: cs) ((c :: line) :: later) := by
  have hline : '\n' ∉ line → '\n' ∉ c :: line := by
    intro hline
    rw [List.mem_cons, not_or]
    exact ⟨Ne.symm hfeed, hline⟩
  cases h with
  | last _ hfeeds => exact .last (List.cons_ne_nil c cs) (hline hfeeds)
  | feed hfeeds hlast htext =>
    refine .feed (hline hfeeds) ?_ htext
    cases line with
    | nil =>
      intro hc
      exact hreturn (Option.some.inj hc) rfl
    | cons d line => rwa [List.getLast?_cons_cons]
  | returnFeed hfeeds htext => exact .returnFeed (hline hfeeds) htext

theorem hasLines_lines (cs : List Char) : HasLines cs (lines cs) := by
  induction cs using lines.induct with
  | case1 => exact .none
  | case2 cs ih =>
    rw [lines]
    exact .feed List.not_mem_nil (by simp) ih
  | case3 cs ih =>
    rw [lines]
    exact .returnFeed List.not_mem_nil ih
  | case4 c cs hfeed hreturn hlines ih =>
    -- Only the empty text has no lines, so the character is the last.
    rw [hlines] at ih
    cases ih
    rw [lines_last (List.cons_ne_nil c []) (by simpa using Ne.symm hfeed)]
    exact .last (List.cons_ne_nil c []) (by simpa using Ne.symm hfeed)
  | case5 c cs hfeed hreturn line later hlines ih =>
    rw [hlines] at ih
    have hnext : c = '\r' → cs.head? ≠ some '\n' := by
      intro hc hhead
      obtain ⟨text, rfl⟩ := List.head?_eq_some_iff.1 hhead
      exact hreturn text hc rfl
    rw [lines, hlines]
    · exact ih.cons hfeed hnext
    · exact hfeed
    · exact hreturn

/-- The lines that are found are those that the text is made of. -/
theorem hasLines_iff {cs : List Char} {ls : List (List Char)} :
    HasLines cs ls ↔ lines cs = ls := by
  constructor
  · intro h
    induction h with
    | none => rfl
    | last hne hfeed => exact lines_last hne hfeed
    | feed hfeed hreturn _ ih => rw [lines_feed _ hfeed hreturn, ih]
    | returnFeed hfeed _ ih => rw [lines_returnFeed _ hfeed, ih]
  · rintro rfl
    exact hasLines_lines cs

end Timetable.Text
