import Mathlib
import Timetable.Proofs.JoinedTexts
/-!
# Other line ends and other lines

How the lines of a text end makes no difference to what is loaded, and neither do lines that hold no
schedule, wherever they stand, except that an error further down is found in a later line. The lines
that hold no schedule are counted, but nothing else is done with them.

## Main definitions

- `Text.withReturns` — a text with a carriage return in front of each line feed
- `Text.Block` — a line with the lines that are inserted in front of it
- `Text.allLines`, `Text.inserted` — the lines of all blocks, and how many of them are inserted

## Main statements

- `Text.linesOf_withReturns` — the lines of a text with other line ends
- `Crontab.readLines_linesOf_intercalate` — reading lines that were joined to a text
- `Crontab.readLines_eq_error_iff` — the first error among lines
- `Crontab.readLines_allLines_eq_ok_iff`, `Crontab.exists_block_of_readLines` — the schedules and
  the first error among lines between which others are inserted
- `loading_ignores_other_lines` — loading texts that differ in either way
-/

namespace Timetable

namespace Text

/-! ## Line ends -/

/-- The characters with a carriage return in front of each line feed. -/
def returnFeeds (cs : List Char) : List Char :=
  cs.flatMap fun c => if c = '\n' then ['\r', '\n'] else [c]

/-- The text with a carriage return in front of each line feed. -/
def withReturns (text : String) : String :=
  String.ofList (returnFeeds text.toList)

theorem returnFeeds_of_notMem {cs : List Char} (hfeed : '\n' ∉ cs) : returnFeeds cs = cs := by
  induction cs with
  | nil => rfl
  | cons c cs ih =>
    rw [List.mem_cons, not_or] at hfeed
    have hlater : returnFeeds cs = cs := ih hfeed.2
    rw [returnFeeds, List.flatMap_cons, if_neg (Ne.symm hfeed.1), ← returnFeeds, hlater,
      List.singleton_append]

theorem returnFeeds_append_feed {line : List Char} (text : List Char) (hfeed : '\n' ∉ line) :
    returnFeeds (line ++ '\n' :: text) = line ++ '\r' :: '\n' :: returnFeeds text := by
  have hline := returnFeeds_of_notMem hfeed
  rw [returnFeeds] at hline
  rw [returnFeeds, List.flatMap_append, hline]
  rfl

/-- Each line ends in another way, and is the same. -/
theorem HasLines.returnFeeds {cs : List Char} {ls : List (List Char)} (h : HasLines cs ls)
    (hreturn : '\r' ∉ cs) : HasLines (returnFeeds cs) ls := by
  induction h with
  | none => exact .none
  | last hne hfeed =>
    rw [returnFeeds_of_notMem hfeed]
    exact .last hne hfeed
  | feed hfeed _ _ ih =>
    rw [returnFeeds_append_feed _ hfeed]
    refine .returnFeed hfeed (ih fun hmem => hreturn ?_)
    exact List.mem_append_right _ (List.mem_cons_of_mem _ hmem)
  | returnFeed => simp at hreturn

theorem linesOf_withReturns {text : String} (hreturn : '\r' ∉ text.toList) :
    linesOf (withReturns text) = linesOf text := by
  rw [linesOf, withReturns, String.toList_ofList,
    hasLines_iff.1 ((hasLines_lines text.toList).returnFeeds hreturn), linesOf]

/-! ## Lines with other lines between them -/

/-- A line with the lines that are inserted in front of it. -/
structure Block where
  inserted : List String
  line : String

def Block.lines (b : Block) : List String :=
  b.inserted ++ [b.line]

/-- All lines, each one after those inserted in front of it. -/
def allLines (blocks : List Block) : List String :=
  blocks.flatMap Block.lines

/-- How many lines are inserted. -/
def inserted (blocks : List Block) : Nat :=
  (blocks.flatMap Block.inserted).length

theorem allLines_cons (b : Block) (blocks : List Block) :
    allLines (b :: blocks) = b.inserted ++ b.line :: allLines blocks := by
  rw [allLines, List.flatMap_cons, ← allLines, Block.lines, List.append_assoc,
    List.singleton_append]

theorem inserted_cons (b : Block) (blocks : List Block) :
    inserted (b :: blocks) = b.inserted.length + inserted blocks := by
  rw [inserted, List.flatMap_cons, List.length_append, ← inserted]

theorem allLines_append (front later : List Block) :
    allLines (front ++ later) = allLines front ++ allLines later :=
  List.flatMap_append

theorem inserted_append_singleton (front : List Block) (b : Block) :
    inserted (front ++ [b]) = inserted front + b.inserted.length := by
  rw [inserted, List.flatMap_append, List.flatMap_singleton, List.length_append, ← inserted]

/-- Each line is an own one or an inserted one. -/
theorem mem_allLines_append {blocks : List Block} {after : List String} {line : String} :
    line ∈ allLines blocks ++ after ↔
      line ∈ blocks.map Block.line ∨ line ∈ blocks.flatMap Block.inserted ++ after := by
  induction blocks with
  | nil => simp [allLines]
  | cons b blocks ih =>
    rw [allLines_cons, List.map_cons, List.flatMap_cons]
    simp only [List.mem_append, List.mem_cons] at ih ⊢
    rw [or_assoc, or_assoc, ih]
    tauto

theorem length_allLines (blocks : List Block) :
    (allLines blocks).length = blocks.length + inserted blocks := by
  induction blocks with
  | nil => rfl
  | cons b blocks ih =>
    rw [allLines_cons, inserted_cons, List.length_append, List.length_cons, List.length_cons, ih]
    omega

/-! ## Joined lines -/

/-- A joined line is found again, without a carriage return if it has one at its end. -/
theorem exists_lines_append_feed {line : List Char} (text : List Char) (hfeed : '\n' ∉ line) :
    ∃ shown, lines (line ++ '\n' :: text) = shown :: lines text ∧
      (line = shown ∨ line = shown ++ ['\r']) := by
  by_cases hreturn : line.getLast? = some '\r'
  · obtain ⟨shown, rfl⟩ := List.getLast?_eq_some_iff.1 hreturn
    rw [List.append_assoc]
    exact ⟨shown, lines_returnFeed text fun hmem => hfeed (List.mem_append_left _ hmem), .inr rfl⟩
  · exact ⟨line, lines_feed text hfeed hreturn, .inl rfl⟩

end Text

/-- A carriage return at its end has no say in what a line is meant to hold, since it is a blank. -/
theorem isScheduleLine_append_return (line : List Char) :
    isScheduleLine (String.ofList (line ++ ['\r'])) = isScheduleLine (String.ofList line) := by
  rw [isScheduleLine, isScheduleLine, String.toList_ofList, String.toList_ofList, Text.trimStart,
    Text.trimStart, List.dropWhile_append]
  cases List.dropWhile Text.isBlank line with
  | nil => rfl
  | cons c cs => rfl

namespace Crontab

/-! ## Reading joined lines -/

theorem readLines_cons_of_not {n : Nat} {line : String} (later : List String)
    (hline : isScheduleLine line = false) :
    readLines n (line :: later) = readLines (n + 1) later := by
  rw [readLines, hline, if_neg Bool.false_ne_true]

/-- What is read of the first line depends on the line only if it may hold a schedule. -/
theorem readLines_cons_congr {n : Nat} {line shown : String} {later later' : List String}
    (hsame : isScheduleLine line = true → shown = line)
    (hschedule : isScheduleLine shown = isScheduleLine line)
    (hlater : readLines (n + 1) later = readLines (n + 1) later') :
    readLines n (shown :: later) = readLines n (line :: later') := by
  by_cases hline : isScheduleLine line = true
  · rw [hsame hline, readLines, readLines, hlater]
  · rw [Bool.not_eq_true] at hline
    rw [readLines_cons_of_not _ hline, readLines_cons_of_not _ (hschedule.trans hline), hlater]

/-- Lines that are joined are read as they were, as long as none holds a line feed and no
schedule ends in what would belong to the end of its line. -/
theorem readLines_linesOf_intercalate {n : Nat} {lines : List String}
    (hfeed : ∀ line ∈ lines, '\n' ∉ line.toList)
    (hreturn : ∀ line ∈ lines, isScheduleLine line = true → '\r' ∉ line.toList) :
    readLines n (Text.linesOf ("\n".intercalate lines)) = readLines n lines := by
  induction lines generalizing n with
  | nil => rfl
  | cons line later ih =>
    rw [List.forall_mem_cons] at hfeed hreturn
    cases later with
    | nil =>
      rw [String.intercalate_singleton, Text.linesOf]
      by_cases hempty : line = ""
      · -- The empty text has no line, but an empty line would be passed over.
        subst hempty
        rfl
      · have hne : line.toList ≠ [] := fun hnil => hempty (String.toList_eq_nil_iff.1 hnil)
        rw [Text.lines_last hne hfeed.1, List.map_singleton, String.ofList_toList]
    | cons next later =>
      obtain ⟨shown, hlines, hshown⟩ :=
        Text.exists_lines_append_feed ("\n".intercalate (next :: later)).toList hfeed.1
      rw [String.intercalate_cons_cons, Text.linesOf, String.toList_append, String.toList_append,
        List.append_assoc, show "\n".toList = ['\n'] from rfl, List.singleton_append, hlines,
        List.map_cons, ← Text.linesOf]
      refine readLines_cons_congr ?_ ?_ (ih hfeed.2 hreturn.2)
      · intro hline
        obtain hshown | hshown := hshown
        · rw [← hshown, String.ofList_toList]
        · exact absurd (hshown ▸ by simp) (hreturn.1 hline)
      · obtain hshown | hshown := hshown
        · rw [← hshown, String.ofList_toList]
        · rw [← isScheduleLine_append_return, ← hshown, String.ofList_toList]

/-! ## The first error -/

theorem readLines_append_of_ok {n : Nat} {first : List String} {schedules : List Schedule}
    (later : List String) (h : readLines n first = .ok schedules) :
    readLines n (first ++ later) =
      (readLines (n + first.length) later).map (schedules ++ ·) := by
  rw [readLines_append, h]
  rfl

theorem readLines_singleton_eq_error {n : Nat} {line : String} {failure : Error}
    (h : readLines n [line] = .error failure) :
    isScheduleLine line = true ∧
      ∃ error, Schedule.parse line = .error error ∧ failure = .atLine n error := by
  rw [readLines] at h
  by_cases hline : isScheduleLine line = true
  · rw [if_pos hline] at h
    cases hparse : Schedule.parse line with
    | ok schedule =>
      rw [hparse] at h
      cases h
    | error error =>
      rw [hparse] at h
      cases h
      exact ⟨hline, error, rfl, rfl⟩
  · rw [if_neg hline] at h
    cases h

/-- The error is that of the first line that is not understood. The lines before it are read. -/
theorem readLines_eq_error_iff {n : Nat} {lines : List String} {failure : Error} :
    readLines n lines = .error failure ↔
      ∃ before line later error, lines = before ++ line :: later ∧
        (∃ schedules, readLines n before = .ok schedules) ∧ isScheduleLine line = true ∧
        Schedule.parse line = .error error ∧ failure = .atLine (n + before.length) error := by
  constructor
  · intro h
    induction lines generalizing n with
    | nil => cases h
    | cons line later ih =>
      rw [← List.singleton_append] at h
      cases hfirst : readLines n [line] with
      | error error =>
        rw [readLines_append, hfirst] at h
        cases h
        obtain ⟨hline, error, hparse, rfl⟩ := readLines_singleton_eq_error hfirst
        exact ⟨[], line, later, error, rfl, ⟨[], rfl⟩, hline, hparse, rfl⟩
      | ok schedules =>
        rw [readLines_append_of_ok later hfirst, map_eq_error_iff] at h
        obtain ⟨before, wrong, rest, error, rfl, ⟨schedules', hbefore⟩, hline, hparse, rfl⟩ := ih h
        refine ⟨line :: before, wrong, rest, error, rfl, ⟨schedules ++ schedules', ?_⟩, hline,
          hparse, ?_⟩
        · rw [← List.singleton_append, readLines_append_of_ok before hfirst, hbefore]
          rfl
        · rw [Nat.add_assoc, ← List.length_append, List.singleton_append]
  · rintro ⟨before, line, later, error, rfl, ⟨schedules, hbefore⟩, hline, hparse, rfl⟩
    rw [readLines_append_of_ok _ hbefore, readLines, if_pos hline, hparse]
    rfl

/-! ## Reading with other lines in between -/

theorem readText_intercalate_own {blocks : List Text.Block}
    (hown : ∀ line ∈ blocks.map Text.Block.line, '\n' ∉ line.toList ∧ '\r' ∉ line.toList) :
    readText ("\n".intercalate (blocks.map Text.Block.line)) =
      readLines 1 (blocks.map Text.Block.line) :=
  readLines_linesOf_intercalate (fun line hmem => (hown line hmem).1)
    fun line hmem _ => (hown line hmem).2

/-- Inserted lines may hold carriage returns, as they are passed over with them or without. -/
theorem readText_intercalate_allLines {blocks : List Text.Block} {after : List String}
    (hown : ∀ line ∈ blocks.map Text.Block.line, '\n' ∉ line.toList ∧ '\r' ∉ line.toList)
    (hother : ∀ line ∈ blocks.flatMap Text.Block.inserted ++ after,
      '\n' ∉ line.toList ∧ isScheduleLine line = false) :
    readText ("\n".intercalate (Text.allLines blocks ++ after)) =
      readLines 1 (Text.allLines blocks ++ after) := by
  apply readLines_linesOf_intercalate
  · intro line hmem
    obtain hmem | hmem := Text.mem_allLines_append.1 hmem
    · exact (hown line hmem).1
    · exact (hother line hmem).1
  · intro line hmem hline
    obtain hmem | hmem := Text.mem_allLines_append.1 hmem
    · exact (hown line hmem).2
    · exact absurd hline (Bool.eq_false_iff.1 (hother line hmem).2)

theorem filter_allLines {blocks : List Text.Block} {after : List String}
    (hother : ∀ line ∈ blocks.flatMap Text.Block.inserted ++ after, isScheduleLine line = false) :
    (Text.allLines blocks ++ after).filter isScheduleLine =
      (blocks.map Text.Block.line).filter isScheduleLine := by
  induction blocks with
  | nil =>
    rw [List.map_nil, List.filter_nil, List.filter_eq_nil_iff]
    exact fun line hmem => Bool.eq_false_iff.1 (hother line hmem)
  | cons b blocks ih =>
    rw [List.flatMap_cons, List.append_assoc, List.forall_mem_append] at hother
    have hinserted : b.inserted.filter isScheduleLine = [] :=
      List.filter_eq_nil_iff.2 fun line hmem => Bool.eq_false_iff.1 (hother.1 line hmem)
    rw [Text.allLines_cons, List.append_assoc, List.filter_append, hinserted, List.nil_append,
      List.cons_append, List.map_cons, List.filter_cons, List.filter_cons, ih hother.2]

theorem readLines_allLines_eq_ok_iff {n : Nat} {blocks : List Text.Block} {after : List String}
    {schedules : List Schedule}
    (hother : ∀ line ∈ blocks.flatMap Text.Block.inserted ++ after, isScheduleLine line = false) :
    readLines n (Text.allLines blocks ++ after) = .ok schedules ↔
      readLines n (blocks.map Text.Block.line) = .ok schedules := by
  rw [readLines_eq_ok_iff, readLines_eq_ok_iff, filter_allLines hother]

/-- The first error is in the same line, which has other lines in front of it. -/
theorem exists_block_of_readLines {n : Nat} {blocks : List Text.Block} {after : List String}
    {failure : Error}
    (hother : ∀ line ∈ blocks.flatMap Text.Block.inserted ++ after, isScheduleLine line = false)
    (h : readLines n (blocks.map Text.Block.line) = .error failure) :
    ∃ front block later error, blocks = front ++ block :: later ∧
      Schedule.parse block.line = .error error ∧ failure = .atLine (n + front.length) error ∧
      readLines n (Text.allLines blocks ++ after) =
        .error (.atLine (n + front.length + Text.inserted (front ++ [block])) error) := by
  obtain ⟨before, line, rest, error, hsplit, ⟨schedules, hread⟩, hline, hparse, rfl⟩ :=
    readLines_eq_error_iff.1 h
  obtain ⟨front, blocks, rfl, rfl, hblocks⟩ := List.map_eq_append_iff.1 hsplit
  obtain ⟨block, later, rfl, rfl, -⟩ := List.map_eq_cons_iff.1 hblocks
  have hbefore : ∀ line ∈ front.flatMap Text.Block.inserted ++ block.inserted,
      isScheduleLine line = false := by
    intro line hmem
    apply hother
    rw [List.flatMap_append, List.flatMap_cons, ← List.append_assoc]
    exact List.mem_append_left _ (List.mem_append_left _ hmem)
  refine ⟨front, block, later, error, rfl, hparse, by rw [List.length_map], ?_⟩
  rw [readLines_eq_error_iff]
  refine ⟨Text.allLines front ++ block.inserted, block.line, Text.allLines later ++ after, error,
    ?_, ⟨schedules, (readLines_allLines_eq_ok_iff hbefore).2 hread⟩, hline, hparse, ?_⟩
  · rw [Text.allLines_append, Text.allLines_cons]
    simp only [List.append_assoc, List.cons_append]
  · rw [List.length_append, Text.length_allLines, Text.inserted_append_singleton]
    simp only [Nat.add_assoc]

end Crontab

/-- A text without carriage returns is loaded in the same way with one in front of each line feed.
And lines that are joined to a text are loaded in the same way with others that hold no schedule
inserted in front of them, between them and after them. The answer is the same and leaves the same
crontab, but an error is found further down, by as many lines as are inserted before its own. -/
theorem loading_ignores_other_lines (c : Crontab) :
    (∀ text : String, '\r' ∉ text.toList →
      c.loadText (Text.withReturns text) = c.loadText text) ∧
      ∀ (blocks : List Text.Block) (after : List String),
        (∀ line ∈ blocks.map Text.Block.line, '\n' ∉ line.toList ∧ '\r' ∉ line.toList) →
        (∀ line ∈ blocks.flatMap Text.Block.inserted ++ after,
          '\n' ∉ line.toList ∧ isScheduleLine line = false) →
        (∀ count,
          (c.loadText ("\n".intercalate (blocks.map Text.Block.line))).1 = .ok count →
            c.loadText ("\n".intercalate (Text.allLines blocks ++ after)) =
              (.ok count, (c.loadText ("\n".intercalate (blocks.map Text.Block.line))).2)) ∧
          ∀ failure,
            (c.loadText ("\n".intercalate (blocks.map Text.Block.line))).1 = .error failure →
              ∃ front block later error, blocks = front ++ block :: later ∧
                Schedule.parse block.line = .error error ∧
                c.loadText ("\n".intercalate (blocks.map Text.Block.line)) =
                  (.error (.atLine (front.length + 1) error), c) ∧
                c.loadText ("\n".intercalate (Text.allLines blocks ++ after)) =
                  (.error (.atLine
                    (front.length + 1 + Text.inserted (front ++ [block])) error), c) := by
  refine ⟨fun text hreturn => ?_, fun blocks after hown hother => ?_⟩
  · rw [Crontab.loadText_eq, Crontab.readText_eq, Text.linesOf_withReturns hreturn,
      ← Crontab.readText_eq, ← Crontab.loadText_eq]
  · have hskipped := fun line hmem => (hother line hmem).2
    have hread := Crontab.readText_intercalate_own hown
    have hreadAll := Crontab.readText_intercalate_allLines hown hother
    cases hresult : Crontab.readLines 1 (blocks.map Text.Block.line) with
    | ok schedules =>
      have hall := (Crontab.readLines_allLines_eq_ok_iff hskipped).2 hresult
      rw [Crontab.loadText_of_readText_ok (hread.trans hresult),
        Crontab.loadText_of_readText_ok (hreadAll.trans hall)]
      constructor
      · intro count hcount
        rw [← hcount]
      · intro failure hfailure
        cases hfailure
    | error failure =>
      obtain ⟨front, block, later, error, hblocks, hparse, rfl, hall⟩ :=
        Crontab.exists_block_of_readLines hskipped hresult
      rw [Nat.add_comm 1] at hresult hall
      rw [Crontab.loadText_of_readText_error (hread.trans hresult),
        Crontab.loadText_of_readText_error (hreadAll.trans hall)]
      constructor
      · intro count hcount
        cases hcount
      · intro _ _
        exact ⟨front, block, later, error, hblocks, hparse, rfl, rfl⟩

/-- Two lines that can be loaded and two of which the second has an error, with a comment, a
setting, blanks of several kinds and stray carriage returns between them; and a text whose last
line has no end. -/
theorem loading_ignores_other_lines_of_blanks :
    ∃ (c : Crontab) (text : String) (blocks wrong : List Text.Block) (after : List String),
      text = "# nightly\n\n0 1 * * * first\n0 3 * * * second" ∧ '\r' ∉ text.toList ∧
        Text.withReturns text = "# nightly\r\n\r\n0 1 * * * first\r\n0 3 * * * second" ∧
        blocks = [⟨["# nightly", "\u3000 "], "0 1 * * * first"⟩, ⟨[], ""⟩,
          ⟨["\r", "LANG=C\r"], "0 3 * * * second"⟩] ∧
        wrong = [⟨["# nightly", "\u3000 "], "0 1 * * * first"⟩,
          ⟨["\r"], "0 3 * bad * second"⟩, ⟨["# more"], "x"⟩] ∧
        after = ["\u2003# end", ""] ∧
        "\n".intercalate (Text.allLines blocks ++ after) =
          "# nightly\n\u3000 \n0 1 * * * first\n\n\r\nLANG=C\r\n0 3 * * * second\n\u2003# end\n" ∧
        c.jobs.length = 1 ∧
        c.loadText (Text.withReturns text) = c.loadText text ∧
        (c.loadText ("\n".intercalate (blocks.map Text.Block.line))).1 = .ok 2 ∧
        c.loadText ("\n".intercalate (Text.allLines blocks ++ after)) =
          (.ok 2, (c.loadText ("\n".intercalate (blocks.map Text.Block.line))).2) ∧
        c.loadText ("\n".intercalate (wrong.map Text.Block.line)) =
          (.error (.atLine 2 (.invalidToken .month "bad")), c) ∧
        c.loadText ("\n".intercalate (Text.allLines wrong ++ after)) =
          (.error (.atLine 5 (.invalidToken .month "bad")), c) := by
  let w : Window :=
    ⟨⟨⟨2011, 10, 11, by decide⟩, 0, 0, 0, 0, by decide⟩,
      ⟨⟨2011, 10, 12, by decide⟩, 0, 0, 0, 0, by decide⟩,
      _, _, rfl, rfl, by decide, by decide, by decide, rfl, rfl⟩
  let c := (Crontab.empty w .builtin).after [.withThreads 4, .addLine "30 2 * * * earlier"]
  let s : Schedule :=
    ⟨⟨[0]⟩, ⟨[1]⟩, .full .day, .full .month, .full .weekday, "first"⟩
  let t : Schedule :=
    ⟨⟨[0]⟩, ⟨[3]⟩, .full .day, .full .month, .full .weekday, "second"⟩
  let blocks : List Text.Block := [⟨["# nightly", "\u3000 "], "0 1 * * * first"⟩, ⟨[], ""⟩,
    ⟨["\r", "LANG=C\r"], "0 3 * * * second"⟩]
  let wrong : List Text.Block := [⟨["# nightly", "\u3000 "], "0 1 * * * first"⟩,
    ⟨["\r"], "0 3 * bad * second"⟩, ⟨["# more"], "x"⟩]
  let after := ["\u2003# end", ""]
  have hown : "\n".intercalate (blocks.map Text.Block.line) =
      "0 1 * * * first\n\n0 3 * * * second" := by rfl
  have hownWrong : "\n".intercalate (wrong.map Text.Block.line) =
      "0 1 * * * first\n0 3 * bad * second\nx" := by rfl
  have hread : Crontab.readText "0 1 * * * first\n\n0 3 * * * second" = .ok [s, t] := by rfl
  have hreadWrong : Crontab.readText "0 1 * * * first\n0 3 * bad * second\nx" =
      .error (.atLine 2 (.invalidToken .month "bad")) := by rfl
  have hok : c.loadText ("\n".intercalate (blocks.map Text.Block.line)) =
      (.ok 2, c.adding [s, t]) := by
    rw [hown]
    exact Crontab.loadText_of_readText_ok hread
  have herror : c.loadText ("\n".intercalate (wrong.map Text.Block.line)) =
      (.error (.atLine 2 (.invalidToken .month "bad")), c) := by
    rw [hownWrong]
    exact Crontab.loadText_of_readText_error hreadWrong
  obtain ⟨hends, hlines⟩ := loading_ignores_other_lines c
  obtain ⟨hcount, -⟩ := hlines blocks after (by decide) (by decide)
  obtain ⟨-, hfailure⟩ := hlines wrong after (by decide) (by decide)
  obtain ⟨front, block, later, error, hsplit, -, hagain, hall⟩ := hfailure _ (by rw [herror])
  -- The number of the failing line tells how many blocks are in front of it.
  rw [herror] at hagain
  injection hagain with hresult
  injection hresult with hresult
  injection hresult with hplace hinner
  have hfront : front = wrong.take 1 ∧ block = wrong[1] := by
    obtain ⟨first, rfl⟩ := List.length_eq_one_iff.1 (Nat.succ.inj hplace).symm
    injection hsplit with hfirst hrest
    injection hrest with hblock
    exact ⟨by rw [← hfirst]; rfl, hblock.symm⟩
  rw [hfront.1, hfront.2, ← hinner] at hall
  exact ⟨c, _, blocks, wrong, after, rfl, by decide, by rfl, rfl, rfl, rfl, by rfl, rfl,
    hends _ (by decide), by rw [hok], hcount 2 (by rw [hok]), herror, hall⟩

end Timetable
