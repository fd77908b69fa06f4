import Mathlib
import Timetable.CommandLine.Run
import Timetable.Proofs.WindowEnds
/-!
# Settings that are overridden

Each end of the window of a run is settled by the first that there is of its flag, its configured
value and the day of the run, which begins at 00:00 and ends with the minute 23:59. What comes after
that one is not read, and so it can neither move the window nor make the run fail. In the same way a
configuration that is named keeps the run from looking for another one.

## Main definitions

- `Moment.IsMinute` — the moment at which a minute of a day begins
- `Settles` — what settles an end of a window
- `Window.Joins` — what becomes of two ends

## Main statements

- `resolveWindow_eq_iff` — the window of a run, or the first error on the way to it
- `resolveWindow_congr` — what the window of a run does not depend on
- `overridden_settings_do_not_count` — the window and the configuration together
-/

namespace Timetable

/-! ## One end of a window -/

/-- The moment at which a minute of a day begins. -/
structure Moment.IsMinute (t : Moment) (date : Date) (hour minute : Nat) : Prop where
  date : t.date = date
  hour : t.hour = hour
  minute : t.minute = minute
  second : t.second = 0
  nano : t.nano = 0

theorem Moment.IsMinute.unique {t u : Moment} {date : Date} {hour minute : Nat}
    (ht : t.IsMinute date hour minute) (hu : u.IsMinute date hour minute) : t = u :=
  Moment.ext (ht.date.trans hu.date.symm) (ht.hour.trans hu.hour.symm)
    (ht.minute.trans hu.minute.symm) (ht.second.trans hu.second.symm) (ht.nano.trans hu.nano.symm)

theorem Moment.isMinute_firstOf (date : Date) : (firstOf date).IsMinute date 0 0 :=
  ⟨rfl, rfl, rfl, rfl, rfl⟩

theorem Moment.isMinute_lastOf (date : Date) : (lastOf date).IsMinute date 23 59 :=
  ⟨rfl, rfl, rfl, rfl, rfl⟩

/-- An end of a window is the value of its flag, or else the configured one, or else a minute of the
day. Only that value is read. -/
inductive Settles (flag configured : Option String) (today : Date) (hour minute : Nat) :
    Except Error Moment → Prop
  | flag {value : String} (h : flag = some value) :
      Settles flag configured today hour minute (Window.parseTimestamp value)
  | configured {value : String} (hflag : flag = none) (h : configured = some value) :
      Settles flag configured today hour minute (Window.parseTimestamp value)
  | today {t : Moment} (hflag : flag = none) (hconfigured : configured = none)
      (h : t.IsMinute today hour minute) : Settles flag configured today hour minute (.ok t)

section

variable {flag configured configured' : Option String} {ofDay ofDay' : Moment}

theorem settles_iff {today : Date} {hour minute : Nat} (hday : ofDay.IsMinute today hour minute)
    {bound : Except Error Moment} :
    Settles flag configured today hour minute bound ↔
      momentOr ofDay (flag <|> configured) = bound := by
  constructor
  · intro h
    cases h with
    | flag h =>
      rw [h]
      rfl
    | configured hflag h =>
      rw [hflag, h]
      rfl
    | today hflag hconfigured h =>
      rw [hflag, hconfigured, h.unique hday]
      rfl
  · rintro rfl
    cases flag with
    | some value => exact .flag rfl
    | none =>
      cases configured with
      | some value => exact .configured rfl rfl
      | none => exact .today rfl rfl hday

/-- The configured value counts only without a flag, and the day only without both. -/
theorem momentOr_congr (hconfigured : flag.isSome ∨ configured = configured')
    (hday : ofDay = ofDay' ∨ flag.isSome ∨ configured.isSome) :
    momentOr ofDay (flag <|> configured) = momentOr ofDay' (flag <|> configured') := by
  cases flag with
  | some value => rfl
  | none =>
    -- Without a flag the configured values are the same, so that only the day may differ.
    obtain hconfigured | rfl := hconfigured
    · cases hconfigured
    · cases configured with
      | some value => rfl
      | none =>
        obtain rfl | hset | hset := hday
        · rfl
        · cases hset
        · cases hset

end

/-! ## Both ends together -/

/-- The error of the earliest end comes first, then that of the latest one. Only two ends without
an error are made a window, which may still be refused. -/
inductive Window.Joins :
    Except Error Moment → Except Error Moment → Except Error Window → Prop
  | earliest {cause : Error} {last : Except Error Moment} : Joins (.error cause) last (.error cause)
  | latest {first : Moment} {cause : Error} : Joins (.ok first) (.error cause) (.error cause)
  | ends {first last : Moment} : Joins (.ok first) (.ok last) (Window.new first last)

theorem Window.joins_iff {first last : Except Error Moment} {result : Except Error Window} :
    Joins first last result ↔ (first >>= fun t => last >>= fun u => new t u) = result := by
  constructor
  · intro h
    cases h with
    | earliest => rfl
    | latest => rfl
    | ends => rfl
  · rintro rfl
    cases first with
    | error cause => exact .earliest
    | ok t =>
      cases last with
      | error cause => exact .latest
      | ok u => exact .ends

/-- The ends of a window are joined to it. -/
theorem Window.joins_ends (w : Window) : Joins (.ok w.earliest) (.ok w.latest) (.ok w) := by
  have h : Joins (.ok w.earliest) (.ok w.latest) (new w.earliest w.latest) := .ends
  rwa [w.new_ends] at h

section

variable {earliest latest : Option String} {configured configured' : Option Bounds}
  {today today' : Date}

theorem resolveWindow_eq_iff {result : Except Error Window} :
    resolveWindow earliest latest configured today = result ↔
      ∃ first last, Settles earliest (configured.map Bounds.earliest) today 0 0 first ∧
        Settles latest (configured.map Bounds.latest) today 23 59 last ∧
        Window.Joins first last result := by
  have hfirst := Moment.isMinute_firstOf today
  have hlast := Moment.isMinute_lastOf today
  simp only [settles_iff hfirst, settles_iff hlast, Window.joins_iff, exists_and_left,
    exists_eq_left', resolveWindow]

/-- The window of a run does not depend on a configured end whose flag is given, nor on the day
if both ends are given otherwise. -/
theorem resolveWindow_congr
    (hearliest : earliest.isSome ∨
      configured.map Bounds.earliest = configured'.map Bounds.earliest)
    (hlatest : latest.isSome ∨ configured.map Bounds.latest = configured'.map Bounds.latest)
    (htoday : today = today' ∨
      (earliest.isSome ∨ configured.isSome) ∧ (latest.isSome ∨ configured.isSome)) :
    resolveWindow earliest latest configured today =
      resolveWindow earliest latest configured' today' := by
  rw [resolveWindow, resolveWindow, momentOr_congr hearliest, momentOr_congr hlatest]
  · rw [Option.isSome_map]
    exact htoday.imp (congrArg Moment.lastOf) And.right
  · rw [Option.isSome_map]
    exact htoday.imp (congrArg Moment.firstOf) And.left

end

/-! ## A configuration that is named -/

/-- A configuration that is named is loaded from its file alone. -/
theorem run_loadConfigOr_of_named (today : Date) (input : Except FileFailure String)
    (explain : String → String) (storage : Storage) (path fallback : String) (files : FileTree) :
    (loadConfigOr (Host.inMemory today input explain storage) (some path) fallback).run.run files =
      ((Config.load path (files.readText path) explain).mapError (.config path), files) :=
  rfl

/-- The window of a run is made of the ends that are settled by a flag, else by the configuration,
else by the day, from 00:00 to 23:59, and an error of the earliest end comes before one of the
latest end and before one of the window. So a configured end whose flag is given does not count,
whether or not it can be read, and neither does the day if both ends are given otherwise. A
configuration that is named comes out the same, or fails the same, from all files in which its own
has the same contents, whatever there is to fall back on. -/
theorem overridden_settings_do_not_count (earliest latest : Option String)
    (configured configured' : Option Bounds) (today today' : Date)
    (input input' : Except FileFailure String) (explain : String → String)
    (storage storage' : Storage) (path fallback fallback' : String) (files files' : FileTree) :
    (∀ result, resolveWindow earliest latest configured today = result ↔
      ∃ first last, Settles earliest (configured.map Bounds.earliest) today 0 0 first ∧
        Settles latest (configured.map Bounds.latest) today 23 59 last ∧
        Window.Joins first last result) ∧
    ((earliest.isSome ∨ configured.map Bounds.earliest = configured'.map Bounds.earliest) →
      (latest.isSome ∨ configured.map Bounds.latest = configured'.map Bounds.latest) →
      (today = today' ∨
        (earliest.isSome ∨ configured.isSome) ∧ (latest.isSome ∨ configured.isSome)) →
      resolveWindow earliest latest configured today =
        resolveWindow earliest latest configured' today') ∧
    (files.readText path = files'.readText path →
      (loadConfigOr (Host.inMemory today input explain storage) (some path) fallback).run.run
            files =
          ((Config.load path (files.readText path) explain).mapError (.config path), files) ∧
        (loadConfigOr (Host.inMemory today' input' explain storage') (some path) fallback').run.run
            files' =
          ((Config.load path (files.readText path) explain).mapError (.config path), files')) := by
  refine ⟨fun result => resolveWindow_eq_iff, resolveWindow_congr, ?_⟩
  intro hcontents
  constructor
  · exact run_loadConfigOr_of_named today input explain storage path fallback files
  · rw [hcontents]
    exact run_loadConfigOr_of_named today' input' explain storage' path fallback' files'

/-- A day without any setting, and with a flag for the latest end only; a flag for the earliest end
only, over configured values that cannot be read, on two days; and a configuration that is named,
with a broken one to fall back on or with none. -/
theorem overridden_settings_do_not_count_if_broken :
    ∃ today today' : Date, ∃ whole longer w : Window, ∃ cause : Error, ∃ files files' : FileTree,
      today ≠ today' ∧ Window.parse "2000-02-28 00:00" "2000-02-29 12:00" = .ok w ∧
        resolveWindow none none none today = .ok whole ∧
        whole.text = "2000-02-28 00:00..2000-02-28 23:59" ∧
        resolveWindow none (some "2000-02-29 06:00") none today = .ok longer ∧
        longer.text = "2000-02-28 00:00..2000-02-29 06:00" ∧
        resolveWindow none none (some ⟨"yesterday", "2000-02-29 12:00"⟩) today = .error cause ∧
        resolveWindow (some "2000-02-28 00:00") none (some ⟨"yesterday", "2000-02-29 12:00"⟩)
          today = .ok w ∧
        resolveWindow (some "2000-02-28 00:00") none (some ⟨"", "2000-02-29 12:00"⟩) today' =
          .ok w ∧
        files.readText fallbackConfig = .error .notUtf8 ∧
        files'.readText fallbackConfig = .error .notFound ∧
        (loadConfigOr (Host.inMemory today (.ok "")) (some "named") fallbackConfig).run.run files =
          (.ok .default, files) ∧
        (loadConfigOr (Host.inMemory today' (.ok "")) (some "named") fallbackConfig).run.run
          files' = (.ok .default, files') := by
  let today : Date := ⟨2000, 2, 28, by decide⟩
  let today' : Date := ⟨2000, 2, 29, by decide⟩
  let noon : Moment := ⟨today', 12, 0, 0, 0, by decide⟩
  let six : Moment := ⟨today', 6, 0, 0, 0, by decide⟩
  let whole : Window := ⟨.firstOf today, .lastOf today, _, _, rfl, rfl, by decide, by decide,
    by decide, rfl, rfl⟩
  let longer : Window := ⟨.firstOf today, six, _, _, rfl, rfl, by decide, by decide, by decide,
    rfl, rfl⟩
  let w : Window := ⟨.firstOf today, noon, _, _, rfl, rfl, by decide, by decide, by decide, rfl,
    rfl⟩
  let files : FileTree :=
    ⟨["home"], [(["home", "named"], .file (some "")), (["home", fallbackConfig], .file none)]⟩
  let files' : FileTree := ⟨["home"], [(["home", "named"], .file (some ""))]⟩
  obtain ⟨hresolve, hsame, hload⟩ := overridden_settings_do_not_count (some "2000-02-28 00:00") none
    (some ⟨"yesterday", "2000-02-29 12:00"⟩) (some ⟨"", "2000-02-29 12:00"⟩) today today'
    (.ok "") (.ok "") (fun _ => "") .sound .sound "named" fallbackConfig fallbackConfig files files'
  have hsame := hsame (.inl rfl) (.inr rfl) (.inr ⟨.inl rfl, .inr rfl⟩)
  have hwindow : resolveWindow (some "2000-02-28 00:00") none
      (some ⟨"yesterday", "2000-02-29 12:00"⟩) today = .ok w :=
    (hresolve (.ok w)).2 ⟨_, _, .flag rfl, .configured rfl rfl, .ends⟩
  -- The ends of the day are told by their numbers alone.
  have hday (latest : Option String) (result : Except Error Window) :
      resolveWindow none latest none today = result ↔
        ∃ first last, Settles none none today 0 0 first ∧ Settles latest none today 23 59 last ∧
          Window.Joins first last result :=
    (overridden_settings_do_not_count none latest none none today today (.ok "") (.ok "")
      (fun _ => "") .sound .sound "named" "" "" files files).1 result
  have hfirst : Settles none none today 0 0 (.ok whole.earliest) :=
    .today rfl rfl ⟨rfl, rfl, rfl, rfl, rfl⟩
  have hlast : Settles none none today 23 59 (.ok whole.latest) :=
    .today rfl rfl ⟨rfl, rfl, rfl, rfl, rfl⟩
  have hsix : Settles (some "2000-02-29 06:00") none today 23 59 (.ok longer.latest) :=
    .flag rfl
  have hwhole : resolveWindow none none none today = .ok whole :=
    (hday none (.ok whole)).2 ⟨_, _, hfirst, hlast, whole.joins_ends⟩
  have hlonger : resolveWindow none (some "2000-02-29 06:00") none today = .ok longer :=
    (hday _ (.ok longer)).2 ⟨_, _, hfirst, hsix, longer.joins_ends⟩
  have hempty : Config.load "named" (files.readText "named") (fun _ => "") = .ok .default := by rfl
  obtain ⟨hfiles, hfiles'⟩ := hload rfl
  rw [hempty] at hfiles hfiles'
  exact ⟨today, today', whole, longer, w, _, files, files', by decide, rfl, hwhole, by decide,
    hlonger, by decide, rfl, hwindow, hsame.symm.trans hwindow, rfl, rfl, hfiles, hfiles'⟩

end Timetable
