import Mathlib
import Timetable.Proofs.AttributeMaps
import Timetable.Proofs.JobEvents
import Timetable.Proofs.WrittenMoments
/-!
# The objects of events

An event is written as one object, in which its attributes stand beside its own members. The
attributes come from styles that may have any keys. They are kept apart from the event's own
members, so that no key stands twice and everything the event holds can be read from its object.

## Main definitions

- `Json.keys`, `Json.member?` — the keys of an object and the values at them
- `Event.KeepsApart` — no attribute has the key of a member of the event's own

## Main statements

- `get?_layered` — later styles win, the event's own keys aside
- `Event.KeepsApart.member?_toJson` — what is at each key of an event's object
- `event_objects_lossless` — the attributes and the object of each event
-/

namespace Timetable

namespace Json

/-- The members of an object. Other values have none. -/
def members : Json → List (String × Json)
  | .obj members => members
  | _ => []

def keys (value : Json) : List String :=
  value.members.map Prod.fst

/-- The value at a key of an object. -/
def member? (value : Json) (key : String) : Option Json :=
  value.members.lookup key

theorem mem_keys_iff (value : Json) (key : String) :
    key ∈ value.keys ↔ value.member? key ≠ none := by
  rw [member?, keys, Ne, lookup_eq_none_iff_notMem, not_not]

end Json

/-! ## Styles in layers -/

/-- A later style wins over an earlier one, but none of them has a say on the keys that events
have of their own. -/
theorem get?_layered (styles : List Style) (key : String) :
    (layered styles).get? key =
      if key ∈ Event.ownKeys then none
      else styles.reverse.findSome? fun style => style.attributes.get? key := by
  have hmerged : ∀ m : Attributes,
      (styles.foldl (fun m style => m.merge style.attributes) m).get? key =
        (styles.reverse.findSome? fun style => style.attributes.get? key).or (m.get? key) := by
    induction styles with
    | nil => intro m; rfl
    | cons style later ih =>
      intro m
      rw [List.foldl_cons, ih, Attributes.get?_merge, List.reverse_cons, List.findSome?_append,
        Option.or_assoc, List.findSome?_singleton]
  rw [layered, Attributes.get?_eraseAll, hmerged, Attributes.get?_empty, Option.or_none]

section Layers

variable (base later : Style) {key : String} (h : key ∉ Event.ownKeys)
include h

theorem get?_layered_one : (layered [base]).get? key = base.attributes.get? key := by
  rw [get?_layered, if_neg h, List.reverse_singleton, List.findSome?_singleton]

theorem get?_layered_two :
    (layered [base, later]).get? key =
      (later.attributes.get? key).or (base.attributes.get? key) := by
  rw [get?_layered, if_neg h, List.reverse_cons, List.reverse_singleton, List.findSome?_append,
    List.findSome?_singleton, List.findSome?_singleton]

end Layers

namespace Event

/-! ## Objects -/

/-- No attribute of the event has the key of a member that events have of their own. -/
def KeepsApart (e : Event) : Prop :=
  ∀ key ∈ ownKeys, e.attributes.get? key = none

/-- The keys of an event's own members stand before those of its attributes. -/
theorem exists_keys_toJson (e : Event) :
    ∃ own, own.Sublist ownKeys ∧ e.toJson.keys = own ++ e.attributes.entries.map Prod.fst := by
  cases hfinish : e.finish with
  | none =>
    refine ⟨["start", "title", "description"], by decide, ?_⟩
    simp [Json.keys, Json.members, toJson, hfinish]
  | some t =>
    refine ⟨ownKeys, List.Sublist.refl _, ?_⟩
    simp [Json.keys, Json.members, toJson, hfinish, ownKeys]

theorem keepsApart_of_layered {e : Event} {styles : List Style}
    (h : e.attributes = layered styles) : e.KeepsApart := by
  intro key hkey
  rw [h, get?_layered, if_pos hkey]

namespace KeepsApart

variable {e e' : Event}

theorem notMem_keys (h : e.KeepsApart) {key : String} (hkey : key ∈ ownKeys) :
    key ∉ e.attributes.entries.map Prod.fst := by
  rw [← lookup_eq_none_iff_notMem, ← Attributes.get?_eq_lookup]
  exact h key hkey

theorem nodup_keys (h : e.KeepsApart) : e.toJson.keys.Nodup := by
  obtain ⟨own, hown, hkeys⟩ := e.exists_keys_toJson
  rw [hkeys, List.nodup_append']
  refine ⟨hown.nodup (by decide), e.attributes.nodup_keys, ?_⟩
  intro key hkey
  exact h.notMem_keys (hown.subset hkey)

/-- What is at each key of the event's object. -/
theorem member?_toJson (h : e.KeepsApart) (key : String) :
    e.toJson.member? key =
      if key = "start" then some (.str e.start.isoText)
      else if key = "end" then e.finish.map fun t => .str t.isoText
      else if key = "title" then some (.str e.title)
      else if key = "description" then some (.str e.description)
      else e.attributes.get? key := by
  have hend := h "end" (by decide)
  rw [Attributes.get?_eq_lookup] at hend ⊢
  cases hfinish : e.finish with
  | none =>
    simp only [Json.member?, Json.members, toJson, hfinish, Option.map_none, Option.toList_none,
      List.cons_append, List.nil_append, lookup_cons_eq_ite]
    by_cases hkey : key = "end"
    · simp [hkey, hend]
    · rw [if_neg hkey]
  | some t =>
    simp only [Json.member?, Json.members, toJson, hfinish, Option.map_some, Option.toList_some,
      List.cons_append, List.nil_append, lookup_cons_eq_ite]

theorem member?_start (h : e.KeepsApart) :
    e.toJson.member? "start" = some (.str e.start.isoText) := by
  rw [h.member?_toJson, if_pos rfl]

theorem member?_end (h : e.KeepsApart) :
    e.toJson.member? "end" = e.finish.map fun t => .str t.isoText := by
  rw [h.member?_toJson, if_neg (by decide), if_pos rfl]

theorem member?_title (h : e.KeepsApart) : e.toJson.member? "title" = some (.str e.title) := by
  rw [h.member?_toJson, if_neg (by decide), if_neg (by decide), if_pos rfl]

theorem member?_description (h : e.KeepsApart) :
    e.toJson.member? "description" = some (.str e.description) := by
  rw [h.member?_toJson, if_neg (by decide), if_neg (by decide), if_neg (by decide), if_pos rfl]

theorem member?_attribute (h : e.KeepsApart) {key : String} (hkey : key ∉ ownKeys) :
    e.toJson.member? key = e.attributes.get? key := by
  simp only [ownKeys, List.mem_cons, List.not_mem_nil, or_false, not_or] at hkey
  obtain ⟨hstart, hend, htitle, hdescription⟩ := hkey
  rw [h.member?_toJson, if_neg hstart, if_neg hend, if_neg htitle, if_neg hdescription]

/-- Events are known from what is at the keys of their objects. -/
theorem eq_of_member? (h : e.KeepsApart) (h' : e'.KeepsApart)
    (hsame : ∀ key, e.toJson.member? key = e'.toJson.member? key) : e = e' := by
  have hstart := hsame "start"
  have hend := hsame "end"
  have htitle := hsame "title"
  have hdescription := hsame "description"
  rw [h.member?_start, h'.member?_start, Option.some_inj, Json.str.injEq] at hstart
  rw [h.member?_end, h'.member?_end] at hend
  rw [h.member?_title, h'.member?_title, Option.some_inj, Json.str.injEq] at htitle
  rw [h.member?_description, h'.member?_description, Option.some_inj, Json.str.injEq]
    at hdescription
  have hwritten : Function.Injective fun t : Moment => Json.str t.isoText := fun t u htu =>
    Moment.isoText_injective (Json.str.inj htu)
  have hattributes : e.attributes = e'.attributes := by
    apply Attributes.ext_get?
    intro key
    by_cases hkey : key ∈ ownKeys
    · rw [h key hkey, h' key hkey]
    · rw [← h.member?_attribute hkey, hsame key, h'.member?_attribute hkey]
  cases e
  cases e'
  cases Moment.isoText_injective hstart
  cases Option.map_injective hwritten hend
  cases htitle
  cases hdescription
  cases hattributes
  rfl

end KeepsApart

end Event

/-! ## Events of a job -/

namespace Classifier

variable (c : Classifier) (command : String) {cadence : Cadence} {times : List Moment} {e : Event}

/-- An event of one occurrence has the default style only, and one of all occurrences that of its
cadence over it. -/
theorem attributes_of_mem_events (h : e ∈ c.events cadence command times) :
    cadence = .individual ∧ e.finish = none ∧ e.attributes = layered [c.styles.default] ∨
      cadence ≠ .individual ∧ e.finish ≠ none ∧ ∃ style, c.styles.ofCadence cadence = some style ∧
        e.attributes = layered [c.styles.default, style] := by
  obtain ⟨hcadence, he⟩ | ⟨style, first, last, hstyle, -, -, rfl⟩ :=
    c.individual_or_whole_of_mem_events command h
  · obtain ⟨t, -, rfl⟩ := List.mem_map.1 he
    exact .inl ⟨hcadence, rfl, rfl⟩
  · have hcadence : cadence ≠ .individual := by
      rintro rfl
      cases hstyle
    exact .inr ⟨hcadence, Option.some_ne_none _, style, hstyle, rfl⟩

theorem keepsApart_of_mem_events (h : e ∈ c.events cadence command times) : e.KeepsApart := by
  obtain ⟨-, -, hattributes⟩ | ⟨-, -, style, -, hattributes⟩ :=
    c.attributes_of_mem_events command h
  · exact Event.keepsApart_of_layered hattributes
  · exact Event.keepsApart_of_layered hattributes

end Classifier

/-- No style reaches the members that an event has of its own. At all other keys an event of one
occurrence has what the default style has, and one that stands for a cadence what the cadence's
style has and otherwise what the default style has. So the keys of the event's object are
distinct, the end is there for events with a cadence only, and the object holds the event: its
own members stand at their keys and exactly the attributes at all others. Leap seconds are no
exception, since they are written as the second 60. -/
theorem event_objects_lossless (c : Classifier) (cadence : Cadence) (command : String)
    (times : List Moment) (e : Event) (he : e ∈ c.events cadence command times) :
    (∀ key ∈ Event.ownKeys, e.attributes.get? key = none) ∧
      (e.finish = none → ∀ key ∉ Event.ownKeys,
        e.attributes.get? key = c.styles.default.attributes.get? key) ∧
      (e.finish ≠ none → ∃ style, c.styles.ofCadence cadence = some style ∧
        ∀ key ∉ Event.ownKeys, e.attributes.get? key =
          (style.attributes.get? key).or (c.styles.default.attributes.get? key)) ∧
      (e.finish = none ↔ cadence = .individual) ∧
      e.toJson.keys.Nodup ∧
      ("end" ∈ e.toJson.keys ↔ e.finish ≠ none) ∧
      e.toJson.member? "start" = some (.str e.start.isoText) ∧
      e.toJson.member? "end" = e.finish.map (fun t => .str t.isoText) ∧
      e.toJson.member? "title" = some (.str e.title) ∧
      e.toJson.member? "description" = some (.str e.description) ∧
      (∀ key ∉ Event.ownKeys, e.toJson.member? key = e.attributes.get? key) ∧
      ∀ (c' : Classifier) (cadence' : Cadence) (command' : String) (times' : List Moment),
        ∀ e' ∈ c'.events cadence' command' times',
          (∀ key, e.toJson.member? key = e'.toJson.member? key) → e = e' := by
  have h := c.keepsApart_of_mem_events command he
  have hattributes := c.attributes_of_mem_events command he
  refine ⟨h, ?_, ?_, ?_, h.nodup_keys, ?_, h.member?_start, h.member?_end, h.member?_title,
    h.member?_description, fun key hkey => h.member?_attribute hkey, ?_⟩
  · intro hfinish key hkey
    obtain ⟨-, -, hlayered⟩ | ⟨-, hsome, -⟩ := hattributes
    · rw [hlayered, get?_layered_one _ hkey]
    · exact absurd hfinish hsome
  · intro hfinish
    obtain ⟨-, hnone, -⟩ | ⟨-, -, style, hstyle, hlayered⟩ := hattributes
    · exact absurd hnone hfinish
    · refine ⟨style, hstyle, fun key hkey => ?_⟩
      rw [hlayered, get?_layered_two _ _ hkey]
  · obtain ⟨hcadence, hnone, -⟩ | ⟨hcadence, hsome, -⟩ := hattributes
    · exact iff_of_true hnone hcadence
    · exact iff_of_false hsome hcadence
  · rw [Json.mem_keys_iff, h.member?_end, Ne, Option.map_eq_none_iff]
  · intro c' cadence' command' times' e' he' hsame
    exact h.eq_of_member? (c'.keepsApart_of_mem_events command' he') hsame

/-- Styles that set members of the event's own: a point stays without an end, and the end and the
title of a whole cadence are the ones that were computed. -/
theorem event_objects_lossless_forged_keys :
    ∃ (c : Classifier) (times : List Moment) (point whole : Event),
      c.styles.default.attributes.get? "end" = some (.str "2030-01-01T00:00:00") ∧
        c.styles.default.attributes.get? "color" = some (.str "black") ∧
        c.styles.default.attributes.get? "weight" = some (.int 2) ∧
        c.styles.everyMinute.attributes.get? "title" = some (.str "forged") ∧
        c.styles.everyMinute.attributes.get? "color" = some (.str "red") ∧
        point ∈ c.events .individual "work" times ∧ whole ∈ c.events .everyMinute "work" times ∧
        point.toJson.keys.Nodup ∧ whole.toJson.keys.Nodup ∧
        "end" ∉ point.toJson.keys ∧
        whole.toJson.member? "end" = some (.str "2011-10-11T00:01:00") ∧
        whole.toJson.member? "title" = some (.str "All: work") ∧
        point.toJson.member? "color" = some (.str "black") ∧
        whole.toJson.member? "color" = some (.str "red") ∧
        whole.toJson.member? "weight" = some (.int 2) ∧ point ≠ whole := by
  let styles : StyleTable :=
    { StyleTable.builtin with
      default := ⟨"", .ofList [("end", .str "2030-01-01T00:00:00"), ("color", .str "black"),
        ("weight", .int 2)]⟩
      everyMinute := ⟨"All: ", .ofList [("title", .str "forged"), ("color", .str "red")]⟩ }
  let c : Classifier := ⟨⟨2, 1⟩, styles⟩
  let first : Moment := ⟨⟨2011, 10, 11, by decide⟩, 0, 0, 0, 0, by decide⟩
  let last : Moment := ⟨⟨2011, 10, 11, by decide⟩, 0, 1, 0, 0, by decide⟩
  let point : Event :=
    { start := first
      finish := none
      title := String.ofList first.clockText ++ " " ++ "work"
      description := "work"
      attributes := layered [styles.default] }
  let whole : Event := c.wholeEvent styles.everyMinute "work" first last
  have hpoint : point ∈ c.events .individual "work" [first, last] := List.mem_cons_self
  have hwhole : whole ∈ c.events .everyMinute "work" [first, last] := List.mem_cons_self
  obtain ⟨-, hdefault, -, -, hkeys, hend, -, -, -, -, hmembers, hdetermined⟩ :=
    event_objects_lossless c .individual "work" [first, last] point hpoint
  obtain ⟨-, -, hlayers, -, hkeys', -, -, hend', htitle', -, hmembers', -⟩ :=
    event_objects_lossless c .everyMinute "work" [first, last] whole hwhole
  obtain ⟨style, hstyle, hlayers⟩ := hlayers (Option.some_ne_none _)
  cases hstyle
  have hwritten : last.isoText = "2011-10-11T00:01:00" := by decide
  have hcolor : "color" ∉ Event.ownKeys := by decide
  have hweight : "weight" ∉ Event.ownKeys := by decide
  refine ⟨c, [first, last], point, whole, rfl, rfl, rfl, rfl, rfl, hpoint, hwhole, hkeys, hkeys',
    fun h => hend.1 h rfl, ?_, htitle', ?_, ?_, ?_, ?_⟩
  · rw [hend', ← hwritten]
    rfl
  · rw [hmembers _ hcolor, hdefault rfl _ hcolor]
    rfl
  · rw [hmembers' _ hcolor, hlayers _ hcolor]
    rfl
  · rw [hmembers' _ hweight, hlayers _ hweight]
    rfl
  · intro hsame
    cases congrArg Event.finish hsame

end Timetable
