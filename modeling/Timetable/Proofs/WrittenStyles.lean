import Mathlib
import Timetable.Config
import Timetable.Proofs.AttributeMaps
/-!
# Styles in writing

A style is read from one object, of which the title prefix is a member and all other members are
attributes. A table of styles takes the built-in style for each one that its input leaves out, as a
whole, and reads each other one from the value given for it and from nothing else. What has been
read can be written and read again, since no attribute has the key of the title prefix.

## Main definitions

- `StyleTable.Part` — the three styles of a table
- `Json.valueAt?`, `Json.part?` — what an input holds at a key, or for one of the styles
- `Style.MadeFrom`, `Style.Chosen` — where a style comes from
- `StyleTable.ReadFrom` — a table of which each style comes from its own part of an input

## Main statements

- `Style.ofJson?_eq_some_iff`, `StyleTable.ofJson?_eq_some_iff` — what is read from an input
- `Style.ofJson?_toJson_iff`, `StyleTable.ofJson?_toJson_iff` — what is read again from its own
  object
- `style_tables_survive_writing` — both for the tables that are read
-/

namespace Timetable

namespace StyleTable

/-- The three styles of a table. -/
inductive Part where
  | default
  | everyMinute
  | everyFiveMinutes

namespace Part

/-- The key of the style in an object. -/
def key : Part → String
  | default => "default"
  | everyMinute => "every_minute"
  | everyFiveMinutes => "every_five_minutes"

/-- The place of the style in a list. -/
def place : Part → Nat
  | default => 0
  | everyMinute => 1
  | everyFiveMinutes => 2

end Part

def style (t : StyleTable) : Part → Style
  | .default => t.default
  | .everyMinute => t.everyMinute
  | .everyFiveMinutes => t.everyFiveMinutes

end StyleTable

namespace Json

/-- The value at a key of an object, as it is read: of members with one key the last counts. -/
def valueAt? (key : String) : Json → Option Json
  | .obj members => members.reverse.lookup key
  | _ => none

/-- What an input has for one of the styles: the value at its key in an object, or the item at its
place in a list. -/
def part? (part : StyleTable.Part) : Json → Option Json
  | .arr items => items[part.place]?
  | value => value.valueAt? part.key

end Json

/-! ## One style -/

namespace Style

/-- The style is made from an object: it has the object's title prefix, or the empty one if there is
none, and all other members are its attributes. -/
structure MadeFrom (value : Json) (s : Style) : Prop where
  isObject : ∃ members, value = .obj members
  titlePrefix : (value.valueAt? titlePrefixKey).getD (.str "") = .str s.titlePrefix
  attributes : ∀ key,
    s.attributes.get? key = if key = titlePrefixKey then none else value.valueAt? key

theorem madeFrom_obj_iff {members : List (String × Json)} {s : Style} :
    s.MadeFrom (.obj members) ↔
      ((Json.obj members).valueAt? titlePrefixKey).getD (.str "") = .str s.titlePrefix ∧
        s.attributes = (Attributes.ofList members).erase titlePrefixKey := by
  have herased : ∀ key, ((Attributes.ofList members).erase titlePrefixKey).get? key =
      if key = titlePrefixKey then none else (Json.obj members).valueAt? key := by
    intro key
    rw [Attributes.get?_erase, Attributes.get?_ofList, Json.valueAt?]
  constructor
  · rintro ⟨-, htitle, hattributes⟩
    refine ⟨htitle, Attributes.ext_get? fun key => ?_⟩
    rw [hattributes, herased]
  · rintro ⟨htitle, hattributes⟩
    refine ⟨⟨members, rfl⟩, htitle, fun key => ?_⟩
    rw [hattributes, herased]

/-- Reading gives the style that is made from the object, unless its title prefix is no text. -/
theorem ofJson?_eq_some_iff {value : Json} {s : Style} :
    ofJson? value = some s ↔ s.MadeFrom value := by
  obtain ⟨titlePrefix, attributes⟩ := s
  cases value with
  | obj members =>
    rw [madeFrom_obj_iff, ofJson?, Attributes.get?_ofList, Json.valueAt?]
    cases members.reverse.lookup titlePrefixKey with
    | none => simp [eq_comm]
    | some value => cases value <;> simp [eq_comm]
  | _ =>
    constructor
    · intro h
      cases h
    · intro h
      obtain ⟨members, hmembers⟩ := h.isObject
      cases hmembers

/-! ## Reading what was written -/

/-- What stands at each key of a style's object. An attribute would hide a title prefix. -/
theorem valueAt?_toJson (s : Style) (key : String) :
    s.toJson.valueAt? key =
      (s.attributes.get? key).or
        (if key = titlePrefixKey ∧ s.titlePrefix ≠ "" then some (.str s.titlePrefix)
          else none) := by
  rw [toJson, Json.valueAt?, List.reverse_append, List.lookup_append, Attributes.get?_eq_lookup,
    lookup_eq_of_perm s.attributes.entries.reverse_perm.symm s.attributes.nodup_keys]
  by_cases htitle : s.titlePrefix = ""
  · simp [htitle]
  · simp [htitle, lookup_cons_eq_ite]

/-- A style is read again from its object exactly if no attribute has the key of the title prefix.
An empty title prefix is left out, and reading takes it to be empty. -/
theorem ofJson?_toJson_iff {s : Style} :
    ofJson? s.toJson = some s ↔ s.attributes.get? titlePrefixKey = none := by
  rw [ofJson?_eq_some_iff]
  constructor
  · intro h
    rw [h.attributes, if_pos rfl]
  · intro h
    refine ⟨⟨_, rfl⟩, ?_, ?_⟩
    · rw [valueAt?_toJson, h]
      by_cases htitle : s.titlePrefix = "" <;> simp [htitle]
    · intro key
      rw [valueAt?_toJson]
      by_cases hkey : key = titlePrefixKey
      · rw [if_pos hkey, hkey, h]
      · simp [hkey]

/-- The style is the built-in one if nothing is given for it, and else it is made from what is
given. -/
inductive Chosen (builtin : Style) : Option Json → Style → Prop where
  | builtin : Chosen builtin none builtin
  | given {value : Json} {s : Style} (h : s.MadeFrom value) : Chosen builtin (some value) s

theorem chosen_none_iff {builtin s : Style} : Chosen builtin none s ↔ builtin = s := by
  constructor
  · intro h
    cases h
    rfl
  · rintro rfl
    exact .builtin

theorem chosen_some_iff {builtin s : Style} {value : Json} :
    Chosen builtin (some value) s ↔ s.MadeFrom value := by
  constructor
  · intro h
    cases h with
    | given h => exact h
  · exact .given

/-- No attribute has the key of the title prefix, if there is none in the built-in style. -/
theorem Chosen.get?_titlePrefixKey {builtin s : Style} {given : Option Json}
    (h : Chosen builtin given s) (hbuiltin : builtin.attributes.get? titlePrefixKey = none) :
    s.attributes.get? titlePrefixKey = none := by
  cases h with
  | builtin => exact hbuiltin
  | given h => rw [h.attributes, if_pos rfl]

end Style

/-! ## Tables of styles -/

namespace StyleTable

variable {value value' : Json} {t t' : StyleTable}

/-- The table is read from an object, or from a list that is not too long, and each style comes from
its own part of that. -/
structure ReadFrom (value : Json) (t : StyleTable) : Prop where
  shape : (∃ members, value = .obj members) ∨ ∃ items, value = .arr items ∧ items.length ≤ 3
  style : ∀ part, Style.Chosen (builtin.style part) (value.part? part) (t.style part)

theorem styleOr_eq_some_iff {builtin s : Style} {given : Option Json} :
    styleOr builtin given = some s ↔ Style.Chosen builtin given s := by
  cases given with
  | none => rw [styleOr, Style.chosen_none_iff, Option.some.injEq]
  | some value => rw [styleOr, Style.chosen_some_iff, Style.ofJson?_eq_some_iff]

theorem ofParts?_eq_some_iff :
    ofParts? (value.part? .default) (value.part? .everyMinute) (value.part? .everyFiveMinutes) =
        some t ↔
      ∀ part, Style.Chosen (builtin.style part) (value.part? part) (t.style part) := by
  simp only [ofParts?, Option.bind_eq_bind, Option.bind_eq_some_iff, styleOr_eq_some_iff]
  constructor
  · rintro ⟨d, hdefault, m, hminute, f, hfive, ⟨⟩⟩ part
    cases part with
    | default => exact hdefault
    | everyMinute => exact hminute
    | everyFiveMinutes => exact hfive
  · intro h
    exact ⟨_, h .default, _, h .everyMinute, _, h .everyFiveMinutes, rfl⟩

/-- Each style is read from its own part of the input. -/
theorem ofJson?_eq_some_iff : ofJson? value = some t ↔ t.ReadFrom value := by
  have hstyles (hshape : (∃ members, value = .obj members) ∨
      ∃ items, value = .arr items ∧ items.length ≤ 3) :
      t.ReadFrom value ↔
        ofParts? (value.part? .default) (value.part? .everyMinute)
          (value.part? .everyFiveMinutes) = some t := by
    rw [ofParts?_eq_some_iff]
    exact ⟨ReadFrom.style, ReadFrom.mk hshape⟩
  cases value with
  | obj members =>
    rw [hstyles (.inl ⟨members, rfl⟩), ofJson?]
    simp only [Attributes.get?_ofList]
    rfl
  | arr items =>
    rw [ofJson?]
    by_cases hlength : items.length ≤ 3
    · rw [hstyles (.inr ⟨items, rfl, hlength⟩), if_pos hlength]
      rfl
    · rw [if_neg hlength]
      constructor
      · intro h
        cases h
      · intro h
        obtain ⟨members, hobj⟩ | ⟨items', hitems, hlength'⟩ := h.shape
        · cases hobj
        · cases hitems
          exact absurd hlength' hlength
  | _ =>
    constructor
    · intro h
      cases h
    · intro h
      obtain ⟨members, hobj⟩ | ⟨items', hitems, -⟩ := h.shape
      · cases hobj
      · cases hitems

theorem style_eq_of_part?_eq (h : t.ReadFrom value) (h' : t'.ReadFrom value') {part : Part}
    (hpart : value.part? part = value'.part? part) : t.style part = t'.style part := by
  have hread := styleOr_eq_some_iff.2 (h.style part)
  have hread' := styleOr_eq_some_iff.2 (h'.style part)
  rw [hpart, hread'] at hread
  exact (Option.some.inj hread).symm

theorem get?_titlePrefixKey_builtin (part : Part) :
    (builtin.style part).attributes.get? Style.titlePrefixKey = none := by
  cases part <;> rfl

theorem ReadFrom.get?_titlePrefixKey (h : t.ReadFrom value) (part : Part) :
    (t.style part).attributes.get? Style.titlePrefixKey = none :=
  (h.style part).get?_titlePrefixKey (get?_titlePrefixKey_builtin part)

theorem part?_toJson (t : StyleTable) (part : Part) :
    t.toJson.part? part = some (t.style part).toJson := by
  cases part <;> rfl

/-- A table is read again from its object exactly if its three styles are. -/
theorem ofJson?_toJson_iff :
    ofJson? t.toJson = some t ↔
      ∀ part, (t.style part).attributes.get? Style.titlePrefixKey = none := by
  rw [ofJson?_eq_some_iff]
  constructor
  · exact ReadFrom.get?_titlePrefixKey
  · intro h
    refine ⟨.inl ⟨_, rfl⟩, fun part => ?_⟩
    rw [part?_toJson, Style.chosen_some_iff, ← Style.ofJson?_eq_some_iff, Style.ofJson?_toJson_iff]
    exact h part

/-- A configured table is read from JSON as well, since the configuration is made into JSON first.
Without one the table is that of an empty object. -/
theorem exists_ofJson?_of_styles? {given : Option Toml.Value} (h : Config.styles? given = some t) :
    ∃ value, ofJson? value = some t := by
  unfold Config.styles? at h
  split at h
  · cases h
    exact ⟨.obj [], rfl⟩
  · exact ⟨_, h⟩
  · exact ⟨_, h⟩

end StyleTable

/-- A table is read from an object with a member for each of its styles, or from a list of them.
Each style for which there is nothing is the built-in one. Each other one is made from the value
that is given for it, and its title prefix is empty if that value has none. So no other part of the
input has a say in a style, and no attribute has the key of the title prefix. A table that was read,
also in a configuration, is written to an object from which it is read again. -/
theorem style_tables_survive_writing :
    (∀ (value : Json) (t : StyleTable), StyleTable.ofJson? value = some t ↔ t.ReadFrom value) ∧
      (∀ (value value' : Json) (t t' : StyleTable) (part : StyleTable.Part),
        StyleTable.ofJson? value = some t → StyleTable.ofJson? value' = some t' →
          value.part? part = value'.part? part → t.style part = t'.style part) ∧
      (∀ (value : Json) (t : StyleTable), StyleTable.ofJson? value = some t →
        (∀ part, (t.style part).attributes.get? "title_prefix" = none) ∧
          StyleTable.ofJson? t.toJson = some t) ∧
      ∀ (given : Option Toml.Value) (t : StyleTable), Config.styles? given = some t →
        (∀ part, (t.style part).attributes.get? "title_prefix" = none) ∧
          StyleTable.ofJson? t.toJson = some t := by
  have hread : ∀ (value : Json) (t : StyleTable), StyleTable.ofJson? value = some t →
      (∀ part, (t.style part).attributes.get? "title_prefix" = none) ∧
        StyleTable.ofJson? t.toJson = some t := by
    intro value t h
    have hkeys := (StyleTable.ofJson?_eq_some_iff.1 h).get?_titlePrefixKey
    exact ⟨hkeys, StyleTable.ofJson?_toJson_iff.2 hkeys⟩
  refine ⟨fun value t => StyleTable.ofJson?_eq_some_iff, ?_, hread, ?_⟩
  · intro value value' t t' part h h' hpart
    exact StyleTable.style_eq_of_part?_eq (StyleTable.ofJson?_eq_some_iff.1 h)
      (StyleTable.ofJson?_eq_some_iff.1 h') hpart
  · intro given t h
    obtain ⟨value, hvalue⟩ := StyleTable.exists_ofJson?_of_styles? h
    exact hread value t hvalue

/-- An object without one of the styles and with an empty title prefix in another, a list that has
one style in common with it, and a configuration with an attribute that JSON cannot express. -/
theorem style_tables_survive_writing_partial :
    ∃ (value value' every : Json) (given : Toml.Value) (t t' u : StyleTable),
      every = .obj [("color", .str "#123456"), ("title_prefix", .str "Constantly: ")] ∧
        value = .obj [("every_minute", every), ("other", .int 1),
          ("default", .obj [("title_prefix", .str ""), ("title", .null)])] ∧
        value' = .arr [.obj [], every] ∧
        given = .table [("every_five_minutes", .table [("size", .nonFinite)])] ∧
        StyleTable.ofJson? value = some t ∧ StyleTable.ofJson? value' = some t' ∧
        Config.styles? (some given) = some u ∧
        t.default.titlePrefix = "" ∧ t.default.attributes.get? "color" = none ∧
        t.everyMinute.titlePrefix = "Constantly: " ∧ t'.everyMinute = t.everyMinute ∧
        t.everyFiveMinutes = StyleTable.builtin.everyFiveMinutes ∧
        u.everyFiveMinutes.attributes.get? "size" = some .null ∧
        StyleTable.ofJson? t.toJson = some t ∧ StyleTable.ofJson? t'.toJson = some t' ∧
        StyleTable.ofJson? u.toJson = some u := by
  let every : Json := .obj [("color", .str "#123456"), ("title_prefix", .str "Constantly: ")]
  let value : Json := .obj [("every_minute", every), ("other", .int 1),
    ("default", .obj [("title_prefix", .str ""), ("title", .null)])]
  let value' : Json := .arr [.obj [], every]
  let given : Toml.Value := .table [("every_five_minutes", .table [("size", .nonFinite)])]
  obtain ⟨t, ht⟩ : ∃ t, StyleTable.ofJson? value = some t :=
    Option.isSome_iff_exists.1 (by decide)
  obtain ⟨t', ht'⟩ : ∃ t, StyleTable.ofJson? value' = some t := ⟨_, rfl⟩
  obtain ⟨u, hu⟩ : ∃ t, Config.styles? (some given) = some t := ⟨_, rfl⟩
  obtain ⟨hfrom, hsame, hread, hconfigured⟩ := style_tables_survive_writing
  obtain ⟨-, hagain⟩ := hread value t ht
  obtain ⟨-, hagain'⟩ := hread value' t' ht'
  obtain ⟨-, hagainConfigured⟩ := hconfigured (some given) u hu
  have hevery := hsame value' value t' t .everyMinute ht' ht rfl
  have hstyle := ((hfrom value t).1 ht).style
  have hdefault := Style.chosen_some_iff.1 (hstyle .default)
  have hminute := Style.chosen_some_iff.1 (hstyle .everyMinute)
  have hfive := Style.chosen_none_iff.1 (hstyle .everyFiveMinutes)
  have hsize : u.everyFiveMinutes.attributes.get? "size" = some .null := by
    cases hu
    rfl
  exact ⟨value, value', every, given, t, t', u, rfl, rfl, rfl, rfl, ht, ht', hu,
    (Json.str.inj hdefault.titlePrefix).symm, hdefault.attributes "color",
    (Json.str.inj hminute.titlePrefix).symm, hevery, hfive.symm, hsize, hagain, hagain',
    hagainConfigured⟩

end Timetable
