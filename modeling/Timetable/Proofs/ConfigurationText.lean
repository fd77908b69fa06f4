import Mathlib
import Timetable.Config
import Timetable.Proofs.WrittenStyles
/-!
# Configurations in writing

A configuration is made from three parts of a TOML document, each of which is read by itself. A part
that is missing leaves what there is without a configuration, and a part of the wrong kind spoils
the whole. So a text says one configuration, or it says none and it is for the reader of TOML to
explain why.

## Main definitions

- `Bounds.MadeFrom`, `Config.SaysWindow`, `Config.SaysThreads`, `Config.SaysStyles` — what each part
  of a document says
- `Config.MadeFrom`, `Config.WrittenIn` — what a document and what a text says

## Main statements

- `Config.ofToml?_eq_some_iff` — what is read from a document
- `Config.parse_eq_ok_iff`, `Config.parse_eq_error_iff` — what is read from a text
-/

namespace Timetable

/-- The bounds are the texts at their keys in a table, or the first two items of a list. -/
inductive Bounds.MadeFrom : Toml.Value → Bounds → Prop
  | table {entries : List (String × Toml.Value)} {earliest latest : String}
      (hearliest : entries.lookup "earliest" = some (.string earliest))
      (hlatest : entries.lookup "latest" = some (.string latest)) :
      MadeFrom (.table entries) ⟨earliest, latest⟩
  | array {earliest latest : String} {items : List Toml.Value} :
      MadeFrom (.array (.string earliest :: .string latest :: items)) ⟨earliest, latest⟩

theorem Bounds.ofToml?_eq_some_iff {value : Toml.Value} {b : Bounds} :
    ofToml? value = some b ↔ b.MadeFrom value := by
  constructor
  · intro h
    unfold ofToml? at h
    split at h
    · split at h
      · next hearliest hlatest =>
        cases h
        exact .table hearliest hlatest
      · cases h
    · cases h
      exact .array
    · cases h
  · intro h
    cases h with
    | table hearliest hlatest => simp only [ofToml?, hearliest, hlatest]
    | array => rfl

namespace Config

/-! ## The parts of a document -/

/-- There are bounds if there is a value for a window, from which they have to be made. -/
inductive SaysWindow : Option Toml.Value → Option Bounds → Prop
  | missing : SaysWindow none none
  | given {value : Toml.Value} {b : Bounds} (h : b.MadeFrom value) :
      SaysWindow (some value) (some b)

/-- A number of workers is an integer that is not negative. Without one there is one worker. -/
inductive SaysThreads : Option Toml.Value → Nat → Prop
  | missing : SaysThreads none 1
  | given {n : Nat} : SaysThreads (some (.integer n)) n

/-- Styles are read as from JSON, except that a list may be too long: its first three items count.
Without a value for them they are the built-in ones. -/
inductive SaysStyles : Option Toml.Value → StyleTable → Prop
  | missing : SaysStyles none .builtin
  | array {items : List Toml.Value} {t : StyleTable}
      (h : t.ReadFrom (.arr (Toml.Value.itemsToJson (items.take 3)))) :
      SaysStyles (some (.array items)) t
  | given {value : Toml.Value} {t : StyleTable} (hvalue : ∀ items, value ≠ .array items)
      (h : t.ReadFrom value.toJson) : SaysStyles (some value) t

theorem window?_eq_some_iff {given : Option Toml.Value} {bounds : Option Bounds} :
    window? given = some bounds ↔ SaysWindow given bounds := by
  cases given with
  | none =>
    constructor
    · rintro ⟨⟩
      exact .missing
    · rintro ⟨⟩
      rfl
  | some value =>
    rw [window?, Option.map_eq_some_iff]
    constructor
    · rintro ⟨b, hb, rfl⟩
      exact .given (Bounds.ofToml?_eq_some_iff.1 hb)
    · intro h
      cases h with
      | given h => exact ⟨_, Bounds.ofToml?_eq_some_iff.2 h, rfl⟩

theorem threads?_eq_some_iff {given : Option Toml.Value} {n : Nat} :
    threads? given = some n ↔ SaysThreads given n := by
  constructor
  · intro h
    unfold threads? at h
    split at h
    · cases h
      exact .missing
    · next k =>
      split at h
      · next hk =>
        cases h
        obtain ⟨k, rfl⟩ := Int.eq_ofNat_of_zero_le hk
        exact .given
      · cases h
    · cases h
  · intro h
    cases h with
    | missing => rfl
    | given => rw [threads?, if_pos (Int.natCast_nonneg n), Int.toNat_natCast]

theorem styles?_eq_some_iff {given : Option Toml.Value} {t : StyleTable} :
    styles? given = some t ↔ SaysStyles given t := by
  constructor
  · intro h
    unfold styles? at h
    split at h
    · cases h
      exact .missing
    · exact .array (StyleTable.ofJson?_eq_some_iff.1 h)
    · next hvalue => exact .given hvalue (StyleTable.ofJson?_eq_some_iff.1 h)
  · intro h
    cases h with
    | missing => rfl
    | array h => exact StyleTable.ofJson?_eq_some_iff.2 h
    | given hvalue h =>
      rw [styles?]
      · exact StyleTable.ofJson?_eq_some_iff.2 h
      · exact hvalue

/-! ## Whole documents -/

/-- Each part of the configuration is what its part of a document says. -/
structure MadeFrom (document : Toml.Value) (c : Config) : Prop where
  window : SaysWindow (document.get? "window") c.window
  threads : SaysThreads (document.get? "threads") c.threads
  styles : SaysStyles (document.get? "styles") c.styles

/-- The text is TOML, and the configuration is what it says. -/
def WrittenIn (text : String) (c : Config) : Prop :=
  ∃ document, Toml.document? text = some document ∧ c.MadeFrom document

theorem ofToml?_eq_some_iff {document : Toml.Value} {c : Config} :
    ofToml? document = some c ↔ c.MadeFrom document := by
  simp only [ofToml?, Option.bind_eq_bind, Option.bind_eq_some_iff, window?_eq_some_iff,
    threads?_eq_some_iff, styles?_eq_some_iff]
  constructor
  · rintro ⟨bounds, hwindow, n, hthreads, t, hstyles, ⟨⟩⟩
    exact ⟨hwindow, hthreads, hstyles⟩
  · intro h
    exact ⟨_, h.window, _, h.threads, _, h.styles, rfl⟩

theorem writtenIn_iff {text : String} {c : Config} :
    c.WrittenIn text ↔ (Toml.document? text).bind ofToml? = some c := by
  simp only [WrittenIn, Option.bind_eq_some_iff, ofToml?_eq_some_iff]

section

variable {text : String} {explain : String → String}

theorem parse_eq_ok_iff {c : Config} : parse text explain = .ok c ↔ c.WrittenIn text := by
  rw [parse, writtenIn_iff]
  cases (Toml.document? text).bind ofToml? with
  | none => simp
  | some c => simp

/-- A text that says no configuration is refused with an explanation. -/
theorem parse_eq_error_iff {cause : Error} :
    parse text explain = .error cause ↔
      cause = @Error.invalidConfig (explain text) ∧ ∀ c : Config, ¬c.WrittenIn text := by
  simp only [writtenIn_iff, ← Option.eq_none_iff_forall_ne_some]
  rw [parse]
  cases (Toml.document? text).bind ofToml? with
  | none => simp [eq_comm]
  | some c => simp

end

end Config

end Timetable
