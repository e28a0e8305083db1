import FrontendPolicy.Proofs.Json.Written
import FrontendPolicy.Proofs.Options.Meaning

/-!
# Options do not depend on how their text is written

Neither the space between tokens, nor the escapes in strings and keys, nor the order of members
bears on the options that a text denotes. A value that gives a field of options or of an input twice
(`Options.RepeatsField`) is rejected, however it is written.
-/

namespace FrontendPolicy

open Json

/-- The inputs of a value hold an object that gives a field twice. -/
def InputFile.RepeatsField (inputs : Value) : Prop :=
  ∃ vs ms name, inputs = .list vs ∧ Value.object ms ∈ vs ∧
    name ∈ InputFile.shape.fields.map (·.name) ∧ RepeatsKey name ms

namespace Options

/-- A value of which some object gives a field twice: the options themselves or one of their
inputs, where the options may be written as an object or as a list. -/
inductive RepeatsField : Value → Prop where
  | options {name : String} {ms : List (List Nat × Value)}
      (hn : name ∈ shape.fields.map (·.name)) (h : RepeatsKey name ms) : RepeatsField (.object ms)
  | input {ms : List (List Nat × Value)} {m : List Nat × Value} (hm : m ∈ ms)
      (hk : keyText? m.1 = some "inputs") (h : InputFile.RepeatsField m.2) :
      RepeatsField (.object ms)
  | listedInput {vs : List Value} {v : Value} (hv : vs[8]? = some v)
      (h : InputFile.RepeatsField v) : RepeatsField (.list vs)

theorem change_inputs_of_repeatsField {v : Value} (h : InputFile.RepeatsField v) :
    change "inputs" v = none := by
  obtain ⟨vs, ms, name, rfl, hms, hname, hr⟩ := h
  have hrefused := InputFile.interpretation.record?_of_repeatsKey (Shape.isSome_field? hname) hr
  show (Inputs.meaning? (.list vs)).map _ = none
  rw [Inputs.meaning?, list?_of_refused hms hrefused]
  rfl

/-- A value that repeats a field is no options. -/
theorem meaning?_of_repeatsField {v : Value} (h : RepeatsField v) : meaning? v = none := by
  cases h with
  | options hn h => exact interpretation.record?_of_repeatsKey (Shape.isSome_field? hn) h
  | input hm hk h =>
    exact interpretation.record?_of_refused_member (Shape.isSome_field? (by decide)) hm hk
      (change_inputs_of_repeatsField h)
  | listedInput hv h =>
    exact interpretation.record?_of_refused_element (i := 8) rfl hv
      (change_inputs_of_repeatsField h)

/-- Two texts of one value, up to the order of members, denote the same options, or both are
rejected. They are rejected if the value repeats a field. -/
theorem ofJson_of_rearranged {v w : Value} {s t : String} (h : v.Rearranged w)
    (hs : v.WrittenAs s) (ht : w.WrittenAs t) :
    ((∃ o, ofJson s = .ok o ∧ ofJson t = .ok o) ∨
      ((∃ r, ofJson s = .error r) ∧ ∃ r, ofJson t = .error r)) ∧
    (RepeatsField v → (∃ r, ofJson s = .error r) ∧ ∃ r, ofJson t = .error r) := by
  have hvw := respects_meaning h
  constructor
  · cases hv : meaning? v with
    | none => exact Or.inr ⟨ofJson_eq_error hs hv, ofJson_eq_error ht (hvw ▸ hv)⟩
    | some o => exact Or.inl ⟨o, ofJson_eq_ok hs hv, ofJson_eq_ok ht (hvw ▸ hv)⟩
  · intro hr
    have hv := meaning?_of_repeatsField hr
    exact ⟨ofJson_eq_error hs hv, ofJson_eq_error ht (hvw ▸ hv)⟩

/-- Options with a module name and an input. -/
def sample : Document :=
  .object [("module_name", .text "m"),
    ("inputs", .list [.object [("file", .text "a"), ("primary", .flag true)]])]

/-- The sample with the members of both objects in another order. -/
def rearrangedSample : Document :=
  .object [("inputs", .list [.object [("primary", .flag true), ("file", .text "a")]]),
    ("module_name", .text "m")]

/-- The sample and another way to write it, with a key escaped and with other space besides. -/
theorem ofJson_sample :
    ∃ o, ofJson
        "\x7b\"module_name\":\"m\",\"inputs\":[\x7b\"file\":\"a\",\"primary\":true\x7d]\x7d" =
          .ok o ∧
      ofJson ("\x7b \"inputs\": [\x7b\"primary\": true,\n\"file\": \"a\"\x7d],\n" ++
        "\"\\u006dodule_name\": \"m\"\x7d ") = .ok o := by
  have hrearranged : sample.value.Rearranged rearrangedSample.value :=
    .object (.cons (.same _) (.cons (.list (.cons (.object (.cons (.same _) (.cons (.same _) .nil))
      (.swap _ _ _)) .nil)) .nil)) (.swap _ _ _)
  have hinput := @spells_member _ "primary" _ _ _ _ _ _ (.first isSpaces_nil)
    (isSpaces_replicate 1) (.flag true) (@spells_member _ "file" _ _ _ _ _ _
      (.next isSpaces_nil (isSpaces_newline 0)) (isSpaces_replicate 1) (spells_literal "a")
      (.objectEnd isSpaces_nil))
  have hname : SpellsText (unitsOf "module_name".toList) "\\u006dodule_name".toList :=
    .code (by decide) (spellsText_literal "odule_name".toList)
  have hmembers := @spells_member _ "inputs" _ _ _ _ _ _ (.first (isSpaces_replicate 1))
    (isSpaces_replicate 1)
    (.list (.element (.first isSpaces_nil) (.object hinput) (.listEnd isSpaces_nil)))
    (.member (.next isSpaces_nil (isSpaces_newline 0)) hname isSpaces_nil (isSpaces_replicate 1)
      (spells_literal "m") (.objectEnd isSpaces_nil))
  have hwritten : rearrangedSample.value.WrittenAs
      ("\x7b \"inputs\": [\x7b\"primary\": true,\n\"file\": \"a\"\x7d],\n" ++
        "\"\\u006dodule_name\": \"m\"\x7d ") :=
    .intro isSpaces_nil (.object hmembers) (isSpaces_replicate 1) (by decide)
  have hsample := writtenAs_compactText sample
  rcases (ofJson_of_rearranged hrearranged hsample hwritten).1 with h | ⟨⟨r, hr⟩, -⟩
  · exact h
  · have hm : (meaning? sample.value).isSome := by decide
    rw [← toOption_ofJson hsample, hr] at hm
    exact absurd hm (by simp [Except.toOption])

end Options

end FrontendPolicy
