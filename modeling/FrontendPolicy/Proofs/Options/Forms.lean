import FrontendPolicy.Proofs.Json.Forms
import FrontendPolicy.Proofs.Json.Written
import FrontendPolicy.Proofs.Options.Meaning
import Mathlib.Data.List.Forall2

/-!
# Options as a list and as an object

Options, and each of their inputs, may be written as the list of their fields or as an object with a
member for each field. The two levels are independent, so that values of the fields are compared up
to the form of the inputs in them (`Options.SameValues`). Both forms give the same options or are
both rejected.
-/

namespace FrontendPolicy

open Json

/-! ## Inputs -/

namespace InputFile

/-- The names of the fields of an input, in the order in which a list gives them. -/
def fieldNames : List String := ["file", "primary"]

theorem fieldNames_eq : fieldNames = shape.fields.map (·.name) := rfl

/-- The input that a text denotes. -/
def ofJson (text : String) : Except Rejection InputFile := (Reader.record shape).whole text

/-- An input in one form or the other. -/
def SameInput (v w : Value) : Prop :=
  v = w ∨ ∃ vs, GivesFields fieldNames vs v ∧ GivesFields fieldNames vs w

/-- The lists and objects that are no input whatever they hold: the file is missing, or there is
more than an input has. -/
inductive Malformed : Value → Prop where
  | emptyList : Malformed (.list [])
  | emptyObject : Malformed (.object [])
  | longList {vs : List Value} (h : 2 < vs.length) : Malformed (.list vs)

/-- The input that a value is. -/
def meaning? : Value → Option InputFile := interpretation.record?

theorem ofJson_eq_ok_iff {v : Value} {text : String} {i : InputFile} (h : v.WrittenAs text) :
    ofJson text = .ok i ↔ meaning? v = some i :=
  interpretation.record_reads.whole_eq_ok_iff h

theorem ofJson_eq_error {v : Value} {text : String} (h : v.WrittenAs text)
    (hm : meaning? v = none) : ∃ r, ofJson text = .error r :=
  interpretation.record_reads.whole_eq_error h hm

theorem meaning?_of_givesFields {vs : List Value} {v : Value} (h : GivesFields fieldNames vs v) :
    meaning? v = meaning? (.list vs) := by
  rw [fieldNames_eq] at h
  exact interpretation.record?_of_givesFields (by decide) h

theorem meaning?_of_sameInput {v w : Value} (h : SameInput v w) : meaning? v = meaning? w := by
  rcases h with rfl | ⟨vs, hv, hw⟩
  · rfl
  · rw [meaning?_of_givesFields hv, meaning?_of_givesFields hw]

theorem meaning?_of_malformed {v : Value} (h : Malformed v) : meaning? v = none := by
  cases h with
  | emptyList => rfl
  | emptyObject => rfl
  | longList h => exact interpretation.takeFields_of_longer shape.blank h

/-- An input that is given by its file alone is not primary. -/
theorem primary_of_meaning? {v : Value} {i : InputFile} (h : meaning? (.list [v]) = some i) :
    i.primary = false := by
  have hfile : ∀ f ∈ shape.fields.take 1, ∀ {v : Value} {s : InputFile → InputFile},
      change f.name v = some s → ∀ i : InputFile, i.primary = false → (s i).primary = false := by
    intro f hf v s hs i hi
    obtain rfl := List.mem_singleton.mp hf
    obtain ⟨path, -, rfl⟩ := Option.map_eq_some_iff.mp hs
    exact hi
  have htake : interpretation.takeFields shape.blank shape.fields [v] = some i := h
  exact interpretation.takeFields_preserves (P := fun i => i.primary = false) htake hfile rfl

end InputFile

/-! ## Options -/

namespace Options

/-- The names of the fields of options, in the order in which a list gives them. -/
def fieldNames : List String :=
  ["requested_action", "output_filenames", "module_output_path", "module_doc_output_path",
    "objc_header_output_path", "dependencies_file_path", "loaded_module_trace_path",
    "module_name", "inputs"]

theorem fieldNames_eq : fieldNames = shape.fields.map (·.name) := rfl

/-- The field of the given name is as if nothing had been read for it. -/
structure HasDefault (o : Options) (name : String) : Prop where
  requestedAction : name = "requested_action" → o.requestedAction = .noAction
  outputFilenames : name = "output_filenames" → o.outputFilenames = []
  sidePath : ∀ k, name = SideOutput.key k → o.sidePath k = none
  moduleName : name = "module_name" → o.moduleName = ""
  inputs : name = "inputs" → o.inputs = []

/-- Values of the first fields that differ at most in the form of the inputs, which stand in the
ninth place. -/
inductive SameValues : List Value → List Value → Prop where
  | same (vs : List Value) : SameValues vs vs
  | inputs {vs es es' : List Value} (hvs : vs[8]? = some (.list es))
      (hes : List.Forall₂ InputFile.SameInput es es') : SameValues vs (vs.set 8 (.list es'))

theorem hasDefault_blank (name : String) : HasDefault {} name :=
  ⟨fun _ => rfl, fun _ => rfl, fun k _ => by cases k <;> rfl, fun _ => rfl, fun _ => rfl⟩

/-- A field keeps its default while others are read. -/
theorem hasDefault_change {name other : String} {v : Value} {s : Options → Options}
    (h : change other v = some s) (hne : name ≠ other) {o : Options} (hd : o.HasDefault name) :
    (s o).HasDefault name := by
  rcases change_cases h with ⟨rfl, _, rfl⟩ | ⟨rfl, _, rfl⟩ | ⟨rfl, _, rfl⟩ | ⟨rfl, _, rfl⟩ |
    ⟨k, path, rfl, rfl⟩
  · exact { hd with requestedAction := fun hn => absurd hn hne }
  · exact { hd with outputFilenames := fun hn => absurd hn hne }
  · exact { hd with moduleName := fun hn => absurd hn hne }
  · exact { hd with inputs := fun hn => absurd hn hne }
  · refine ⟨?_, ?_, ?_, ?_, ?_⟩
    · simpa using hd.requestedAction
    · simpa using hd.outputFilenames
    · intro k' hk'
      have hkk : k' ≠ k := fun hk => hne (by rw [hk', hk])
      rw [sidePath_setSidePath_of_ne _ hkk]
      exact hd.sidePath k' hk'
    · simpa using hd.moduleName
    · simpa using hd.inputs

/-- The fields that a list leaves out have their defaults. -/
theorem hasDefault_of_meaning? {vs : List Value} {o : Options} (h : meaning? (.list vs) = some o)
    {name : String} (hn : name ∈ fieldNames.drop vs.length) : o.HasDefault name := by
  have hother : ∀ f ∈ shape.fields.take vs.length, name ≠ f.name := by
    intro f hf hname
    have htake : name ∈ fieldNames.take vs.length := by
      rw [fieldNames_eq, ← List.map_take, hname]
      exact List.mem_map_of_mem hf
    exact List.disjoint_take_drop (by decide) (Nat.le_refl _) htake hn
  have htake : interpretation.takeFields shape.blank shape.fields vs = some o := h
  exact interpretation.takeFields_preserves (P := fun o => o.HasDefault name) htake
    (fun f hf _ _ hs _ hd => hasDefault_change hs (hother f hf) hd) (hasDefault_blank name)

theorem meaning?_of_givesFields {vs : List Value} {v : Value} (h : GivesFields fieldNames vs v) :
    meaning? v = meaning? (.list vs) := by
  rw [fieldNames_eq] at h
  exact interpretation.record?_of_givesFields (by decide) h

theorem meaning?_of_sameValues {vs ws : List Value} (h : SameValues vs ws) :
    meaning? (.list ws) = meaning? (.list vs) := by
  cases h with
  | same => rfl
  | @inputs es es' hvs hes =>
    have hinputs : Inputs.meaning? (.list es) = Inputs.meaning? (.list es') :=
      list?_of_forall₂ (hes.imp fun _ _ => InputFile.meaning?_of_sameInput)
    have hchange : change "inputs" (.list es) = change "inputs" (.list es') := by
      show (Inputs.meaning? _).map _ = (Inputs.meaning? _).map _
      rw [hinputs]
    exact interpretation.takeFields_set (f := ⟨"inputs", false, _⟩) hchange shape.blank rfl hvs

/-- Options are refused with any of their inputs. -/
theorem meaning?_of_malformed {vs es : List Value} (hvs : vs[8]? = some (.list es)) {e : Value}
    (he : e ∈ es) (h : InputFile.Malformed e) : meaning? (.list vs) = none := by
  have hinputs : Inputs.meaning? (.list es) = none :=
    list?_of_refused he (InputFile.meaning?_of_malformed h)
  have hchange : change "inputs" (.list es) = none := by
    show (Inputs.meaning? _).map _ = none
    rw [hinputs]
    rfl
  exact interpretation.record?_of_refused_element (i := 8) rfl hvs hchange

theorem meaning?_of_longer {vs : List Value} (h : 9 < vs.length) : meaning? (.list vs) = none :=
  interpretation.takeFields_of_longer shape.blank h

/-- Whether the first fields are given as a list or as an object, the options are the same or both
texts are rejected, and the fields that are left out have their defaults. The same goes for each
input. Lists that are too long are rejected, and so are inputs without a file. -/
theorem ofJson_of_givesFields :
    -- Options, whose inputs may be in either form as well.
    (∀ {vs ws : List Value} {v w : Value} {s t : String}, SameValues vs ws →
      GivesFields fieldNames vs v → GivesFields fieldNames ws w → v.WrittenAs s → w.WrittenAs t →
        (∀ o, ofJson s = .ok o ↔ ofJson t = .ok o) ∧
        (∀ o, ofJson s = .ok o → ∀ name ∈ fieldNames.drop vs.length, o.HasDefault name) ∧
        (9 < vs.length → ∃ r, ofJson s = .error r) ∧
        ∀ es e, vs[8]? = some (.list es) → e ∈ es → InputFile.Malformed e →
          ∃ r, ofJson s = .error r) ∧
    -- An input on its own.
    (∀ {vs : List Value} {v w : Value} {s t : String}, GivesFields InputFile.fieldNames vs v →
      GivesFields InputFile.fieldNames vs w → v.WrittenAs s → w.WrittenAs t →
        (∀ i, InputFile.ofJson s = .ok i ↔ InputFile.ofJson t = .ok i) ∧
        ∀ i, InputFile.ofJson s = .ok i → vs.length = 1 → i.primary = false) ∧
    ∀ {v : Value} {s : String}, InputFile.Malformed v → v.WrittenAs s →
      ∃ r, InputFile.ofJson s = .error r := by
  refine ⟨?_, ?_, ?_⟩
  · intro vs ws v w s t hsame hv hw hs ht
    have hlist : meaning? v = meaning? (.list vs) := meaning?_of_givesFields hv
    have hvw : meaning? v = meaning? w := by
      rw [hlist, meaning?_of_givesFields hw, meaning?_of_sameValues hsame]
    refine ⟨?_, ?_, ?_, ?_⟩
    · intro o
      rw [ofJson_eq_ok_iff hs, ofJson_eq_ok_iff ht, hvw]
    · intro o ho name hname
      rw [ofJson_eq_ok_iff hs, hlist] at ho
      exact hasDefault_of_meaning? ho hname
    · intro hlong
      exact ofJson_eq_error hs (hlist.trans (meaning?_of_longer hlong))
    · intro es e hes he hbad
      exact ofJson_eq_error hs (hlist.trans (meaning?_of_malformed hes he hbad))
  · intro vs v w s t hv hw hs ht
    have hlist : InputFile.meaning? v = InputFile.meaning? (.list vs) :=
      InputFile.meaning?_of_givesFields hv
    constructor
    · intro i
      rw [InputFile.ofJson_eq_ok_iff hs, InputFile.ofJson_eq_ok_iff ht, hlist,
        InputFile.meaning?_of_givesFields hw]
    · intro i hi hone
      obtain ⟨file, rfl⟩ := List.length_eq_one_iff.mp hone
      rw [InputFile.ofJson_eq_ok_iff hs, hlist] at hi
      exact InputFile.primary_of_meaning? hi
  · intro v s hbad hs
    exact InputFile.ofJson_eq_error hs (InputFile.meaning?_of_malformed hbad)

/-- Options as a list, with an input in each form. -/
def listedSample : Document :=
  .list [.text "parse", .list [.text "a.o"], .null, .null, .null, .null, .null, .text "m",
    .list [.list [.text "a", .flag true], .object [("file", .text "b")]]]

/-- The same options as an object, with both inputs in the other form. -/
def keyedSample : Document :=
  .object [("requested_action", .text "parse"), ("output_filenames", .list [.text "a.o"]),
    ("module_output_path", .null), ("module_doc_output_path", .null),
    ("objc_header_output_path", .null), ("dependencies_file_path", .null),
    ("loaded_module_trace_path", .null), ("module_name", .text "m"),
    ("inputs", .list [.object [("file", .text "a"), ("primary", .flag true)],
      .list [.text "b"]])]

theorem sameValues_sample : ∃ vs ws, SameValues vs ws ∧
    GivesFields fieldNames vs listedSample.value ∧ GivesFields fieldNames ws keyedSample.value := by
  have ha : InputFile.SameInput (.list [.text (unitsOf "a".toList), .flag true])
      (.object (membersOf InputFile.fieldNames [.text (unitsOf "a".toList), .flag true])) :=
    .inr ⟨_, .list, .object (by decide) (.refl _)⟩
  have hb : InputFile.SameInput
      (.object (membersOf InputFile.fieldNames [.text (unitsOf "b".toList)]))
      (.list [.text (unitsOf "b".toList)]) :=
    .inr ⟨_, .object (by decide) (.refl _), .list⟩
  refine ⟨_, _, .inputs rfl (.cons ha (.cons hb .nil)), .list, .object (by decide) ?_⟩
  exact .refl _

/-- Both forms of the options are read, as are both forms of an input, and an input without a file
is rejected. -/
theorem ofJson_of_givesFields_sample :
    (∃ o, ofJson listedSample.compactText = .ok o ∧ ofJson keyedSample.compactText = .ok o) ∧
    (∃ i, InputFile.ofJson "[\"a\"]" = .ok i ∧
      InputFile.ofJson "\x7b\"file\":\"a\"\x7d" = .ok i) ∧
    ∃ r, InputFile.ofJson "[]" = .error r := by
  obtain ⟨hoptions, hinput, hmalformed⟩ := ofJson_of_givesFields
  refine ⟨?_, ?_, ?_⟩
  · obtain ⟨vs, ws, hsame, hlisted, hkeyed⟩ := sameValues_sample
    have hs := writtenAs_compactText listedSample
    have ht := writtenAs_compactText keyedSample
    have hm : (meaning? listedSample.value).isSome := by decide
    obtain ⟨o, ho⟩ := Option.isSome_iff_exists.mp hm
    have hread := ofJson_eq_ok hs ho
    exact ⟨o, hread, ((hoptions hsame hlisted hkeyed hs ht).1 o).mp hread⟩
  · have hs := writtenAs_compactText (.list [.text "a"])
    have ht := writtenAs_compactText (.object [("file", .text "a")])
    have hread : InputFile.ofJson _ = .ok ⟨.ofText "a", false⟩ :=
      (InputFile.ofJson_eq_ok_iff hs).mpr rfl
    have hkeyed : GivesFields InputFile.fieldNames [.text (unitsOf "a".toList)] (.object _) :=
      .object (by decide) (.refl _)
    exact ⟨_, hread, ((hinput .list hkeyed hs ht).1 _).mp hread⟩
  · exact hmalformed .emptyList (writtenAs_compactText (.list []))

end Options

end FrontendPolicy
