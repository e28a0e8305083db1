import FrontendPolicy.Options.Json
import FrontendPolicy.Proofs.Json.Rearranged
import FrontendPolicy.Proofs.Options.SidePaths

/-!
# What options a value is

The readers of inputs and of options see the value of a text only. `Options.meaning?` is the options
that a value is, if it is any, and reading a text gives just these (`Options.toOption_ofJson`).
-/

namespace FrontendPolicy

open Json

/-! ## Actions -/

/-- The action that a value is. -/
def Action.meaning? (v : Value) : Option Action := v.text?.bind Action.ofText?

theorem Action.reads : Action.reader.Reads Action.meaning? := by
  intro v ws cs rest hw hv hr
  have htext := reads_text "a string" hw hv hr
  simp only [Action.reader, Action.meaning?]
  cases hs : v.text? with
  | none =>
    rw [hs] at htext
    obtain ⟨f, hf⟩ := toOption_eq_none htext
    rw [hf]
    rfl
  | some s =>
    rw [hs] at htext
    rw [toOption_eq_some htext]
    simp only [Action.ofLiteral, Action.ofWord?_eq_ofText?, Option.bind_some]
    cases Action.ofText? s <;> rfl

theorem Action.respects_meaning : Respects Action.meaning? := by
  intro v w h
  rw [Action.meaning?, Action.meaning?, respects_text h]

/-! ## Inputs -/

namespace InputFile

/-- What the fields of an input make of values. -/
def change (name : String) (v : Value) : Option (InputFile → InputFile) :=
  if name = "file" then v.text?.map fun s i => { i with file := .ofText s }
  else if name = "primary" then v.flag?.map fun b i => { i with primary := b }
  else none

theorem reads_change : ∀ f ∈ shape.fields, f.change.Reads (change f.name) := by
  intro f hf
  simp only [shape, List.mem_cons, List.not_mem_nil, or_false] at hf
  rcases hf with rfl | rfl
  · exact (reads_text "path string").map _
  · exact reads_flag.map _

theorem independent_change {a b : String} {v w : Value} {s t : InputFile → InputFile} (h : a ≠ b)
    (hs : change a v = some s) (ht : change b w = some t) (i : InputFile) : s (t i) = t (s i) := by
  have hcases : ∀ {name : String} {v : Value} {s : InputFile → InputFile}, change name v = some s →
      (name = "file" ∧ ∃ p, s = fun i => { i with file := p }) ∨
        (name = "primary" ∧ ∃ b, s = fun i => { i with primary := b }) := by
    intro name v s h
    unfold change at h
    split at h
    · obtain ⟨x, -, rfl⟩ := Option.map_eq_some_iff.mp h
      exact Or.inl ⟨‹_›, _, rfl⟩
    · split at h
      · obtain ⟨x, -, rfl⟩ := Option.map_eq_some_iff.mp h
        exact Or.inr ⟨‹_›, x, rfl⟩
      · simp at h
  rcases hcases hs with ⟨rfl, _, rfl⟩ | ⟨rfl, _, rfl⟩ <;>
    rcases hcases ht with ⟨rfl, _, rfl⟩ | ⟨rfl, _, rfl⟩
  all_goals first | rfl | exact absurd rfl h

theorem respects_change (name : String) : Respects (change name) := by
  intro v w h
  simp only [change, respects_text h, respects_flag h]

/-- What the fields of an input make of values. -/
def interpretation : Interpretation shape where
  change := change
  reads := reads_change
  independent := independent_change

end InputFile

/-- The inputs that a value is. -/
def Inputs.meaning? : Value → Option Inputs := Value.list? InputFile.interpretation.record?

theorem Inputs.reads : Inputs.reader.Reads Inputs.meaning? :=
  InputFile.interpretation.record_reads.list

theorem Inputs.respects_meaning : Respects Inputs.meaning? :=
  (InputFile.interpretation.respects_record InputFile.respects_change).list

/-! ## Options -/

/-- The name of the field for the path of a side output. -/
def SideOutput.key : SideOutput → String
  | .module => "module_output_path"
  | .moduleDoc => "module_doc_output_path"
  | .objcHeader => "objc_header_output_path"
  | .dependencies => "dependencies_file_path"
  | .loadedModuleTrace => "loaded_module_trace_path"

namespace Options

/-- What the fields of options make of values. -/
def change (name : String) (v : Value) : Option (Options → Options) :=
  if name = "requested_action" then
    (Action.meaning? v).map fun a o => { o with requestedAction := a }
  else if name = "output_filenames" then
    (v.list? Value.text?).map fun names o => { o with outputFilenames := names }
  else if name = "module_name" then v.text?.map fun s o => { o with moduleName := s }
  else if name = "inputs" then (Inputs.meaning? v).map fun inputs o => { o with inputs := inputs }
  else (SideOutput.all.find? (·.key = name)).bind fun k =>
    (v.optional? Value.text?).map fun path o => o.setSidePath k path

theorem change_side (k : SideOutput) (v : Value) :
    change k.key v = (v.optional? Value.text?).map fun path o => o.setSidePath k path := by
  cases k <;> rfl

theorem reads_change : ∀ f ∈ shape.fields, f.change.Reads (change f.name) := by
  have hside : ∀ k : SideOutput, (sideField k.key k).change.Reads (change k.key) := by
    intro k
    have hchange : change k.key =
        fun v => (v.optional? Value.text?).map fun path o => o.setSidePath k path :=
      funext (change_side k)
    rw [hchange]
    exact (reads_text "a string").optional.map _
  intro f hf
  simp only [shape, List.mem_cons, List.not_mem_nil, or_false] at hf
  rcases hf with rfl | rfl | rfl | rfl | rfl | rfl | rfl | rfl | rfl
  · exact Action.reads.map _
  · exact (reads_text "a string").list.map _
  · exact hside .module
  · exact hside .moduleDoc
  · exact hside .objcHeader
  · exact hside .dependencies
  · exact hside .loadedModuleTrace
  · exact (reads_text "a string").map _
  · exact Inputs.reads.map _

/-- Each field sets a part of its own. -/
theorem change_cases {name : String} {v : Value} {s : Options → Options}
    (h : change name v = some s) :
    (name = "requested_action" ∧ ∃ a, s = fun o => { o with requestedAction := a }) ∨
    (name = "output_filenames" ∧ ∃ names, s = fun o => { o with outputFilenames := names }) ∨
    (name = "module_name" ∧ ∃ m, s = fun o => { o with moduleName := m }) ∨
    (name = "inputs" ∧ ∃ inputs, s = fun o => { o with inputs := inputs }) ∨
    ∃ k path, name = SideOutput.key k ∧ s = fun o => o.setSidePath k path := by
  unfold change at h
  split at h
  · obtain ⟨a, -, rfl⟩ := Option.map_eq_some_iff.mp h
    exact .inl ⟨‹_›, a, rfl⟩
  · split at h
    · obtain ⟨names, -, rfl⟩ := Option.map_eq_some_iff.mp h
      exact .inr (.inl ⟨‹_›, names, rfl⟩)
    · split at h
      · obtain ⟨m, -, rfl⟩ := Option.map_eq_some_iff.mp h
        exact .inr (.inr (.inl ⟨‹_›, m, rfl⟩))
      · split at h
        · obtain ⟨inputs, -, rfl⟩ := Option.map_eq_some_iff.mp h
          exact .inr (.inr (.inr (.inl ⟨‹_›, inputs, rfl⟩)))
        · obtain ⟨k, hk, h⟩ := Option.bind_eq_some_iff.mp h
          obtain ⟨path, -, rfl⟩ := Option.map_eq_some_iff.mp h
          have hkey := List.find?_some hk
          exact .inr (.inr (.inr (.inr ⟨k, path, (by simpa using hkey : _ = _).symm, rfl⟩)))

theorem independent_change {a b : String} {v w : Value} {s t : Options → Options} (h : a ≠ b)
    (hs : change a v = some s) (ht : change b w = some t) (o : Options) : s (t o) = t (s o) := by
  rcases change_cases hs with ⟨rfl, _, rfl⟩ | ⟨rfl, _, rfl⟩ | ⟨rfl, _, rfl⟩ | ⟨rfl, _, rfl⟩ |
      ⟨k, p, rfl, rfl⟩ <;>
    rcases change_cases ht with ⟨rfl, _, rfl⟩ | ⟨rfl, _, rfl⟩ | ⟨rfl, _, rfl⟩ | ⟨rfl, _, rfl⟩ |
      ⟨k', p', rfl, rfl⟩
  case inr.inr.inr.inr.inr.inr.inr.inr =>
    exact setSidePath_comm (fun hk => h (congrArg _ hk)) p p' o
  -- Of the other pairs, those of one field are ruled out and the rest set different parts.
  all_goals first
    | rfl
    | exact absurd rfl h
    | cases k <;> rfl
    | cases k' <;> rfl

theorem respects_change (name : String) : Respects (change name) := by
  intro v w h
  simp only [change, Action.respects_meaning h, respects_text.list h, respects_text h,
    Inputs.respects_meaning h, respects_text.optional h]

/-- What the fields of options make of values. -/
def interpretation : Interpretation shape where
  change := change
  reads := reads_change
  independent := independent_change

/-- The options that a value is. -/
def meaning? : Value → Option Options := interpretation.record?

/-- The options that a text denotes are those of the value that it is a way to write. -/
theorem toOption_ofJson {v : Value} {text : String} (h : v.WrittenAs text) :
    (ofJson text).toOption = meaning? v :=
  interpretation.record_reads.whole h

theorem respects_meaning : Respects meaning? :=
  interpretation.respects_record respects_change

theorem ofJson_eq_ok_iff {v : Value} {text : String} {o : Options} (h : v.WrittenAs text) :
    ofJson text = .ok o ↔ meaning? v = some o :=
  interpretation.record_reads.whole_eq_ok_iff h

theorem ofJson_eq_ok {v : Value} {text : String} {o : Options} (h : v.WrittenAs text)
    (hm : meaning? v = some o) : ofJson text = .ok o :=
  (ofJson_eq_ok_iff h).mpr hm

theorem ofJson_eq_error {v : Value} {text : String} (h : v.WrittenAs text)
    (hm : meaning? v = none) : ∃ r, ofJson text = .error r :=
  interpretation.record_reads.whole_eq_error h hm

end Options

end FrontendPolicy
