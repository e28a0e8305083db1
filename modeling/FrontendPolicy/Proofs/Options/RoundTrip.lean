import FrontendPolicy.Proofs.Json.Ensures
import FrontendPolicy.Proofs.Json.Written
import FrontendPolicy.Proofs.Options.Meaning
import FrontendPolicy.Proofs.Action.Spelling
import FrontendPolicy.Proofs.Text.Utf8

/-!
# Options are read as they were written

The value that is written for options means just these options (`Options.meaning?_document`), and
nothing else is needed to read both written forms back. All options that are read can be written in
turn, as their input paths came out of a text.
-/

namespace FrontendPolicy

open Json

/-! ## Paths -/

theorem Path.ofText_of_text? {p : Path} {s : String} (h : p.text? = some s) :
    Path.ofText s = p := by
  obtain ⟨cs, hcs, rfl⟩ := Option.map_eq_some_iff.mp h
  rw [Path.ofText, String.toList_ofList, Text.encode_of_decode? hcs]

theorem Path.text?_ofText (s : String) : (Path.ofText s).text? = some s := by
  rw [Path.text?, Path.ofText, Text.decode?_encode, Option.map_some, String.ofList_toList]

/-! ## Inputs -/

/-- The written form of an input is a value of just this input. -/
theorem InputFile.record?_document {i : InputFile} {d : Document} (h : i.document? = some d) :
    InputFile.interpretation.record? d.value = some i := by
  obtain ⟨s, hs, rfl⟩ := Option.map_eq_some_iff.mp h
  have hfile : InputFile.interpretation.change "file" (.text (unitsOf s.toList)) =
      some fun i => { i with file := .ofText s } := by
    show (Value.text? _).map _ = _
    rw [text?_unitsOf]
    rfl
  have hprimary : InputFile.interpretation.change "primary" (.flag i.primary) =
      some fun j => { j with primary := i.primary } := rfl
  show InputFile.interpretation.takeMembers [] InputFile.shape.blank
    [(unitsOf "file".toList, .text (unitsOf s.toList)),
      (unitsOf "primary".toList, .flag i.primary)] = some i
  rw [Interpretation.takeMembers_field _ (by decide) (by decide) hfile,
    Interpretation.takeMembers_field _ (by decide) (by decide) hprimary]
  have hpath := Path.ofText_of_text? hs
  show some ({ file := .ofText s, primary := i.primary } : InputFile) = some i
  rw [hpath]

theorem Inputs.meaning?_document {inputs : Inputs} {d : Document} (h : inputs.document? = some d) :
    Inputs.meaning? d.value = some inputs := by
  obtain ⟨ds, hds, rfl⟩ := Option.map_eq_some_iff.mp h
  show (valuesOf ds).mapM InputFile.interpretation.record? = some inputs
  clear h
  induction inputs generalizing ds with
  | nil =>
    rw [List.mapM_nil] at hds
    rw [← Option.some.inj hds, valuesOf]
    rfl
  | cons i inputs ih =>
    rw [List.mapM_cons] at hds
    obtain ⟨d, hd, hds⟩ := Option.bind_eq_some_iff.mp hds
    obtain ⟨ds', hds', hds⟩ := Option.bind_eq_some_iff.mp hds
    rw [← Option.some.inj hds, valuesOf, List.mapM_cons, InputFile.record?_document hd, ih ds' hds']
    rfl

/-! ## Options -/

namespace Options

theorem mapM_text? (names : List String) :
    (valuesOf (names.map .text)).mapM Value.text? = some names := by
  rw [valuesOf_map]
  induction names with
  | nil => rfl
  | cons name names ih =>
    rw [List.map_cons, List.mapM_cons, ih]
    show (Value.text? (.text (unitsOf name.toList))).bind _ = _
    rw [text?_unitsOf]
    rfl

/-! ### Side outputs -/

theorem key_injective {k k' : SideOutput} (h : k.key = k'.key) : k = k' := by
  cases k <;> cases k' <;> first | rfl | exact absurd h (by decide)

/-- The member for the path of a side output that was not seen sets the path, and without it
nothing is set. -/
theorem takeMembers_sideMember (k : SideOutput) (path : Option String) {seen : List String}
    (hseen : k.key ∉ seen) {p : Options} (hp : p.sidePath k = none) :
    ∃ seen', (∀ name ∈ seen', name = k.key ∨ name ∈ seen) ∧
      ∀ ms, interpretation.takeMembers seen p (memberValuesOf (sideMember k.key path) ++ ms) =
        interpretation.takeMembers seen' (p.setSidePath k path) ms := by
  cases path with
  | none =>
    refine ⟨seen, fun name h => Or.inr h, fun ms => ?_⟩
    rw [← hp, setSidePath_self, hp]
    rfl
  | some path =>
    have hchange : interpretation.change k.key (.text (unitsOf path.toList)) =
        some fun o => o.setSidePath k (some path) := by
      show change k.key _ = _
      rw [change_side]
      show ((Value.text? _).map some).map _ = _
      rw [text?_unitsOf]
      rfl
    have hfield : (shape.field? k.key).isSome := by cases k <;> decide
    exact ⟨k.key :: seen, fun name h => List.mem_cons.mp h,
      fun ms => interpretation.takeMembers_field hfield hseen hchange p ms⟩

/-- The members for the paths of some side outputs. -/
def sideMembers (o : Options) (ks : List SideOutput) : List (List Nat × Value) :=
  ks.flatMap fun k => memberValuesOf (sideMember k.key (o.sidePath k))

/-- The members for side outputs that were not seen set all of their paths, whichever of them are
there. -/
theorem takeMembers_sideMembers (o : Options) {ks : List SideOutput} (hks : ks.Nodup) :
    ∀ {seen : List String} {p : Options}, (∀ k ∈ ks, k.key ∉ seen ∧ p.sidePath k = none) →
      ∃ seen', (∀ name ∈ seen', (∃ k ∈ ks, name = k.key) ∨ name ∈ seen) ∧
        ∀ ms, interpretation.takeMembers seen p (o.sideMembers ks ++ ms) =
          interpretation.takeMembers seen'
            (ks.foldl (fun p k => p.setSidePath k (o.sidePath k)) p) ms := by
  induction ks with
  | nil =>
    intro seen p _
    exact ⟨seen, fun name h => Or.inr h, fun ms => rfl⟩
  | cons k ks ih =>
    intro seen p h
    obtain ⟨hnew, hks⟩ := List.nodup_cons.mp hks
    obtain ⟨hseen, hp⟩ := h k List.mem_cons_self
    obtain ⟨seen₁, hseen₁, hfirst⟩ := takeMembers_sideMember k (o.sidePath k) hseen hp
    -- The other kinds are still to come, since a kind is not listed twice.
    have hrest : ∀ k' ∈ ks,
        k'.key ∉ seen₁ ∧ (p.setSidePath k (o.sidePath k)).sidePath k' = none := by
      intro k' hk'
      have hne : k' ≠ k := by
        rintro rfl
        exact hnew hk'
      obtain ⟨hseen', hp'⟩ := h k' (List.mem_cons_of_mem k hk')
      refine ⟨fun hmem => ?_, (sidePath_setSidePath_of_ne p hne _).trans hp'⟩
      rcases hseen₁ _ hmem with hkey | hmem
      · exact hne (key_injective hkey)
      · exact hseen' hmem
    obtain ⟨seen₂, hseen₂, hlast⟩ := ih hks hrest
    refine ⟨seen₂, fun name hname => ?_, fun ms => ?_⟩
    · rcases hseen₂ name hname with ⟨k', hk', hkey⟩ | hname
      · exact Or.inl ⟨k', List.mem_cons_of_mem k hk', hkey⟩
      · rcases hseen₁ name hname with hkey | hname
        · exact Or.inl ⟨k, List.mem_cons_self, hkey⟩
        · exact Or.inr hname
    · rw [sideMembers, List.flatMap_cons, List.append_assoc, hfirst]
      exact hlast ms

/-- The side outputs in the order of their members. -/
def writtenSides : List SideOutput :=
  [.module, .moduleDoc, .objcHeader, .dependencies, .loadedModuleTrace]

/-! ### The whole form -/

/-- No field of options has to be given. -/
theorem missing?_shape (seen : List String) : shape.missing? seen = none := by
  rw [Shape.missing?, List.find?_eq_none]
  intro f hf
  have hrequired : f.required = false :=
    (show ∀ f ∈ shape.fields, f.required = false by decide) f hf
  simp [hrequired]

/-- The written form of options is a value of just these options. -/
theorem meaning?_document {o : Options} {d : Document} (h : o.document? = some d) :
    meaning? d.value = some o := by
  obtain ⟨inputs, hinputs, rfl⟩ := Option.map_eq_some_iff.mp h
  have haction : interpretation.change "requested_action"
      (.text (unitsOf o.requestedAction.token.toList)) =
        some fun p => { p with requestedAction := o.requestedAction } := by
    show (Action.meaning? _).map _ = _
    rw [Action.meaning?, text?_unitsOf, Option.bind_some, ofText?_token]
    rfl
  have houtputs : interpretation.change "output_filenames"
      (.list (valuesOf (o.outputFilenames.map .text))) =
        some fun p => { p with outputFilenames := o.outputFilenames } := by
    show (Value.list? Value.text? _).map _ = _
    rw [Value.list?, mapM_text?]
    rfl
  have hname : interpretation.change "module_name" (.text (unitsOf o.moduleName.toList)) =
      some fun p => { p with moduleName := o.moduleName } := by
    show (Value.text? _).map _ = _
    rw [text?_unitsOf]
    rfl
  have hin : interpretation.change "inputs" inputs.value =
      some fun p => { p with inputs := o.inputs } := by
    show (Inputs.meaning? _).map _ = _
    rw [Inputs.meaning?_document hinputs]
    rfl
  have hmembers : memberValuesOf (o.members inputs) =
      (unitsOf "requested_action".toList, .text (unitsOf o.requestedAction.token.toList)) ::
      (unitsOf "output_filenames".toList, .list (valuesOf (o.outputFilenames.map .text))) ::
      (o.sideMembers writtenSides ++
      [(unitsOf "module_name".toList, .text (unitsOf o.moduleName.toList)),
        (unitsOf "inputs".toList, inputs.value)]) := by
    simp only [members, memberValuesOf_append, List.append_assoc, sideMembers, writtenSides,
      List.flatMap_cons, List.flatMap_nil]
    rfl
  obtain ⟨seen, hseen, hsides⟩ := @takeMembers_sideMembers o writtenSides (by decide)
    ["output_filenames", "requested_action"]
    { requestedAction := o.requestedAction, outputFilenames := o.outputFilenames }
    fun k _ => by cases k <;> exact ⟨by decide, rfl⟩
  -- Which names were seen depends on the side outputs that are set, but the last two are new.
  have hunseen : ∀ name, (∀ k, name ≠ SideOutput.key k) →
      name ∉ ["output_filenames", "requested_action"] → name ∉ seen := by
    intro name hkeys hfront hmem
    rcases hseen name hmem with ⟨k, -, hk⟩ | hmem
    · exact hkeys k hk
    · exact hfront hmem
  have hname_seen := hunseen "module_name" (by intro k; cases k <;> decide) (by decide)
  have hinputs_seen := hunseen "inputs" (by intro k; cases k <;> decide) (by decide)
  show interpretation.takeMembers [] {} (memberValuesOf (o.members inputs)) = some o
  rw [hmembers, interpretation.takeMembers_field (by decide) (by decide) haction,
    interpretation.takeMembers_field (by decide) (by decide) houtputs, hsides,
    interpretation.takeMembers_field (by decide) hname_seen hname,
    interpretation.takeMembers_field (by decide) _ hin, Interpretation.takeMembers, missing?_shape]
  · rfl
  · rw [List.mem_cons, not_or]
    exact ⟨by decide, hinputs_seen⟩

/-! ## Both directions -/

/-- Both written forms of options are there and are read as just these options. -/
def RoundTrips (o : Options) : Prop :=
  ∃ compact pretty, o.toJson = .ok compact ∧ o.fileText = .ok pretty ∧
    ofJson compact = .ok o ∧ ofJson pretty = .ok o

theorem toJson_eq_ok_iff {o : Options} {text : String} :
    o.toJson = .ok text ↔ ∃ d, o.document? = some d ∧ d.compactText = text := by
  unfold toJson
  cases o.document? <;> simp

theorem fileText_eq_ok_iff {o : Options} {text : String} :
    o.fileText = .ok text ↔ ∃ d, o.document? = some d ∧ d.prettyText = text := by
  unfold fileText
  cases o.document? <;> simp

theorem Inputs.isSome_document? {inputs : Inputs} (h : ∀ i ∈ inputs, i.file.text?.isSome) :
    inputs.document?.isSome := by
  rw [Inputs.document?, Option.isSome_map]
  induction inputs with
  | nil => rfl
  | cons i inputs ih =>
    have hi := h i List.mem_cons_self
    have hrest := ih fun j hj => h j (List.mem_cons_of_mem i hj)
    obtain ⟨s, hs⟩ := Option.isSome_iff_exists.mp hi
    obtain ⟨ds, hds⟩ := Option.isSome_iff_exists.mp hrest
    rw [List.mapM_cons, InputFile.document?, hs, hds]
    rfl

/-- Options can be written if the paths of their inputs are texts, and are read back. -/
theorem roundTrips_of_paths {o : Options} (h : ∀ i ∈ o.inputs, i.file.text?.isSome) :
    o.RoundTrips := by
  have hd : o.document?.isSome := by
    rw [document?, Option.isSome_map]
    exact Inputs.isSome_document? h
  obtain ⟨d, hd⟩ := Option.isSome_iff_exists.mp hd
  refine ⟨d.compactText, d.prettyText, ?_, ?_, ?_, ?_⟩
  · exact toJson_eq_ok_iff.mpr ⟨d, hd, rfl⟩
  · exact fileText_eq_ok_iff.mpr ⟨d, hd, rfl⟩
  · exact ofJson_eq_ok (writtenAs_compactText d) (meaning?_document hd)
  · exact ofJson_eq_ok (writtenAs_prettyText d) (meaning?_document hd)

/-- What is written as compact text is read back. -/
theorem ofJson_of_toJson {o : Options} {text : String} (h : o.toJson = .ok text) :
    ofJson text = .ok o := by
  obtain ⟨d, hd, rfl⟩ := toJson_eq_ok_iff.mp h
  exact ofJson_eq_ok (writtenAs_compactText d) (meaning?_document hd)

/-- What is written to a file is read back. -/
theorem ofJson_of_fileText {o : Options} {text : String} (h : o.fileText = .ok text) :
    ofJson text = .ok o := by
  obtain ⟨d, hd, rfl⟩ := fileText_eq_ok_iff.mp h
  exact ofJson_eq_ok (writtenAs_prettyText d) (meaning?_document hd)

/-- A file that holds what was written for options is loaded as just these options. -/
theorem load_of_read {o : Options} {text : String} {files : Files} {path : Path}
    (ht : o.fileText = .ok text) (hr : files.read path = .ok (Text.encode text.toList)) :
    load files path = .ok o := by
  simp only [load, hr, ofBytes, Text.decode?_encode, String.ofList_toList, ofJson_of_fileText ht]

/-- Inputs are read with paths that are texts. -/
theorem paths_of_reader :
    Inputs.reader.Ensures fun inputs => ∀ i ∈ inputs, i.file.text?.isSome := by
  have hfile : ∀ s : String, (Path.ofText s).text?.isSome := by
    intro s
    rw [Path.text?_ofText]
    rfl
  have hinput : (Reader.record InputFile.shape).Ensures fun i => i.file.text?.isSome := by
    refine Reader.ensures_record (hfile "") ?_
    intro f hf
    simp only [InputFile.shape, List.mem_cons, List.not_mem_nil, or_false] at hf
    rcases hf with rfl | rfl
    · exact Reader.ensures_map _ fun s i _ => hfile s
    · exact Reader.ensures_map _ fun b i hi => hi
  exact hinput.list

/-- Only the field for the inputs bears on their paths. -/
theorem keeps_paths : shape.Keeps fun o => ∀ i ∈ o.inputs, i.file.text?.isSome := by
  intro f hf
  simp only [shape, sideField, List.mem_cons, List.not_mem_nil, or_false] at hf
  rcases hf with rfl | rfl | rfl | rfl | rfl | rfl | rfl | rfl | rfl
  -- The inputs are the last field.
  case inr.inr.inr.inr.inr.inr.inr.inr => exact paths_of_reader.map fun inputs h o _ => h
  all_goals exact Reader.ensures_map _ fun a o ho => ho

/-- The paths of the inputs of options that were read are texts. -/
theorem paths_of_ofJson {text : String} {o : Options} (h : ofJson text = .ok o) :
    ∀ i ∈ o.inputs, i.file.text?.isSome :=
  (Reader.ensures_record (fun _ hi => absurd hi List.not_mem_nil) keeps_paths).whole h

end Options

end FrontendPolicy
