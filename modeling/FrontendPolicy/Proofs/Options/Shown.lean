import FrontendPolicy.Proofs.Options.ArtifactName
import FrontendPolicy.Proofs.Options.Saving
import FrontendPolicy.Proofs.Path.Shown

/-!
# Options whose inputs are shown

Replacing the path of each input by what is shown of it changes no name, and makes options that can
always be written. Both rest on the steps of a path, which are shown one by one.
-/

namespace FrontendPolicy

/-- The input with what is shown of its path as its path. -/
def InputFile.shown (i : InputFile) : InputFile := { i with file := .ofText i.file.lossyText }

theorem Path.artifactText_shown (p : Path) : p.shown.artifactText = p.artifactText := by
  rw [artifactText, artifactText, fileName?_shown]
  cases p.fileName? with
  | none => exact p.lossyText_shown
  | some name => exact name.lossyText_shown

namespace Inputs

theorem primaries_shown (inputs : Inputs) :
    primaries (inputs.map InputFile.shown) = inputs.primaries.map InputFile.shown :=
  List.filter_map

/-- The only primary input is the same one. -/
theorem uniquePrimary?_shown (inputs : Inputs) :
    uniquePrimary? (inputs.map InputFile.shown) = inputs.uniquePrimary?.map InputFile.shown := by
  apply Option.ext
  intro j
  rw [uniquePrimary?_eq_some_iff, primaries_shown, List.map_eq_singleton_iff,
    Option.map_eq_some_iff]
  simp only [uniquePrimary?_eq_some_iff]

end Inputs

namespace Options

/-- The options with what is shown of the paths of their inputs as these paths. -/
def showInputs (o : Options) : Options := { o with inputs := o.inputs.map InputFile.shown }

variable {o : Options}

/-- Other artifacts are named after the same text. -/
theorem artifactName_showInputs (o : Options) : o.showInputs.artifactName = o.artifactName := by
  have hnamed : o.showInputs.namedOutput? = o.namedOutput? := rfl
  have hprimary : o.showInputs.inputs.uniquePrimary? =
      o.inputs.uniquePrimary?.map InputFile.shown := o.inputs.uniquePrimary?_shown
  rw [artifactName, artifactName, hnamed, hprimary]
  cases o.namedOutput? with
  | some name => rfl
  | none =>
    cases o.inputs.uniquePrimary? with
    | none => rfl
    | some i => exact i.file.artifactText_shown

/-- The options can be written whatever the paths of the inputs were, and are read back. -/
theorem roundTrips_showInputs (o : Options) : o.showInputs.RoundTrips := by
  refine roundTrips_of_paths fun i hi => ?_
  obtain ⟨j, -, rfl⟩ := List.mem_map.mp hi
  rw [InputFile.shown, Path.text?_ofText]
  rfl

/-- Naming commutes with showing: what is shown of the file name of a path is the file name of what
is shown of the path, which has one if the path has, and is shown as the path is. So options with
any paths of inputs name other artifacts as those do whose inputs are spelled by what is shown of
these paths, and those can always be written. -/
theorem naming_commutes_with_showing (o : Options) :
    -- Each path.
    (∀ p : Path,
      (Path.ofText p.lossyText).fileName? = p.fileName?.map (fun name => .ofText name.lossyText) ∧
      (Path.ofText p.lossyText).lossyText = p.lossyText ∧
      (Path.ofText p.lossyText).components = p.components.map Component.shown) ∧
    -- The name that other artifacts are named after.
    o.showInputs.artifactName = o.artifactName ∧
    -- The written forms, and those of the options themselves.
    (∃ compact pretty, o.showInputs.toJson = .ok compact ∧ o.showInputs.fileText = .ok pretty ∧
      ofJson compact = .ok o.showInputs ∧ ofJson pretty = .ok o.showInputs) ∧
    (∀ s p e, (o.showInputs.save s p).1 = .error e → e.kind = .file) ∧
    ((∃ e, o.toJson = .error e) ↔ ∃ i ∈ o.inputs, ∀ text, i.file ≠ .ofText text) := by
  refine ⟨fun p => ⟨p.fileName?_shown, p.lossyText_shown, p.components_shown⟩,
    o.artifactName_showInputs, o.roundTrips_showInputs, fun s p e he => ?_, ?_⟩
  · obtain ⟨compact, -, hcompact, -⟩ := o.roundTrips_showInputs
    obtain ⟨d, hd, -⟩ := toJson_eq_ok_iff.mp hcompact
    rcases save_of_document hd s p with ⟨l, hok, -⟩ | ⟨e', he', hkind, -⟩
    · rw [hok] at he
      simp at he
    · rw [he', Except.error.injEq] at he
      rwa [← he]
  · rw [← document?_eq_none_iff, toJson]
    cases o.document? <;> simp

/-- Options whose only input is primary, and ill-formed before and in its file name. -/
def strayInputSample : Options :=
  { inputs := [⟨⟨[0xE2, 0x82, slash, 0xF0, 0x9F, dot, 0x61, slash, dot]⟩, true⟩] }

/-- The sample cannot be written, but once its input is shown it can, and names other artifacts
alike. -/
theorem naming_commutes_with_showing_sample :
    (∃ e, strayInputSample.toJson = .error e) ∧
    strayInputSample.showInputs.inputs = [⟨.ofText "\uFFFD/\uFFFD.a/.", true⟩] ∧
    strayInputSample.showInputs.artifactName = "\uFFFD.a" ∧
    ∃ text, strayInputSample.showInputs.toJson = .ok text := by
  obtain ⟨-, hname, ⟨compact, -, hcompact, -⟩, -, hfails⟩ :=
    naming_commutes_with_showing strayInputSample
  have hnoText : ∀ text, (strayInputSample.inputs.head (by decide)).file ≠ .ofText text :=
    Path.text?_eq_none_iff.mp (by decide +kernel)
  refine ⟨hfails.mpr ⟨_, List.mem_cons_self, hnoText⟩, by decide +kernel,
    hname.trans (by decide +kernel), compact, hcompact⟩

end Options

end FrontendPolicy
