import FrontendPolicy.Proofs.Options.ArtifactName
import FrontendPolicy.Proofs.Options.Independence
import FrontendPolicy.Proofs.Options.Saving
import FrontendPolicy.Proofs.Path.Steps

/-!
# Options that are the same

Options are the same if they agree in every field, where the paths of inputs need only take the same
steps. All answers respect this but one: an input without a file name lends its whole path to the
artifacts, spelled as it is.
-/

namespace FrontendPolicy

/-! ## Inputs -/

namespace Inputs

variable {inputs inputs' : Inputs}

/-- Inputs are the same if they are, one by one. -/
theorem sameAs_iff_forall₂ : inputs.sameAs inputs' = true ↔
    List.Forall₂ (fun i i' => i.sameAs i' = true) inputs inputs' := by
  induction inputs generalizing inputs' with
  | nil => cases inputs' <;> simp [sameAs]
  | cons i inputs ih =>
    cases inputs' with
    | nil => simp [sameAs]
    | cons i' inputs' => rw [sameAs, Bool.and_eq_true, List.forall₂_cons, ih]

theorem sameAs_refl (inputs : Inputs) : inputs.sameAs inputs = true := by
  rw [sameAs_iff_forall₂, List.forall₂_same]
  intro i _
  simp [InputFile.sameAs, Path.sameAs]

theorem primary_of_sameAs {i i' : InputFile} (h : i.sameAs i' = true) : i.primary = i'.primary := by
  rw [InputFile.sameAs, Bool.and_eq_true, beq_iff_eq] at h
  exact h.2

/-- The primary inputs among the same inputs are the same. -/
theorem primaries_of_sameAs (h : inputs.sameAs inputs' = true) :
    inputs.primaries.sameAs inputs'.primaries = true := by
  rw [sameAs_iff_forall₂] at h ⊢
  exact List.rel_filter (fun i i' hi => by simp only [primary_of_sameAs hi]) h

theorem primaryCount_of_sameAs (h : inputs.sameAs inputs' = true) :
    inputs.primaryCount = inputs'.primaryCount :=
  (sameAs_iff_forall₂.mp (primaries_of_sameAs h)).length_eq

/-- The only primary inputs among the same inputs are the same. -/
theorem uniquePrimary?_of_sameAs (h : inputs.sameAs inputs' = true) :
    inputs.uniquePrimary? = none ∧ inputs'.uniquePrimary? = none ∨
      ∃ i i', inputs.uniquePrimary? = some i ∧ inputs'.uniquePrimary? = some i' ∧
        i.file.sameAs i'.file = true := by
  have hprimaries := sameAs_iff_forall₂.mp (primaries_of_sameAs h)
  cases hi : inputs.uniquePrimary? with
  | none =>
    have hcount : inputs'.primaryCount ≠ 1 :=
      primaryCount_of_sameAs h ▸ uniquePrimary?_eq_none_iff.mp hi
    exact Or.inl ⟨rfl, uniquePrimary?_eq_none_iff.mpr hcount⟩
  | some i =>
    rw [uniquePrimary?_eq_some_iff.mp hi, List.forall₂_cons_left_iff] at hprimaries
    obtain ⟨i', more, hsame, hmore, hi'⟩ := hprimaries
    rw [List.forall₂_nil_left_iff.mp hmore] at hi'
    rw [InputFile.sameAs, Bool.and_eq_true] at hsame
    exact Or.inr ⟨i, i', rfl, uniquePrimary?_eq_some_iff.mpr hi', hsame.1⟩

end Inputs

namespace Options

variable {o o' : Options}

/-- Other artifacts are named alike, unless they are after a path without a file name. -/
theorem artifactName_of_sameAs (h : o.sameAs o' = true)
    (hname : ∀ i, o.namedOutput? = none → o.inputs.uniquePrimary? = some i →
      i.file.fileName?.isSome) : o.artifactName = o'.artifactName := by
  obtain ⟨-, houtputs, -, hmodule, hinputs⟩ := sameAs_iff.mp h
  have hnamed : o.namedOutput? = o'.namedOutput? := namedOutput?_congr houtputs
  rw [artifactName, artifactName, ← hnamed]
  cases houtput : o.namedOutput? with
  | some name => rfl
  | none =>
    rcases Inputs.uniquePrimary?_of_sameAs hinputs with ⟨hi, hi'⟩ | ⟨i, i', hi, hi', hfile⟩
    · rw [hi, hi']
      exact hmodule
    · obtain ⟨name, hfileName⟩ := Option.isSome_iff_exists.mp (hname i houtput hi)
      have hfileName' : i'.file.fileName? = some name :=
        (Path.fileName?_congr hfile).symm.trans hfileName
      rw [hi, hi']
      simp only [hfileName, hfileName', Option.getD_some]

/-! ## Options that are written and read again -/

/-- Options are read back from what was written for them, from the text or from the file that they
were saved to. -/
inductive Reloads (o : Options) : Options → Prop
  | ofText {text : String} {r : Options} (hwrite : o.toJson = .ok text)
      (hread : ofJson text = .ok r) : Reloads o r
  | ofFile {s s' : Store} {p : Path} {text : String} {r : Options}
      (hsave : o.save s p = (.ok text, s')) (hload : load s'.files p = .ok r) : Reloads o r

/-- A file that was saved is loaded as the options that were saved. -/
theorem load_of_save {s s' : Store} {p : Path} {text : String} (h : o.save s p = (.ok text, s')) :
    load s'.files p = .ok o := by
  rcases save_cases o s p with ⟨-, hs⟩ | ⟨d, hd, ⟨fault, hs⟩ | ⟨store, hw, hs⟩⟩
  · simp [h] at hs
  · simp [h] at hs
  · rw [h, Prod.mk.injEq] at hs
    rw [hs.2]
    exact load_of_write hd hw

/-- Reading back changes nothing. -/
theorem eq_of_reloads {r : Options} (h : o.Reloads r) : r = o := by
  cases h with
  | ofText hwrite hread => exact Except.ok.inj (hread.symm.trans (ofJson_of_toJson hwrite))
  | ofFile hsave hload => exact Except.ok.inj (hload.symm.trans (load_of_save hsave))

theorem sameAs_refl (o : Options) : o.sameAs o = true :=
  sameAs_iff.mpr ⟨rfl, rfl, fun _ => rfl, rfl, o.inputs.sameAs_refl⟩

/-- Options that are the same answer alike, except that other artifacts may be named after two
spellings of a path that has no file name. Reading back what was written for options gives the same
options, so whether two options are the same can be told from those that are read back. -/
theorem same_options_answer_alike (o o' : Options) :
    (o.sameAs o' = true →
      o.taggedPaths = o'.taggedPaths ∧
      (∀ (σ : Type) (visit : σ → OutputKind → String → σ) (start : σ),
        o.visitOutputs visit start = o'.visitOutputs visit start) ∧
      o.outputPaths = o'.outputPaths ∧
      o.unusedPaths = o'.unusedPaths ∧
      o.namedOutput? = o'.namedOutput? ∧
      (∀ files, o.outputIsDirectory files = o'.outputIsDirectory files) ∧
      o.inputs.primaryCount = o'.inputs.primaryCount ∧
      o.moduleNameRequired = o'.moduleNameRequired ∧
      ((¬∃ i, o.namedOutput? = none ∧ o.inputs.uniquePrimary? = some i ∧
        i.file.fileName? = none) → o.artifactName = o'.artifactName)) ∧
    -- The paths that have no file name: nothing but slashes and dots, or two dots at the end.
    (∀ p : Path, p.fileName? = none ↔
      (∀ part ∈ p.bytes.splitOn slash, part = [] ∨ part = [dot]) ∨
        p.leadingParts.getLast? = some [dot, dot]) ∧
    -- The paths that are the same, whatever slashes, with or without a dot, are put into them.
    (∀ p q : Path, p.sameAs q = true ↔ p.front = q.front ∧ p.names = q.names) ∧
    (∀ (a b : List UInt8) (pieces : List (List UInt8)),
      (∀ s ∈ pieces, s = [slash] ∨ s = [slash, dot]) →
      Path.sameAs ⟨a ++ pieces.flatten ++ slash :: b⟩ ⟨a ++ slash :: b⟩ = true ∧
      (a ≠ [] → Path.sameAs ⟨a ++ pieces.flatten⟩ ⟨a⟩ = true)) ∧
    -- Options that are read back, which they are unless the file system fails.
    (∀ r, o.Reloads r → o.sameAs r = true) ∧
    (∀ r r', o.Reloads r → o'.Reloads r' → o.sameAs o' = r.sameAs r') ∧
    ((∀ i ∈ o.inputs, ∃ text, i.file = .ofText text) →
      (∃ text r, o.toJson = .ok text ∧ ofJson text = .ok r) ∧
      ∀ s p, (∃ fault, o.save s p = (.error (.file fault), s)) ∨
        ∃ text s' r, o.save s p = (.ok text, s') ∧ load s'.files p = .ok r) := by
  refine ⟨fun h => ?_, fun p => Path.fileName?_eq_none_iff, fun p q => Path.sameAs_iff,
    fun a b pieces hpieces => ⟨Path.sameAs_inside hpieces a b, Path.sameAs_end hpieces⟩,
    fun r hr => ?_, fun r r' hr hr' => ?_, fun htexts => ⟨?_, fun s p => ?_⟩⟩
  · obtain ⟨haction, houtputs, hsides, -, hinputs⟩ := sameAs_iff.mp h
    have hconfigured : ∀ k, o.configured? k = o'.configured? k := by
      intro k
      rw [configured?, configured?, hsides]
    have htagged : o.taggedPaths = o'.taggedPaths :=
      taggedPaths_congr (by rw [haction]) houtputs fun k _ => hconfigured k.2
    refine ⟨htagged, fun σ => visitOutputs_congr htagged, outputPaths_congr htagged,
      unusedPaths_congr haction hconfigured, namedOutput?_congr houtputs,
      outputIsDirectory_congr houtputs, Inputs.primaryCount_of_sameAs hinputs,
      moduleNameRequired_congr haction, fun hname => artifactName_of_sameAs h fun i hnamed hi => ?_⟩
    rw [Option.isSome_iff_ne_none]
    exact fun hnone => hname ⟨i, hnamed, hi, hnone⟩
  · rw [eq_of_reloads hr]
    exact o.sameAs_refl
  · rw [eq_of_reloads hr, eq_of_reloads hr']
  · have hpaths : ∀ i ∈ o.inputs, i.file.text?.isSome := by
      intro i hi
      obtain ⟨text, htext⟩ := htexts i hi
      rw [htext, Path.text?_ofText]
      rfl
    obtain ⟨text, -, hwrite, -, hread, -⟩ := roundTrips_of_paths hpaths
    exact ⟨text, o, hwrite, hread⟩
  · rcases save_cases o s p with ⟨hd, -⟩ | ⟨d, -, hfault | ⟨s', -, hs⟩⟩
    · obtain ⟨i, hi, hnoText⟩ := document?_eq_none_iff.mp hd
      obtain ⟨text, htext⟩ := htexts i hi
      exact absurd htext (hnoText text)
    · exact Or.inl hfault
    · exact Or.inr ⟨_, s', o, hs, load_of_save hs⟩

/-- Options whose only input is primary. -/
def inputSample (file : String) : Options := { inputs := [⟨.ofText file, true⟩] }

/-- Two spellings of a path with a file name, and two of a path without one, which other artifacts
are named after as it is spelled. -/
theorem same_options_answer_alike_sample :
    (inputSample "a//b/./").sameAs (inputSample "a/b") = true ∧
    (inputSample "a//b/./").artifactName = (inputSample "a/b").artifactName ∧
    (inputSample "a//..").sameAs (inputSample "a/..") = true ∧
    (inputSample "a//..").artifactName ≠ (inputSample "a/..").artifactName ∧
    (inputSample "a//..").moduleNameRequired = (inputSample "a/..").moduleNameRequired ∧
    ∃ text r, (inputSample "a//..").toJson = .ok text ∧ ofJson text = .ok r := by
  have hsame : (inputSample "a//b/./").sameAs (inputSample "a/b") = true := by decide +kernel
  have hsameUp : (inputSample "a//..").sameAs (inputSample "a/..") = true := by decide +kernel
  have hfileName : (Path.ofText "a//b/./").fileName? = some (.ofText "b") := by decide +kernel
  obtain ⟨hanswers, -⟩ := same_options_answer_alike (inputSample "a//b/./") (inputSample "a/b")
  obtain ⟨hanswersUp, -, -, -, -, -, htexts⟩ :=
    same_options_answer_alike (inputSample "a//..") (inputSample "a/..")
  obtain ⟨-, -, -, -, -, -, -, -, hname⟩ := hanswers hsame
  obtain ⟨-, -, -, -, -, -, -, hrequired, -⟩ := hanswersUp hsameUp
  refine ⟨hsame, hname ?_, hsameUp, by decide +kernel, hrequired, (htexts ?_).1⟩
  · rintro ⟨i, -, hi, hnone⟩
    obtain rfl : ⟨.ofText "a//b/./", true⟩ = i := Option.some.inj hi
    rw [hfileName] at hnone
    simp at hnone
  · intro i hi
    rw [List.mem_singleton.mp hi]
    exact ⟨_, rfl⟩

end Options

end FrontendPolicy
