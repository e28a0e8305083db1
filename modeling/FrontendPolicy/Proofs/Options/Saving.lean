import FrontendPolicy.Proofs.Options.RoundTrip
import FrontendPolicy.Proofs.Store.Contents
import FrontendPolicy.Session

/-!
# Saving options

A save writes the whole form of the options or nothing. `Options.save_cases` is all that can come of
one: there is no written form, the file system refuses, or the file is written. What was written is
loaded again as the same options (`Options.load_of_write`).
-/

namespace FrontendPolicy

/-! ## Options without a written form -/

/-- A path is not a text if no text spells it. -/
theorem Path.text?_eq_none_iff {p : Path} : p.text? = none ↔ ∀ s, p ≠ .ofText s := by
  constructor
  · rintro h s rfl
    rw [Path.text?_ofText] at h
    simp at h
  · intro h
    rw [Option.eq_none_iff_forall_ne_some]
    intro s hs
    exact h s (Path.ofText_of_text? hs).symm

/-- One path that is not a text is enough for the inputs to have no written form. -/
theorem Inputs.document?_eq_none_iff {inputs : Inputs} :
    inputs.document? = none ↔ ∃ i ∈ inputs, i.file.text? = none := by
  constructor
  · intro h
    by_contra hpaths
    have hsome : inputs.document?.isSome := Options.Inputs.isSome_document? fun i hi =>
      Option.isSome_iff_ne_none.mpr fun hnone => hpaths ⟨i, hi, hnone⟩
    rw [h] at hsome
    simp at hsome
  · rintro ⟨i, hi, hnone⟩
    rw [document?, Option.map_eq_none_iff]
    induction inputs with
    | nil => exact absurd hi List.not_mem_nil
    | cons j inputs ih =>
      rw [List.mapM_cons]
      rcases List.mem_cons.mp hi with rfl | hi
      · rw [InputFile.document?, hnone]
        rfl
      · rw [ih hi]
        cases j.document? <;> rfl

namespace Options

variable {o : Options} {s s' : Store} {p : Path}

theorem document?_eq_none_iff :
    o.document? = none ↔ ∃ i ∈ o.inputs, ∀ text, i.file ≠ .ofText text := by
  simp only [document?, Option.map_eq_none_iff, Inputs.document?_eq_none_iff,
    Path.text?_eq_none_iff]

/-- Whether options have a written form is decided by their inputs. -/
theorem document?_of_inputs {o' : Options} (h : o'.inputs = o.inputs) :
    o.document? = none ∧ o'.document? = none ∨
      ∃ d d', o.document? = some d ∧ o'.document? = some d' := by
  unfold Options.document?
  rw [h]
  cases o.inputs.document? with
  | none => exact Or.inl ⟨rfl, rfl⟩
  | some d => exact Or.inr ⟨_, _, rfl, rfl⟩

/-! ## Saving -/

/-- Options without a written form are not saved, whatever the path is. -/
theorem save_of_none (hd : o.document? = none) (s : Store) (p : Path) :
    o.save s p = (.error .unwritablePath, s) := by
  simp only [save, fileText, hd]

theorem save_of_fault {d : Json.Document} {fault : FileFault} (hd : o.document? = some d)
    (hw : s.write p (Text.encode d.prettyText.toList) = .error fault) :
    o.save s p = (.error (.file fault), s) := by
  simp only [save, fileText, hd, hw]

theorem save_of_write {d : Json.Document} (hd : o.document? = some d)
    (hw : s.write p (Text.encode d.prettyText.toList) = .ok s') :
    o.save s p = (.ok d.prettyText, s') := by
  simp only [save, fileText, hd, hw]

/-- A save finds no written form, is refused by the file system, or writes the whole form. -/
theorem save_cases (o : Options) (s : Store) (p : Path) :
    o.document? = none ∧ o.save s p = (.error .unwritablePath, s) ∨
      ∃ d, o.document? = some d ∧
        ((∃ fault, o.save s p = (.error (.file fault), s)) ∨
          ∃ s', s.write p (Text.encode d.prettyText.toList) = .ok s' ∧
            o.save s p = (.ok d.prettyText, s')) := by
  cases hd : o.document? with
  | none => exact Or.inl ⟨rfl, save_of_none hd s p⟩
  | some d =>
    refine Or.inr ⟨d, rfl, ?_⟩
    cases hw : s.write p (Text.encode d.prettyText.toList) with
    | error fault => exact Or.inl ⟨fault, save_of_fault hd hw⟩
    | ok s' => exact Or.inr ⟨s', rfl, save_of_write hd hw⟩

/-- A save fails for the configuration if some input path is not a text, and for nothing else. -/
theorem save_configuration_error_iff :
    (∃ e, (o.save s p).1 = .error e ∧ e.kind = .configuration) ↔
      ∃ i ∈ o.inputs, ∀ text, i.file ≠ .ofText text := by
  rw [← document?_eq_none_iff]
  rcases save_cases o s p with ⟨hd, hs⟩ | ⟨d, hd, ⟨fault, hs⟩ | ⟨s', -, hs⟩⟩
  · exact iff_of_true ⟨.unwritablePath, by rw [hs], rfl⟩ hd
  · simp [hs, hd, Error.kind]
  · simp [hs, hd]

/-- Options with a written form are saved whole, and no other file or directory is changed, or the
file system refuses and stays as it was. -/
theorem save_of_document {d : Json.Document} (hd : o.document? = some d) (s : Store) (p : Path) :
    (∃ l, (o.save s p).1 = .ok d.prettyText ∧
      (o.save s p).2.locate p = .ok (l, .file (Text.encode d.prettyText.toList)) ∧
      ∀ l', l' ≠ l → (o.save s p).2.node? l' = s.node? l') ∨
    ∃ e, (o.save s p).1 = .error e ∧ e.kind = .file ∧ (o.save s p).2 = s := by
  cases hw : s.write p (Text.encode d.prettyText.toList) with
  | error fault =>
    rw [save_of_fault hd hw]
    exact Or.inr ⟨.file fault, rfl, rfl, rfl⟩
  | ok s' =>
    obtain ⟨l, hl, hothers⟩ := Store.locate_of_write hw
    rw [save_of_write hd hw]
    exact Or.inl ⟨l, rfl, hl, hothers⟩

/-! ## Loading what was saved -/

/-- Options that were just written to a file are loaded from it. -/
theorem load_of_write {d : Json.Document} (hd : o.document? = some d)
    (hw : s.write p (Text.encode d.prettyText.toList) = .ok s') : load s'.files p = .ok o := by
  obtain ⟨l, hl, -⟩ := Store.locate_of_write hw
  exact load_of_read (fileText_eq_ok_iff.mpr ⟨d, hd, rfl⟩) (Store.read_of_locate hl)

/-- Options with the same inputs are saved alike. Either neither is, or both are loaded again from
file systems with the same directories. -/
theorem save_of_inputs {o' : Options} (h : o'.inputs = o.inputs) (s : Store) (p : Path) :
    (∃ e, o.save s p = (.error e, s) ∧ o'.save s p = (.error e, s)) ∨
      ∃ text store text' store', o.save s p = (.ok text, store) ∧
        o'.save s p = (.ok text', store') ∧ load store.files p = .ok o ∧
        load store'.files p = .ok o' ∧ store'.files.isDirectory = store.files.isDirectory := by
  rcases document?_of_inputs h with ⟨hd, hd'⟩ | ⟨d, d', hd, hd'⟩
  · exact Or.inl ⟨.unwritablePath, save_of_none hd s p, save_of_none hd' s p⟩
  · -- Both are written to one place, so the file systems differ in the contents of a file only.
    obtain ⟨r, hr⟩ := s.exists_write_eq p
    cases r with
    | error fault => exact Or.inl ⟨.file fault, save_of_fault hd (hr _), save_of_fault hd' (hr _)⟩
    | ok l =>
      refine Or.inr ⟨d.prettyText, _, d'.prettyText, _, save_of_write hd (hr _),
        save_of_write hd' (hr _), load_of_write hd (hr _), load_of_write hd' (hr _), ?_⟩
      funext q
      exact (Store.sameShape_put s l _ _).isDirectory q

end Options

end FrontendPolicy
