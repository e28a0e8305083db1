import FrontendPolicy.Proofs.Action.Spelling
import FrontendPolicy.Proofs.Command.Check
import FrontendPolicy.Proofs.Json.Unambiguous

/-!
# What a report says in JSON

The JSON form of a report says all of it, whatever characters its texts have. A report is printed or
written as one of three texts (`Report.jsonTexts`). Each of them denotes the document of the report,
and a document is the form of one report only.
-/

namespace FrontendPolicy

open Json

attribute [ext] Report

/-! ## Names -/

theorem OutputKind.name_injective {k k' : OutputKind} (h : k.name = k'.name) : k = k' := by
  cases k <;> cases k' <;> first | rfl | exact absurd h (by decide)

theorem SideOutput.name_injective {k k' : SideOutput} (h : k.name = k'.name) : k = k' := by
  cases k <;> cases k' <;> first | rfl | exact absurd h (by decide)

namespace Report

/-! ## Texts -/

/-- The forms that a report takes as a JSON text: without any space, with a line per element and
member, and the way it is printed. -/
def jsonTexts (r : Report) : List String :=
  [r.document.compactText, r.document.prettyText, r.printed true]

/-- Each form of a report denotes its document and nothing else. -/
theorem denotes_iff {r : Report} {text : String} (h : text ∈ r.jsonTexts) {d : Document} :
    Denotes text d ↔ d = r.document := by
  simp only [jsonTexts, List.mem_cons, List.not_mem_nil, or_false] at h
  rcases h with rfl | rfl | rfl
  · exact denotes_compactText_iff
  · exact denotes_prettyText_iff
  · exact denotes_prettyText_line_iff

/-! ## Documents -/

theorem outputEntry_injective : Function.Injective outputEntry := by
  intro ⟨kind, path⟩ ⟨kind', path'⟩ h
  simp only [outputEntry, Document.object.injEq, List.cons.injEq, Prod.mk.injEq, true_and,
    Document.text.injEq, and_true] at h
  rw [OutputKind.name_injective h.1, h.2]

theorem unusedEntry_injective : Function.Injective unusedEntry := by
  intro ⟨kind, path, action⟩ ⟨kind', path', action'⟩ h
  simp only [unusedEntry, Document.object.injEq, List.cons.injEq, Prod.mk.injEq, true_and,
    Document.text.injEq, and_true] at h
  obtain ⟨hkind, hpath, haction⟩ := h
  rw [SideOutput.name_injective hkind, hpath, token_injective haction]

/-- A document is the form of one report. -/
theorem document_injective : Function.Injective document := by
  intro r r' h
  simp only [document, Document.object.injEq, List.cons.injEq, Prod.mk.injEq, true_and,
    Document.text.injEq, Document.flag.injEq, Document.list.injEq, and_true] at h
  obtain ⟨haction, hname, hrequired, houtputs, hartifact, hdirectory, hunused⟩ := h
  have haction : r.action = r'.action := token_injective haction
  have houtputs : r.outputPaths = r'.outputPaths := outputEntry_injective.list_map houtputs
  have hunused : r.unused = r'.unused := unusedEntry_injective.list_map hunused
  exact Report.ext haction hname hrequired houtputs hartifact hdirectory hunused

/-- Reports that share a JSON text are the same. -/
theorem eq_of_mem_jsonTexts {r r' : Report} {text : String} (h : text ∈ r.jsonTexts)
    (h' : text ∈ r'.jsonTexts) : r = r' := by
  have hdenotes : Denotes text r.document := (denotes_iff h).mpr rfl
  exact document_injective ((denotes_iff h').mp hdenotes)

/-! ## Reports on options -/

/-- The JSON texts of a report on options are well-formed. Each of them decodes to an object with
what the options say, the output paths in the order in which they are gone through, and with every
text as it is. Different reports have no text in common. -/
theorem jsonTexts_faithful (o : Options) (files : Files) :
    -- What each of the texts decodes to.
    (∀ text ∈ (ofOptions o files).jsonTexts, ∀ d, Denotes text d ↔ d = .object
      [("action", .text o.requestedAction.token),
        ("module_name", .text o.moduleName),
        ("module_name_required", .flag o.moduleNameRequired),
        ("output_paths", .list (o.visitOutputs (fun done kind path =>
          done ++ [.object [("kind", .text kind.name), ("path", .text path)]]) [])),
        ("original_path", .text o.artifactName),
        ("output_is_directory", .flag (o.outputIsDirectory files)),
        ("unused", .list (o.unusedPaths.map fun u => .object
          [("kind", .text u.kind.name), ("path", .text u.path),
            ("action", .text u.action.token)]))]) ∧
    -- A check prints one of them.
    (∀ config strict, Options.load files config = .ok o →
      (Command.run files (.check config true strict)).stdout ∈ (ofOptions o files).jsonTexts) ∧
    -- No text is shared.
    ∀ r r' : Report, r ≠ r' → ∀ text ∈ r.jsonTexts, text ∉ r'.jsonTexts := by
  refine ⟨?_, ?_, ?_⟩
  · intro text htext d
    rw [denotes_iff htext, Options.visitOutputs_concat]
    rfl
  · intro config strict hload
    rw [Command.run_check_of_ok hload]
    simp [jsonTexts]
  · intro r r' hne text htext htext'
    exact hne (eq_of_mem_jsonTexts htext htext')

/-- A report with a module name that has to be escaped. -/
def escapedSample (name : String) : Report := ofOptions { moduleName := name } Command.sampleFiles

/-- What a check of the sample prints decodes to its report, and a quote in a module name is not
taken for an escaped one. -/
theorem jsonTexts_faithful_sample :
    Denotes (Command.run Command.sampleFiles (.check (.ofText "a") true true)).stdout (.object
      [("action", .text "emit-pch"), ("module_name", .text ""),
        ("module_name_required", .flag true),
        ("output_paths", .list
          [.object [("kind", .text "primary"), ("path", .text "d")],
            .object [("kind", .text "module"), ("path", .text "m")],
            .object [("kind", .text "objc_header"), ("path", .text "h")]]),
        ("original_path", .text "d"), ("output_is_directory", .flag true),
        ("unused", .list
          [.object [("kind", .text "objc_header"), ("path", .text "h"),
              ("action", .text "emit-pch")],
            .object [("kind", .text "module"), ("path", .text "m"),
              ("action", .text "emit-pch")]])]) ∧
    (escapedSample "\"\n\x01").document.compactText ∉ (escapedSample "\\\"\n\x01").jsonTexts := by
  obtain ⟨hdecodes, hprinted, -⟩ := jsonTexts_faithful Command.unusedSample Command.sampleFiles
  refine ⟨(hdecodes _ (hprinted _ true (Command.load_sample _)) _).mpr rfl, ?_⟩
  exact (jsonTexts_faithful Command.unusedSample Command.sampleFiles).2.2 _ _ (by decide) _
    List.mem_cons_self

end Report

end FrontendPolicy
