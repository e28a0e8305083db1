import FrontendPolicy.Proofs.Command.Check
import FrontendPolicy.Proofs.Json.Layout
import FrontendPolicy.Proofs.Options.Saving

/-!
# The layout of what is saved and printed

Files and reports are laid out for a reader, and otherwise they are the compact forms. The laws of
layout are applied here to the two places where a pretty form leaves the program: the file that a
save leaves behind (`Options.saves_pretty`) and the report that is printed.
-/

namespace FrontendPolicy

open Json

/-- Options with a document leave its pretty form in the file that they are saved to, unless the
file system refuses. -/
theorem Options.saves_pretty {o : Options} {d : Document} (hd : o.document? = some d) (s : Store)
    (p : Path) :
    (o.save s p).2.read p = .ok (Text.encode d.prettyText.toList) ∨
      ∃ e, (o.save s p).1 = .error e ∧ e.kind = .file ∧ (o.save s p).2 = s := by
  rcases save_of_document hd s p with ⟨l, -, hl, -⟩ | hrefused
  · exact Or.inl (Store.read_of_locate hl)
  · exact Or.inr hrefused

theorem Report.unspaced_printed (r : Report) :
    unspaced (r.printed true) = r.document.compactText := by
  rw [printed, if_pos rfl, unspaced_prettyText_line]

/-- The literals of a text are those of the compact form that it becomes without its layout. -/
theorem literals_of_unspaced {text compact : String} (h : unspaced text = compact) :
    unspaced text = compact ∧ literals text = literals compact := by
  refine ⟨h, ?_⟩
  rw [← h, literals_unspaced]

namespace Command

/-- What options are saved as and what a report is printed as is the compact form once the spaces
and line feeds between the literals are taken out. The literals are the same, and a list is written
the same way if it is empty, and only then. -/
theorem unspaced_pretty :
    -- Options whose input paths are texts.
    (∀ o : Options, (∀ i ∈ o.inputs, i.file.text?.isSome) →
      ∃ compact pretty, o.toJson = .ok compact ∧ o.fileText = .ok pretty ∧
        (unspaced pretty = compact ∧ literals pretty = literals compact) ∧
        ∀ (s : Store) (p : Path), (o.save s p).2.read p = .ok (Text.encode pretty.toList) ∨
          ∃ e, (o.save s p).1 = .error e ∧ e.kind = .file ∧ (o.save s p).2 = s) ∧
    -- Reports, whether or not they are on options from a file.
    (∀ r : Report,
      unspaced (Work.printReport r true).outcome.stdout = r.document.compactText ∧
      literals (Work.printReport r true).outcome.stdout = literals r.document.compactText) ∧
    (∀ files config o, Options.load files config = .ok o → ∀ strict,
      unspaced (run files (.check config true strict)).stdout =
        (Report.ofOptions o files).document.compactText ∧
      literals (run files (.check config true strict)).stdout =
        literals (Report.ofOptions o files).document.compactText) ∧
    -- Lists at any depth.
    ∀ (depth : Nat) (ds : List Document),
      (Document.list ds).prettyAt depth = (Document.list ds).compact ↔ ds = [] := by
  refine ⟨?_, ?_, ?_, prettyAt_list_eq_compact_iff⟩
  · intro o hpaths
    obtain ⟨compact, pretty, hcompact, hpretty, -, -⟩ := Options.roundTrips_of_paths hpaths
    obtain ⟨d, hd, rfl⟩ := Options.toJson_eq_ok_iff.mp hcompact
    have hfile : o.fileText = .ok d.prettyText := Options.fileText_eq_ok_iff.mpr ⟨d, hd, rfl⟩
    exact ⟨d.compactText, d.prettyText, hcompact, hfile,
      literals_of_unspaced (unspaced_prettyText d), Options.saves_pretty hd⟩
  · intro r
    rw [(Work.does_printReport r true).outcome]
    exact literals_of_unspaced r.unspaced_printed
  · intro files config o hload strict
    rw [run_check_of_ok hload]
    exact literals_of_unspaced (Report.ofOptions o files).unspaced_printed

/-- Options with spaces, a quote and a backslash in their texts, and with an empty list. -/
def spacedSample : Options :=
  { moduleName := "a \" \\", inputs := [⟨.ofText "b  c", true⟩] }

/-- The sample loses its layout and none of the spaces in its texts, and so does the report that is
printed on another sample. -/
theorem unspaced_pretty_sample :
    (∃ pretty, spacedSample.fileText = .ok pretty ∧ unspaced pretty =
      "\x7b\"requested_action\":\"none\",\"output_filenames\":[]," ++
        "\"module_name\":\"a \\\" \\\\\"," ++
        "\"inputs\":[\x7b\"file\":\"b  c\",\"primary\":true\x7d]\x7d") ∧
    unspaced (run sampleFiles (.check (.ofText "a") true true)).stdout =
      (Report.ofOptions unusedSample sampleFiles).document.compactText := by
  obtain ⟨hoptions, -, hprinted, -⟩ := unspaced_pretty
  obtain ⟨compact, pretty, hcompact, hpretty, ⟨hunspaced, -⟩, -⟩ :=
    hoptions spacedSample (by decide +kernel)
  refine ⟨⟨pretty, hpretty, hunspaced.trans ?_⟩, (hprinted _ _ _ (load_sample _) true).1⟩
  refine Except.ok.inj (hcompact.symm.trans ?_)
  decide +kernel

end Command

end FrontendPolicy
