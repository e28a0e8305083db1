import FrontendPolicy.Options.OutputPaths
import FrontendPolicy.Proofs.Inputs
import FrontendPolicy.Proofs.Path

/-!
# The name that other artifacts are named after

The name is that of the single output, of the only primary input or of the module, whichever comes
first; there is a lemma for each of the three sources. What is taken of the path of an input is
`Path.artifactText`, its last step, or the whole path where that is no name.
-/

namespace FrontendPolicy

/-! ## Input paths -/

namespace Path

/-- What is taken of the path of an input: its file name, or the whole path if it has none. -/
def artifactText (p : Path) : String := (p.fileName?.getD p).lossyText

/-- The last leading part of a path is taken, and it is a name. -/
theorem artifactText_of_name {p : Path} {part : List UInt8}
    (h : p.leadingParts.getLast? = some part) (hup : part ≠ [dot, dot]) :
    p.artifactText = (Path.mk part).lossyText := by
  rw [artifactText, fileName?_eq, h, Option.bind_some, if_neg hup, Option.getD_some]

/-- A path that goes up at its end, or nowhere, is taken as a whole. -/
theorem artifactText_of_noName {p : Path}
    (h : p.leadingParts = [] ∨ p.leadingParts.getLast? = some [dot, dot]) :
    p.artifactText = p.lossyText := by
  rw [artifactText, fileName?_eq]
  rcases h with h | h
  · rw [h]
    rfl
  · rw [h]
    rfl

/-- The text of a part of a path is not empty and has no slash. -/
theorem lossyText_of_part {part : List UInt8} (hne : part ≠ []) (hslash : slash ∉ part) :
    (Path.mk part).lossyText ≠ "" ∧ '/' ∉ (Path.mk part).lossyText.toList := by
  rw [lossyText, String.toList_ofList]
  refine ⟨fun h => hne ?_, fun h => hslash (Text.byte_mem_of_mem_decodeLossy (by decide) h)⟩
  rw [← Text.decodeLossy_eq_nil_iff, ← String.toList_ofList (l := Text.decodeLossy part), h]
  rfl

end Path

/-! ## The three sources -/

namespace Options

variable {o : Options}

theorem singleOutput?_eq_some_iff {name : String} :
    o.singleOutput? = some name ↔ o.outputFilenames = [name] := by
  unfold singleOutput?
  split
  · rename_i single h
    rw [h, Option.some.injEq, List.cons.injEq, and_iff_left rfl]
  · rename_i h
    exact iff_of_false (Option.some_ne_none name).symm (h name)

theorem namedOutput?_eq_some_iff {name : String} : o.namedOutput? = some name ↔
    o.outputFilenames = [name] ∧ name ≠ "" ∧ name ≠ "-" := by
  rw [namedOutput?, Option.filter_eq_some_iff, singleOutput?_eq_some_iff, Bool.and_eq_true,
    Bool.not_eq_true', String.isEmpty_eq_false_iff, bne_iff_ne]
  rfl

/-- No output is named unless there is a single one that names a file. -/
theorem namedOutput?_eq_none (h : ∀ name, o.outputFilenames = [name] → name = "" ∨ name = "-") :
    o.namedOutput? = none := by
  rw [Option.eq_none_iff_forall_ne_some]
  intro name hname
  obtain ⟨hsingle, hempty, hstdout⟩ := namedOutput?_eq_some_iff.mp hname
  exact (h name hsingle).elim hempty hstdout

theorem artifactName_of_named {name : String} (h : o.namedOutput? = some name) :
    o.artifactName = name := by
  rw [artifactName, h]

theorem artifactName_of_primary (hnamed : o.namedOutput? = none) {i : InputFile}
    (hi : o.inputs.primaries = [i]) : o.artifactName = i.file.artifactText := by
  rw [artifactName, hnamed, Inputs.uniquePrimary?_eq_some_iff.mpr hi]
  rfl

theorem artifactName_of_neither (hnamed : o.namedOutput? = none)
    (hi : ∀ i, o.inputs.primaries ≠ [i]) : o.artifactName = o.moduleName := by
  have hprimary : o.inputs.uniquePrimary? = none := by
    rw [Option.eq_none_iff_forall_ne_some]
    exact fun i h => hi i (Inputs.uniquePrimary?_eq_some_iff.mp h)
  rw [artifactName, hnamed, hprimary]

/-- Other artifacts are named after the single output if that names a file, else after the last part
of the path of the only primary input, and else after the module. The last part is what the split
at slashes leaves at the end, the empty parts and the dots there set aside. A path that ends with
two dots or has no such part is taken as a whole. -/
theorem artifactName_falls_back (o : Options) :
    -- The single output that names a file.
    (∀ name, o.outputFilenames = [name] → name ≠ "" → name ≠ "-" → o.artifactName = name) ∧
    ((∀ name, o.outputFilenames = [name] → name = "" ∨ name = "-") →
      -- The only primary input.
      (∀ i, o.inputs.filter (·.primary) = [i] →
        (∀ part, i.file.leadingParts.getLast? = some part → part ≠ [dot, dot] →
          o.artifactName = (Path.mk part).lossyText ∧ o.artifactName ≠ "" ∧
            '/' ∉ o.artifactName.toList) ∧
        (i.file.leadingParts = [] ∨ i.file.leadingParts.getLast? = some [dot, dot] →
          o.artifactName = i.file.lossyText) ∧
        -- A name in its path that nothing but slashes and dots follows.
        ∀ (d n : List UInt8) (pieces : List (List UInt8)),
          i.file.bytes = d ++ slash :: (n ++ pieces.flatten) → slash ∉ n → n ≠ [] → n ≠ [dot] →
          n ≠ [dot, dot] → (∀ s ∈ pieces, s = [slash] ∨ s = [slash, dot]) →
          o.artifactName = (Path.mk n).lossyText) ∧
      -- The module.
      ((∀ i, o.inputs.filter (·.primary) ≠ [i]) → o.artifactName = o.moduleName)) := by
  refine ⟨fun name hsingle hempty hstdout =>
    artifactName_of_named (namedOutput?_eq_some_iff.mpr ⟨hsingle, hempty, hstdout⟩),
    fun hnames => ⟨fun i hi => ?_, artifactName_of_neither (namedOutput?_eq_none hnames)⟩⟩
  have hname : o.artifactName = i.file.artifactText :=
    artifactName_of_primary (namedOutput?_eq_none hnames) hi
  rw [hname]
  refine ⟨fun part hpart hup => ?_, Path.artifactText_of_noName, ?_⟩
  · obtain ⟨hne, -, hslash⟩ := Path.of_getLast?_leadingParts hpart
    rw [Path.artifactText_of_name hpart hup]
    exact ⟨rfl, Path.lossyText_of_part hne hslash⟩
  · intro d n pieces hbytes hslash hne hdot hup hpieces
    have hparts : i.file.leadingParts = d.splitOn slash ++ [n] := by
      rw [← Path.leadingParts_of_name d hslash hne hdot hpieces, ← hbytes]
    exact Path.artifactText_of_name (by rw [hparts, List.getLast?_concat]) hup

/-- Options whose output is the standard output and whose only primary input has an ill-formed
path that ends with slashes and a dot. -/
def illFormedSample : Options :=
  { outputFilenames := ["-"], moduleName := "M",
    inputs := [⟨.ofText "b", false⟩,
      ⟨⟨[0x64, slash] ++ ([0x61, 0xFF] ++ [slash, slash, dot, slash])⟩, true⟩] }

/-- The name of the sample is the part before the slashes, with its stray byte replaced. -/
theorem artifactName_falls_back_sample :
    illFormedSample.artifactName = "a\uFFFD" ∧
    Options.artifactName { illFormedSample with outputFilenames := ["o"] } = "o" ∧
    Options.artifactName { illFormedSample with inputs := [] } = "M" := by
  have hstdout : ∀ name, ["-"] = [name] → name = "" ∨ name = "-" :=
    fun name h => Or.inr (List.singleton_inj.mp h).symm
  have hprimary := ((artifactName_falls_back illFormedSample).2 hstdout).1 _ rfl
  have hname : illFormedSample.artifactName = (Path.mk [0x61, 0xFF]).lossyText :=
    hprimary.2.2 [0x64] [0x61, 0xFF] [[slash], [slash, dot], [slash]] rfl (by decide) (by decide)
      (by decide) (by decide) (by decide)
  have hnamed := (artifactName_falls_back { illFormedSample with outputFilenames := ["o"] }).1 "o"
    rfl (by decide) (by decide)
  have hmodule := ((artifactName_falls_back { illFormedSample with inputs := [] }).2 hstdout).2
    fun i => List.cons_ne_nil i [] |>.symm
  exact ⟨hname.trans (by decide +kernel), hnamed, hmodule⟩

end Options

end FrontendPolicy
