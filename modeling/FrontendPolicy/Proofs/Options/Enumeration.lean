import FrontendPolicy.Proofs.Options.Changes
import FrontendPolicy.Proofs.Options.OutputPaths

/-!
# The sequence of output paths

`Options.entries` writes the output paths down from the fields themselves, and each way to go
through the output paths goes through this sequence. Where its main entries end can be told from the
kinds alone (`Options.eq_blocks_of_split`). More outputs make the main entries longer, and leave the
others as they are.
-/

namespace FrontendPolicy

namespace Options

variable {o : Options}

/-! ## Blocks -/

/-- The block of a side output: its path, unless this is not set or empty. -/
def sideBlock (kind : OutputKind) : Option String → List (OutputKind × String)
  | none => []
  | some path => if path = "" then [] else [(kind, path)]

/-- The block of the main outputs, each as it is configured, unless the action skips them. -/
def mainBlock (o : Options) : List (OutputKind × String) :=
  if o.requestedAction = .emitModuleOnly ∨ o.requestedAction = .mergeModules then []
  else o.outputFilenames.map (.primary, ·)

/-- The blocks of the side outputs. -/
def sideBlocks (o : Options) : List (OutputKind × String) :=
  sideBlock .module o.modulePath ++ sideBlock .moduleDoc o.moduleDocPath ++
    sideBlock .objcHeader o.objcHeaderPath

/-- The sequence of output paths. -/
def entries (o : Options) : List (OutputKind × String) := o.mainBlock ++ o.sideBlocks

/-- The main outputs have the entries that the action writes. -/
theorem mainBlock_eq (o : Options) : o.mainBlock = o.primaryOutputs.map (.primary, ·) := by
  simp only [mainBlock, primaryOutputs, ← Action.writesPrimaryOutputs_eq_false_iff]
  cases o.requestedAction.writesPrimaryOutputs <;> rfl

/-- A side output has an entry if its path counts as configured. -/
theorem sideBlock_sidePath (o : Options) (kind : OutputKind) (k : SideOutput) :
    sideBlock kind (o.sidePath k) = (o.configured? k).toList.map (kind, ·) := by
  cases hconfigured : o.configured? k with
  | some path =>
    obtain ⟨hpath, hne⟩ := configured?_eq_some_iff.mp hconfigured
    rw [hpath, sideBlock, if_neg hne]
    rfl
  | none =>
    cases hpath : o.sidePath k with
    | none => rfl
    | some path =>
      have hempty : path = "" := by
        by_contra hne
        rw [configured?_eq_some_iff.mpr ⟨hpath, hne⟩] at hconfigured
        exact Option.some_ne_none path hconfigured
      rw [sideBlock, if_pos hempty]
      rfl

/-- The sequence is that of the tagged paths. -/
theorem entries_eq_taggedPaths (o : Options) : o.entries = o.taggedPaths := by
  have hmodule : sideBlock .module o.modulePath = _ := o.sideBlock_sidePath .module .module
  have hdoc : sideBlock .moduleDoc o.moduleDocPath = _ := o.sideBlock_sidePath .moduleDoc .moduleDoc
  have hheader : sideBlock .objcHeader o.objcHeaderPath = _ :=
    o.sideBlock_sidePath .objcHeader .objcHeader
  rw [entries, sideBlocks, mainBlock_eq, hmodule, hdoc, hheader, taggedPaths_eq,
    List.append_assoc, List.append_assoc, List.append_assoc]

theorem primary_of_mem_mainBlock {entry : OutputKind × String} (h : entry ∈ o.mainBlock) :
    entry.1 = .primary := by
  rw [mainBlock_eq] at h
  obtain ⟨name, -, rfl⟩ := List.mem_map.mp h
  rfl

theorem mem_sideBlock {kind : OutputKind} {entry : OutputKind × String} {path : Option String}
    (h : entry ∈ sideBlock kind path) : entry.1 = kind := by
  cases path with
  | none => exact absurd h List.not_mem_nil
  | some path =>
    rw [sideBlock] at h
    split at h
    · exact absurd h List.not_mem_nil
    · rw [List.mem_singleton.mp h]

theorem not_primary_of_mem_sideBlocks {entry : OutputKind × String} (h : entry ∈ o.sideBlocks) :
    entry.1 ≠ .primary := by
  rw [sideBlocks, List.mem_append, List.mem_append] at h
  rcases h with (h | h) | h <;> rw [mem_sideBlock h] <;> decide

/-- The main entries of a list in which they come first are all that comes first. -/
theorem filter_primary_append {front back : List (OutputKind × String)}
    (hfront : ∀ entry ∈ front, entry.1 = .primary) (hback : ∀ entry ∈ back, entry.1 ≠ .primary) :
    (front ++ back).filter (fun entry => entry.1 = .primary) = front := by
  have hall : front.filter (fun entry => entry.1 = .primary) = front :=
    List.filter_eq_self.mpr fun entry he => decide_eq_true (hfront entry he)
  have hnone : back.filter (fun entry => entry.1 = .primary) = [] :=
    List.filter_eq_nil_iff.mpr fun entry he hp => hback entry he (of_decide_eq_true hp)
  rw [List.filter_append, hall, hnone, List.append_nil]

/-- The main entries of the sequence. -/
theorem filter_primary_entries (o : Options) :
    o.entries.filter (fun entry => entry.1 = .primary) = o.mainBlock :=
  filter_primary_append (fun _ => primary_of_mem_mainBlock) fun _ => not_primary_of_mem_sideBlocks

/-- The sequence falls apart into main and other entries in one way. -/
theorem eq_blocks_of_split {before after : List (OutputKind × String)}
    (h : o.entries = before ++ after) (hbefore : ∀ entry ∈ before, entry.1 = .primary)
    (hafter : ∀ entry ∈ after, entry.1 ≠ .primary) :
    before = o.mainBlock ∧ after = o.sideBlocks := by
  have hfront : before = o.mainBlock := by
    rw [← filter_primary_append hbefore hafter, ← h, filter_primary_entries]
  refine ⟨hfront, ?_⟩
  rw [entries, ← hfront] at h
  exact (List.append_cancel_left h).symm

/-! ## More outputs -/

/-- More outputs leave the side outputs as they are. -/
theorem sideBlocks_applyAll_outputs (names : List String) : ∀ o : Options,
    (o.applyAll (names.map .output)).sideBlocks = o.sideBlocks := by
  induction names with
  | nil => exact fun o => rfl
  | cons name names ih => exact fun o => ih (o.apply (.output name))

/-- One more output is one more main entry behind those that were there. -/
theorem mainBlock_apply_output
    (h : ¬(o.requestedAction = .emitModuleOnly ∨ o.requestedAction = .mergeModules))
    (name : String) : (o.apply (.output name)).mainBlock = o.mainBlock ++ [(.primary, name)] := by
  rw [mainBlock, mainBlock, requestedAction_apply, if_neg h, if_neg h, outputFilenames_apply,
    List.map_append]
  rfl

/-- Several more outputs are as many main entries in their order. -/
theorem mainBlock_applyAll_outputs (names : List String) : ∀ {o : Options},
    ¬(o.requestedAction = .emitModuleOnly ∨ o.requestedAction = .mergeModules) →
    (o.applyAll (names.map .output)).mainBlock = o.mainBlock ++ names.map (.primary, ·) := by
  induction names with
  | nil => exact fun _ => (List.append_nil _).symm
  | cons name names ih =>
    intro o h
    have hrest : (o.applyAll ((name :: names).map .output)).mainBlock =
        (o.apply (.output name)).mainBlock ++ names.map (.primary, ·) :=
      ih ((o.requestedAction_apply (.output name)).symm ▸ h)
    rw [hrest, mainBlock_apply_output h, List.append_assoc]
    rfl

/-- An action that skips its main outputs has none, however many are added. -/
theorem mainBlock_applyAll_of_skips
    (h : o.requestedAction = .emitModuleOnly ∨ o.requestedAction = .mergeModules)
    (changes : List Change) : (o.applyAll changes).mainBlock = o.mainBlock := by
  rw [mainBlock, mainBlock, requestedAction_applyAll, if_pos h, if_pos h]

/-! ## Going through the sequence -/

/-- A side output has an entry with the path that it is set to, unless that is empty. -/
theorem mem_taggedPaths_of_side {kind : OutputKind} {k : SideOutput} (h : kind.side? = some k)
    {path : String} : (kind, path) ∈ o.taggedPaths ↔ o.sidePath k = some path ∧ path ≠ "" := by
  rw [mem_taggedPaths_iff, h, ← configured?_eq_some_iff]
  constructor
  · rintro (⟨rfl, -⟩ | ⟨k', hk', hpath⟩)
    · simp [OutputKind.side?] at h
    · rwa [Option.some.inj hk']
  · exact fun hpath => Or.inr ⟨k, rfl, hpath⟩

/-- Each way to go through the output paths goes through one sequence: first the main outputs as
they are configured, or none of them if the action emits the module only or merges modules, then the
module, its documentation and the header, each once if its path is set and not empty, and not
otherwise. One more output is one more entry right behind the main ones, or changes nothing for the
actions that skip these. -/
theorem enumeration_exact (o : Options) :
    -- All that can be done with one path after the other.
    (∀ (σ : Type) (visit : σ → OutputKind → String → σ) (start : σ), o.visitOutputs visit start =
      o.entries.foldl (fun s entry => visit s entry.1 entry.2) start) ∧
    (∀ (σ : Type) (visit : σ → String → σ) (start : σ),
      o.visitPaths visit start = (o.entries.map (·.2)).foldl visit start) ∧
    o.outputPaths = o.entries.map (·.2) ∧
    -- The entries of each kind.
    (o.entries.filter fun entry => entry.1 = .primary) =
      (if o.requestedAction = .emitModuleOnly ∨ o.requestedAction = .mergeModules then []
      else o.outputFilenames.map (.primary, ·)) ∧
    (∀ kind k, kind.side? = some k →
      (o.entries.filter fun entry => entry.1 = kind).length ≤ 1 ∧
      ∀ path, (kind, path) ∈ o.entries ↔ o.sidePath k = some path ∧ path ≠ "") ∧
    -- More outputs, where the main entries end at any split of the sequence into main and others.
    (∀ before after, o.entries = before ++ after → (∀ entry ∈ before, entry.1 = .primary) →
      (∀ entry ∈ after, entry.1 ≠ .primary) → ∀ (name : String) (names : List String),
      if o.requestedAction = .emitModuleOnly ∨ o.requestedAction = .mergeModules then
        (o.applyAll (names.map .output)).entries = o.entries
      else
        (o.apply (.output name)).entries = before ++ (.primary, name) :: after ∧
        (o.applyAll (names.map .output)).entries =
          before ++ names.map (.primary, ·) ++ after) := by
  have hentries : o.entries = o.taggedPaths := o.entries_eq_taggedPaths
  refine ⟨fun σ visit start => ?_, fun σ visit start => ?_, ?_, o.filter_primary_entries,
    fun kind k hk => ⟨?_, fun path => ?_⟩, fun before after hsplit hbefore hafter name names => ?_⟩
  · rw [hentries, visitOutputs_eq_foldl]
  · rw [hentries, visitPaths_eq_foldl]
  · rw [hentries, outputPaths_eq]
  · rw [hentries, filter_taggedPaths_of_side hk, List.length_map]
    exact Option.length_toList_le
  · rw [hentries, mem_taggedPaths_of_side hk]
  · obtain ⟨rfl, rfl⟩ := eq_blocks_of_split hsplit hbefore hafter
    have hside : (o.applyAll (names.map .output)).sideBlocks = o.sideBlocks :=
      sideBlocks_applyAll_outputs names o
    split
    · rename_i hskips
      rw [entries, entries, mainBlock_applyAll_of_skips hskips, hside]
    · rename_i hwrites
      have hone : (o.apply (.output name)).mainBlock = o.mainBlock ++ [(.primary, name)] :=
        mainBlock_apply_output hwrites name
      rw [entries, entries, hone, mainBlock_applyAll_outputs names hwrites, hside,
        List.append_assoc]
      exact ⟨rfl, rfl⟩

/-- Options with an output twice, the two special output names, and an empty side output. -/
def enumerationSample (a : Action) : Options :=
  { requestedAction := a, outputFilenames := ["a", "", "-", "a"], modulePath := some "m",
    moduleDocPath := some "", objcHeaderPath := some "h" }

/-- The sample with an output more, for an action that writes main outputs and for one that skips
them. -/
theorem enumeration_exact_sample :
    (enumerationSample .emitObject).outputPaths = ["a", "", "-", "a", "m", "h"] ∧
    ((enumerationSample .emitObject).apply (.output "b")).entries =
      [(.primary, "a"), (.primary, ""), (.primary, "-"), (.primary, "a"), (.primary, "b"),
        (.module, "m"), (.objcHeader, "h")] ∧
    (OutputKind.moduleDoc, "") ∉ (enumerationSample .emitObject).entries ∧
    (enumerationSample .mergeModules).outputPaths = ["m", "h"] ∧
    ((enumerationSample .mergeModules).applyAll [.output "b"]).entries =
      (enumerationSample .mergeModules).entries := by
  obtain ⟨-, -, hpaths, -, hside, hmore⟩ := enumeration_exact (enumerationSample .emitObject)
  obtain ⟨-, -, hskipped, -, -, hmoreSkipped⟩ := enumeration_exact (enumerationSample .mergeModules)
  have hinserted := hmore
    [(.primary, "a"), (.primary, ""), (.primary, "-"), (.primary, "a")]
    [(.module, "m"), (.objcHeader, "h")] (by decide) (by decide) (by decide) "b" []
  have hsame := hmoreSkipped [] [(.module, "m"), (.objcHeader, "h")] (by decide) (by decide)
    (by decide) "b" ["b"]
  rw [if_neg (by decide)] at hinserted
  rw [if_pos (by decide)] at hsame
  refine ⟨hpaths.trans (by decide), hinserted.1, fun hempty => ?_, hskipped.trans (by decide),
    hsame⟩
  exact (((hside .moduleDoc .moduleDoc rfl).2 "").mp hempty).2 rfl

end Options

end FrontendPolicy
