import Mathlib.Data.List.Basic
import FrontendPolicy.Proofs.Action.Spelling
import FrontendPolicy.Proofs.Command.Check
import FrontendPolicy.Proofs.Options.Unused

/-!
# What a listing tells

A report that is printed as a listing can be read off the listing again, as long as no text in it
breaks a line.

The lines of a text are determined by it (`eq_of_join_lines_eq`). Empty lines set the blocks of a
listing apart, since no line inside of a block is empty, and each line gives back what it was made
of, whatever its texts look like.
-/

namespace FrontendPolicy

open Text

/-! ## Separators and lines -/

/-- Lists that are equal are equal before and after the first separator. -/
theorem eq_of_append_cons_eq {α : Type} [BEq α] [LawfulBEq α] {a : α} {xs ys us vs : List α}
    (hx : a ∉ xs) (hy : a ∉ ys) (h : xs ++ a :: us = ys ++ a :: vs) : xs = ys ∧ us = vs := by
  have hsplit : (xs ++ a :: us).splitOn a = (ys ++ a :: vs).splitOn a := by
    rw [h]
  rw [List.splitOn_append_cons_self_of_not_mem hx,
    List.splitOn_append_cons_self_of_not_mem hy] at hsplit
  obtain rfl : xs = ys := (List.cons.inj hsplit).1
  exact ⟨rfl, (List.cons.inj (List.append_cancel_left h)).2⟩

/-- A text without a line feed. -/
def IsLine (s : String) : Prop := '\n' ∉ s.toList

instance (s : String) : Decidable (IsLine s) := inferInstanceAs (Decidable ('\n' ∉ s.toList))

theorem IsLine.append {s t : String} (hs : IsLine s) (ht : IsLine t) : IsLine (s ++ t) := by
  rw [IsLine, String.toList_append, List.mem_append, not_or]
  exact ⟨hs, ht⟩

/-- Lines can be read off the text that they make. -/
theorem eq_of_join_lines_eq {xs ys : List String} (hx : ∀ s ∈ xs, IsLine s)
    (hy : ∀ s ∈ ys, IsLine s)
    (h : String.join (xs.map (· ++ "\n")) = String.join (ys.map (· ++ "\n"))) : xs = ys := by
  rw [← String.toList_inj, String.toList_join, String.toList_join, List.flatMap_map,
    List.flatMap_map] at h
  simp only [String.toList_append] at h
  induction xs generalizing ys with
  | nil =>
    cases ys with
    | nil => rfl
    | cons y ys => simp at h
  | cons x xs ih =>
    cases ys with
    | nil => simp at h
    | cons y ys =>
      rw [List.flatMap_cons, List.flatMap_cons, List.append_assoc, List.append_assoc] at h
      obtain ⟨hline, hrest⟩ :=
        eq_of_append_cons_eq (hx x List.mem_cons_self) (hy y List.mem_cons_self) h
      rw [String.toList_inj.mp hline, ih (fun s hs => hx s (List.mem_cons_of_mem x hs))
        (fun s hs => hy s (List.mem_cons_of_mem y hs)) hrest]

/-! ## Rows with two columns -/

namespace Text

theorem length_padRight {width : Nat} {s : String} (h : s.length ≤ width) :
    (padRight width s).length = width := by
  rw [padRight, String.length_append, String.length_ofList, List.length_replicate]
  omega

theorem isLine_padRight {width : Nat} {s : String} (h : IsLine s) : IsLine (padRight width s) := by
  refine h.append fun hblank => ?_
  rw [String.toList_ofList, List.mem_replicate] at hblank
  exact absurd hblank.2 (by decide)

/-- A row of a listing: a label in a column of its own, and a text. -/
def row (width : Nat) (label text : String) : String :=
  "  " ++ padRight width label ++ " " ++ text

theorem length_row {width : Nat} {label : String} (h : label.length ≤ width) (text : String) :
    (row width label text).length = 2 + width + 1 + text.length := by
  simp only [row, String.length_append, length_padRight h]
  rfl

theorem isLine_row {width : Nat} {label text : String} (hl : IsLine label) (ht : IsLine text) :
    IsLine (row width label text) :=
  (((show IsLine "  " by decide).append (isLine_padRight hl)).append
    (show IsLine " " by decide)).append ht

/-- The columns of a row can be told apart, whatever the text is. -/
theorem row_inj {width : Nat} {label label' text text' : String} (hl : label.length ≤ width)
    (hl' : label'.length ≤ width) (h : row width label text = row width label' text') :
    padRight width label = padRight width label' ∧ text = text' := by
  simp only [row, String.append_assoc, String.append_right_inj] at h
  simp only [← String.toList_inj, @String.toList_append (padRight _ _)] at h
  have hlength : (padRight width label).toList.length = (padRight width label').toList.length := by
    rw [String.length_toList, String.length_toList, length_padRight hl, length_padRight hl']
  obtain ⟨hpadded, hrest⟩ := List.append_inj h hlength
  have hrest : " " ++ text = " " ++ text' := String.toList_inj.mp hrest
  exact ⟨String.toList_inj.mp hpadded, (String.append_right_inj " ").mp hrest⟩

end Text

/-! ## Labels -/

theorem OutputKind.length_label_le (k : OutputKind) : k.label.length ≤ 12 := by
  cases k <;> decide

theorem OutputKind.isLine_label (k : OutputKind) : IsLine k.label := by
  cases k <;> decide

/-- Kinds have different labels, also once these are filled up. -/
theorem OutputKind.eq_of_padRight_label {k k' : OutputKind}
    (h : padRight 12 k.label = padRight 12 k'.label) : k = k' := by
  cases k <;> cases k' <;> first | rfl | exact absurd h (by decide)

theorem SideOutput.length_description_le (k : SideOutput) : k.description.length ≤ 22 := by
  cases k <;> decide

theorem SideOutput.isLine_description (k : SideOutput) : IsLine k.description := by
  cases k <;> decide

/-- Kinds have different descriptions, also once these are filled up. -/
theorem SideOutput.eq_of_padRight_description {k k' : SideOutput}
    (h : padRight 22 k.description = padRight 22 k'.description) : k = k' := by
  cases k <;> cases k' <;> first | rfl | exact absurd h (by decide)

theorem Action.isLine_token (a : Action) : IsLine a.token :=
  (show ∀ a ∈ Action.all, '\n' ∉ a.token.toList by decide +kernel) a (Action.mem_all a)

namespace Report

/-! ## The lines of a listing -/

/-- The module name as it is shown. -/
def shownName (r : Report) : String :=
  if r.moduleName.isEmpty then noModuleName else r.moduleName

/-- What the line about the module name says at its end. -/
def requirement (required : Bool) : String := " (required: " ++ yesNo required ++ ")"

/-- The line about the module name. -/
def nameLine (r : Report) : String :=
  "Module name: " ++ (r.shownName ++ requirement r.moduleNameRequired)

theorem nameLine_eq (r : Report) : r.nameLine =
    "Module name: " ++ (r.shownName ++ requirement r.moduleNameRequired) := rfl

theorem requirement_eq (required : Bool) :
    requirement required = " (required: " ++ yesNo required ++ ")" := rfl

/-- The line about an output path. -/
def outputLine (entry : OutputKind × String) : String := row 12 entry.1.label entry.2

/-- The line about an unused path. -/
def unusedLine (entry : SideOutput × String) : String := row 22 entry.1.description entry.2

/-- The line that tells of a directory, if there is one. -/
def directoryLines (r : Report) : List String :=
  if r.outputIsDirectory then ["Output file is a directory"] else []

theorem outputLines_eq (r : Report) : r.outputLines =
    if r.outputPaths.isEmpty then ["  (none)"] else r.outputPaths.map outputLine := rfl

theorem unusedLines_eq (r : Report) : r.unusedLines =
    if r.unused.isEmpty then ["No unused output paths"]
    else "Unused output paths:" :: r.unused.map fun u => unusedLine (u.kind, u.path) := rfl

/-- Empty lines set the blocks of a listing apart. -/
theorem lines_eq (r : Report) : r.lines =
    ("Action: " ++ r.action.token) :: r.nameLine :: "" :: "Output paths:" ::
      (r.outputLines ++ "" :: ("Original path: " ++ r.artifactName) ::
        (r.directoryLines ++ "" :: r.unusedLines)) := by
  have hname : r.nameLine = "Module name: " ++ r.shownName ++ " (required: " ++
      yesNo r.moduleNameRequired ++ ")" := by
    simp only [nameLine_eq, requirement_eq, String.append_assoc]
  simp only [lines, hname, List.cons_append, List.nil_append, List.append_assoc]
  rfl

/-- The texts of a report that a listing shows as they are. -/
def shownTexts (r : Report) : List String :=
  r.moduleName :: r.artifactName :: (r.outputPaths.map (·.2) ++ r.unused.map (·.path))

variable {r r' : Report}

theorem isLine_nameLine (h : IsLine r.moduleName) : IsLine r.nameLine := by
  have hname : IsLine r.shownName := by
    unfold shownName
    split
    · decide
    · exact h
  have hrequirement : IsLine (requirement r.moduleNameRequired) := by
    cases r.moduleNameRequired <;> decide
  exact (show IsLine "Module name: " by decide).append (hname.append hrequirement)

/-- A listing breaks no line unless a text in it does. -/
theorem isLine_of_mem_lines (h : ∀ s ∈ r.shownTexts, IsLine s) : ∀ l ∈ r.lines, IsLine l := by
  simp only [shownTexts, List.forall_mem_cons, List.forall_mem_append, List.forall_mem_map] at h
  obtain ⟨hname, hartifact, houtputs, hunused⟩ := h
  have houtputLines : ∀ l ∈ r.outputLines, IsLine l := by
    rw [outputLines_eq]
    split
    · decide
    · exact List.forall_mem_map.mpr fun e he => isLine_row e.1.isLine_label (houtputs e he)
  have hunusedLines : ∀ l ∈ r.unusedLines, IsLine l := by
    rw [unusedLines_eq]
    split
    · decide
    · exact List.forall_mem_cons.mpr ⟨by decide,
        List.forall_mem_map.mpr fun u hu => isLine_row u.kind.isLine_description (hunused u hu)⟩
  have hdirectory : ∀ l ∈ r.directoryLines, IsLine l := by
    unfold directoryLines
    split <;> decide
  have haction : IsLine ("Action: " ++ r.action.token) :=
    (show IsLine "Action: " by decide).append r.action.isLine_token
  have horiginal : IsLine ("Original path: " ++ r.artifactName) :=
    (show IsLine "Original path: " by decide).append hartifact
  rw [lines_eq]
  simp only [List.forall_mem_cons, List.forall_mem_append]
  exact ⟨haction, isLine_nameLine hname, by decide, by decide, houtputLines, by decide, horiginal,
    hdirectory, by decide, hunusedLines⟩

/-- The end of the line about the module name can be told apart from the name. -/
theorem requirement_inj {s s' : String} {b b' : Bool}
    (h : s ++ requirement b = s' ++ requirement b') : s = s' ∧ b = b' := by
  -- Yes and no end with different letters.
  have hend : ∀ (s : String) (b : Bool),
      (s ++ requirement b).toList.reverse[1]? = some (if b then 's' else 'o') := by
    intro s b
    have hlength : 1 < (requirement b).toList.reverse.length := by cases b <;> decide
    rw [String.toList_append, List.reverse_append, List.getElem?_append_left hlength]
    cases b <;> decide
  have hb : b = b' := by
    have hletters := hend s b
    rw [h, hend s' b'] at hletters
    cases b <;> cases b' <;> first | rfl | exact absurd hletters (by decide)
  rw [hb, String.append_left_inj] at h
  exact ⟨h, hb⟩

/-- An empty name is not shown as the words for it are. -/
theorem shownName_inj (hname : r.moduleName ≠ noModuleName) (hname' : r'.moduleName ≠ noModuleName)
    (h : r.shownName = r'.shownName) : r.moduleName = r'.moduleName := by
  unfold shownName at h
  split at h
  · rename_i hempty
    split at h
    · rename_i hempty'
      rw [String.isEmpty_iff.mp hempty, String.isEmpty_iff.mp hempty']
    · exact absurd h.symm hname'
  · split at h
    · exact absurd h hname
    · exact h

theorem outputLine_injective : Function.Injective outputLine := by
  intro e e' h
  obtain ⟨hlabel, hpath⟩ := row_inj e.1.length_label_le e'.1.length_label_le h
  exact Prod.ext (OutputKind.eq_of_padRight_label hlabel) hpath

theorem length_outputLine (e : OutputKind × String) : 15 ≤ (outputLine e).length := by
  rw [outputLine, length_row e.1.length_label_le]
  omega

/-- The rows of a block can be read off it, if it holds something else where it has no rows. -/
theorem map_eq_of_block_eq {α : Type} {line : α → String} {head : List String}
    {placeholder : String} (hne : ∀ a rows, [placeholder] ≠ head ++ line a :: rows)
    {as bs : List α} (h : (if as.isEmpty then [placeholder] else head ++ as.map line) =
      if bs.isEmpty then [placeholder] else head ++ bs.map line) : as.map line = bs.map line := by
  cases as with
  | nil =>
    cases bs with
    | nil => rfl
    | cons b bs => exact absurd h (hne b _)
  | cons a as =>
    cases bs with
    | nil => exact absurd h.symm (hne a _)
    | cons b bs => exact List.append_cancel_left h

/-- Output paths can be read off their lines. -/
theorem outputLines_inj (h : r.outputLines = r'.outputLines) : r.outputPaths = r'.outputPaths := by
  have hne : ∀ e rows, ["  (none)"] ≠ [] ++ outputLine e :: rows := by
    intro e rows he
    have hlength := length_outputLine e
    rw [← (List.cons.inj he).1] at hlength
    exact absurd hlength (by decide)
  exact outputLine_injective.list_map (map_eq_of_block_eq hne h)

/-- No line about output paths is empty. -/
theorem empty_notMem_outputLines (r : Report) : "" ∉ r.outputLines := by
  rw [outputLines_eq]
  split
  · decide
  · rw [List.mem_map]
    rintro ⟨e, -, he⟩
    have hlength := length_outputLine e
    rw [he] at hlength
    exact absurd hlength (by decide)

theorem directoryLines_inj (h : r.directoryLines = r'.directoryLines) :
    r.outputIsDirectory = r'.outputIsDirectory := by
  unfold directoryLines at h
  cases hr : r.outputIsDirectory <;> cases hr' : r'.outputIsDirectory <;> simp [hr, hr'] at h ⊢

theorem empty_notMem_directoryLines (r : Report) : "" ∉ r.directoryLines := by
  unfold directoryLines
  split <;> decide

theorem unusedLine_injective : Function.Injective unusedLine := by
  intro e e' h
  obtain ⟨hlabel, hpath⟩ := row_inj e.1.length_description_le e'.1.length_description_le h
  exact Prod.ext (SideOutput.eq_of_padRight_description hlabel) hpath

/-- Unused paths can be read off their lines, if they are all due to one action. -/
theorem unusedLines_inj {a : Action} (ha : ∀ u ∈ r.unused, u.action = a)
    (ha' : ∀ u ∈ r'.unused, u.action = a) (h : r.unusedLines = r'.unusedLines) :
    r.unused = r'.unused := by
  have hne : ∀ (u : UnusedPath) rows, ["No unused output paths"] ≠
      ["Unused output paths:"] ++ unusedLine (u.kind, u.path) :: rows :=
    fun u rows he => absurd (List.cons.inj he).1 (by decide)
  have hrows : (r.unused.map fun u => (u.kind, u.path)).map unusedLine =
      (r'.unused.map fun u => (u.kind, u.path)).map unusedLine := by
    rw [List.map_map, List.map_map]
    exact map_eq_of_block_eq hne h
  -- The action is the only part of an entry that its line leaves out.
  have hback : ∀ us : List UnusedPath, (∀ u ∈ us, u.action = a) →
      (us.map fun u => (u.kind, u.path)).map (fun e => ⟨e.1, e.2, a⟩) = us := by
    intro us hus
    rw [List.map_map]
    refine (List.map_congr_left fun u hu => ?_).trans (List.map_id us)
    rw [Function.comp_apply, ← hus u hu]
    rfl
  rw [← hback r.unused ha, ← hback r'.unused ha', unusedLine_injective.list_map hrows]

/-! ## Whole listings -/

/-- A listing determines its report, if the unused paths are due to the action of the report. -/
theorem eq_of_lines_eq (hname : r.moduleName ≠ noModuleName) (hname' : r'.moduleName ≠ noModuleName)
    (ha : ∀ u ∈ r.unused, u.action = r.action) (ha' : ∀ u ∈ r'.unused, u.action = r'.action)
    (h : r.lines = r'.lines) : r = r' := by
  simp only [lines_eq, List.cons.injEq, true_and] at h
  obtain ⟨haction, hnameLine, hblocks⟩ := h
  obtain ⟨houtputs, hrest⟩ := eq_of_append_cons_eq r.empty_notMem_outputLines
    r'.empty_notMem_outputLines hblocks
  obtain ⟨hartifact, hrest⟩ := List.cons.inj hrest
  obtain ⟨hdirectory, hunused⟩ := eq_of_append_cons_eq r.empty_notMem_directoryLines
    r'.empty_notMem_directoryLines hrest
  have haction : r.action = r'.action :=
    token_injective ((String.append_right_inj "Action: ").mp haction)
  obtain ⟨hshown, hrequired⟩ :=
    requirement_inj ((String.append_right_inj "Module name: ").mp hnameLine)
  have hmoduleName : r.moduleName = r'.moduleName := shownName_inj hname hname' hshown
  have houtputs : r.outputPaths = r'.outputPaths := outputLines_inj houtputs
  have hartifact : r.artifactName = r'.artifactName :=
    (String.append_right_inj "Original path: ").mp hartifact
  have hdirectory : r.outputIsDirectory = r'.outputIsDirectory := directoryLines_inj hdirectory
  have hunused : r.unused = r'.unused :=
    unusedLines_inj (fun u hu => (ha u hu).trans haction) ha' hunused
  cases r
  cases r'
  simp only at haction hmoduleName hrequired houtputs hartifact hdirectory hunused
  rw [haction, hmoduleName, hrequired, houtputs, hartifact, hdirectory, hunused]

/-- The unused paths of a report on options are due to its action. -/
theorem action_of_mem_unused {o : Options} {files : Files} {u : UnusedPath}
    (hu : u ∈ (ofOptions o files).unused) : u.action = (ofOptions o files).action :=
  (Options.mem_unusedPaths_iff.mp hu).2

/-- What is printed of a report as a listing. -/
theorem stdout_printReport (r : Report) :
    (Work.printReport r false : Work CommandError Unit).outcome.stdout = r.text := by
  rw [(Work.does_printReport r false).outcome]
  rfl

/-- Reports on options that are printed as the same listing are the same, whatever the file systems
are, as long as no text in them has a line feed and no module is called what the listing says where
there is no module name. -/
theorem ofOptions_eq_of_printed_eq {o o' : Options} {files files' : Files}
    (htexts : ∀ s ∈ (ofOptions o files).shownTexts, '\n' ∉ s.toList)
    (htexts' : ∀ s ∈ (ofOptions o' files').shownTexts, '\n' ∉ s.toList)
    (hname : o.moduleName ≠ "<none>") (hname' : o'.moduleName ≠ "<none>")
    (h : (Work.printReport (ofOptions o files) false : Work CommandError Unit).outcome.stdout =
      (Work.printReport (ofOptions o' files') false : Work CommandError Unit).outcome.stdout) :
    ofOptions o files = ofOptions o' files' := by
  rw [stdout_printReport, stdout_printReport] at h
  have hlines : (ofOptions o files).lines = (ofOptions o' files').lines :=
    eq_of_join_lines_eq (isLine_of_mem_lines htexts) (isLine_of_mem_lines htexts') h
  exact eq_of_lines_eq hname hname' (fun _ => action_of_mem_unused)
    (fun _ => action_of_mem_unused) hlines

/-- Options whose paths look like other parts of a listing. -/
def disguisedSample : Options :=
  { requestedAction := .parse, outputFilenames := ["", "  (none)"],
    modulePath := some "No unused output paths", inputs := [⟨.ofText "d/Action: parse", true⟩] }

/-- The sample has one report with another input or without it, since it is printed as one
listing. -/
theorem ofOptions_eq_of_printed_eq_sample :
    ofOptions { disguisedSample with inputs := ⟨.ofText "b", false⟩ :: disguisedSample.inputs }
        ⟨fun _ => .error .notFound, fun _ => false⟩ =
      ofOptions disguisedSample ⟨fun _ => .error .isDirectory, fun _ => true⟩ :=
  ofOptions_eq_of_printed_eq (by decide +kernel) (by decide +kernel) (by decide) (by decide)
    (by decide +kernel)

end Report

end FrontendPolicy
