import FrontendPolicy.Proofs.Options.Saving

/-!
# Files in a session

A saved configuration is loaded again for as long as its file is left alone. A run spares a file if
no step of it saves to the file, writes it or removes it (`Session.Spares`). The file and the
directories on its way then stay from step to step, which is the invariant of
`Session.performAll_guards`.
-/

namespace FrontendPolicy

/-- Whether a step writes, saves over or removes the file at a location. -/
def Step.Touches (store : Store) (l : Location) : Step → Prop
  | .save path | .write path _ | .remove path => ∃ n, store.locate path = .ok (l, n)
  | _ => False

namespace Session

/-- No step of a run touches the file at a location. -/
def Spares (l : Location) : Session → List Step → Prop
  | _, [] => True
  | s, step :: rest => ¬step.Touches s.store l ∧ Spares l (s.perform step).2 rest

/-! ## Steps and the store -/

theorem replace_store (s : Session) (r : Except Error Options) :
    (s.replace r).2.store = s.store := by
  cases r <;> rfl

/-- A save that succeeds writes the text of the options and changes nothing else. -/
theorem save_cases {s : Session} {p : Path} {text : String}
    (h : (s.perform (.save p)).1 = .text text) : s.options.fileText = .ok text ∧
      ∃ store, s.store.write p (Text.encode text.toList) = .ok store ∧
        (s.perform (.save p)).2 = { s with store := store } := by
  rcases s.options.save_cases s.store p with ⟨-, hs⟩ | ⟨d, hd, ⟨fault, hs⟩ | ⟨store, hw, hs⟩⟩
  · simp [perform, hs] at h
  · simp [perform, hs] at h
  · simp only [perform, hs] at h ⊢
    obtain rfl := Answer.text.inj h
    exact ⟨Options.fileText_eq_ok_iff.mpr ⟨d, hd, rfl⟩, store, hw, rfl⟩

/-- A step leaves the store as it is, writes a file, makes directories or removes something. -/
theorem perform_store (s : Session) (step : Step) :
    (s.perform step).2.store = s.store ∨
      (∃ p data, (step = .save p ∨ step = .write p data) ∧
        s.store.write p data = .ok (s.perform step).2.store) ∨
      (∃ p, s.store.makeDirectory p = .ok (s.perform step).2.store) ∨
      ∃ p, step = .remove p ∧ s.store.remove p = .ok (s.perform step).2.store := by
  cases step with
  | save p =>
    rcases s.options.save_cases s.store p with ⟨-, hs⟩ | ⟨d, -, ⟨fault, hs⟩ | ⟨store, hw, hs⟩⟩
    · exact .inl (by simp only [perform, hs])
    · exact .inl (by simp only [perform, hs])
    · refine .inr (.inl ⟨p, _, .inl rfl, hw.trans ?_⟩)
      simp only [perform, hs]
  | write p data =>
    simp only [perform]
    cases hw : s.store.write p data with
    | error => exact .inl rfl
    | ok store => exact .inr (.inl ⟨p, data, .inr rfl, hw⟩)
  | makeDirectory p =>
    simp only [perform]
    cases hm : s.store.makeDirectory p with
    | error => exact .inl rfl
    | ok store => exact .inr (.inr (.inl ⟨p, hm⟩))
  | remove p =>
    simp only [perform]
    cases hr : s.store.remove p with
    | error => exact .inl rfl
    | ok store => exact .inr (.inr (.inr ⟨p, rfl, hr⟩))
  | new | reset | change | setAction | clear | parse | load =>
    rw [perform]
    exact .inl (s.replace_store _)
  | hasUnused | remember | equalsRemembered => exact .inl rfl

/-! ## Runs -/

variable {l : Location} {data : List UInt8} {way : List Location}

/-- A step that does not touch a file leaves it alone, and with it the directories above it. -/
theorem perform_guards {s : Session} {step : Step} (h : s.store.Guards l data way)
    (ht : ¬step.Touches s.store l) : (s.perform step).2.store.Guards l data way := by
  -- Only a write and a removal could do harm, and both do it where their path leads.
  rcases s.perform_store step with hs | ⟨p, data', hp, hs⟩ | ⟨p, hs⟩ | ⟨p, rfl, hs⟩
  · rw [hs]
    exact h
  · refine h.write (fun n hn => ht ?_) hs
    rcases hp with rfl | rfl <;> exact ⟨n, hn⟩
  · exact h.grows (Store.grows_makeDirectory hs)
  · exact h.remove (fun n hn => ht ⟨n, hn⟩) hs

/-- A run that spares a file leaves it alone, and with it the directories above it. -/
theorem performAll_guards {steps : List Step} : ∀ {s : Session}, s.store.Guards l data way →
    Spares l s steps → (s.performAll steps).store.Guards l data way := by
  induction steps with
  | nil =>
    intro s h _
    exact h
  | cons step rest ih =>
    intro s h hs
    exact ih (perform_guards h hs.1) hs.2

/-- No step changes the working directory. -/
theorem perform_workingDirectory (s : Session) (step : Step) :
    (s.perform step).2.store.workingDirectory = s.store.workingDirectory := by
  rcases s.perform_store step with hs | ⟨p, data, -, hs⟩ | ⟨p, hs⟩ | ⟨p, -, hs⟩
  · rw [hs]
  · obtain ⟨here, last, -, -, hput⟩ := Store.write_cases hs
    rw [hput]
    rfl
  · exact (Store.grows_makeDirectory hs).1
  · obtain ⟨l, n, -, -, -, herase⟩ := Store.remove_cases hs
    rw [herase]
    rfl

theorem performAll_workingDirectory {steps : List Step} : ∀ {s : Session},
    (s.performAll steps).store.workingDirectory = s.store.workingDirectory := by
  induction steps with
  | nil =>
    intro s
    rfl
  | cons step rest ih =>
    intro s
    exact ih.trans (s.perform_workingDirectory step)

/-! ## Saving and loading -/

/-- A session loads what the file that a path leads to denotes. -/
theorem perform_load {s : Session} {p : Path} {text : String} {o : Options}
    (hp : s.store.locate p = .ok (l, .file (Text.encode text.toList)))
    (ho : Options.ofJson text = .ok o) :
    s.perform (.load p) = (.done, { s with options := o }) := by
  have hload : Options.load s.store.files p = .ok o := by
    simp only [Options.load, Store.files, Store.read, hp, Options.ofBytes, Text.decode?_encode,
      String.ofList_toList, ho]
  show s.replace (Options.load s.store.files p) = _
  rw [hload]
  rfl

/-- Right after a save the path leads to the file with the text of the options. -/
theorem aimsAt_of_save {s : Session} {p : Path} {text : String}
    (h : (s.perform (.save p)).1 = .text text) : ∃ here last,
      s.store.AimsAt p here last ∧ (s.perform (.save p)).2.store.AimsAt p here last ∧
      (s.perform (.save p)).2.store.node? (here ++ [last]) =
        some (.file (Text.encode text.toList)) ∧
      ∀ d ∈ s.store.way p, (s.perform (.save p)).2.store.node? d = some .directory := by
  obtain ⟨-, store, hw, hs⟩ := save_cases h
  obtain ⟨here, last, haim, haim', hfile, hway, -⟩ := Store.aimsAt_of_write hw
  rw [hs]
  exact ⟨here, last, haim, haim', hfile, hway⟩

/-- A path that aimed at a file still loads it, as long as the directories that it comes by are
there. -/
theorem perform_load_of_way {s s' : Session} {p : Path} {text : String} {here : Location}
    {last : FileName} {o : Options} (haim : s.store.AimsAt p here last)
    (hwd : s'.store.workingDirectory = s.store.workingDirectory)
    (hway : ∀ d ∈ s.store.way p, s'.store.node? d = some .directory)
    (hfile : s'.store.node? (here ++ [last]) = some (.file (Text.encode text.toList)))
    (ho : Options.ofJson text = .ok o) :
    s'.perform (.load p) = (.done, { s' with options := o }) :=
  perform_load ((haim.of_way hwd hway).locate hfile) ho

/-- Options whose input paths are texts are read back as they were written, in both written forms.
After a save and any run that spares the file, the options are loaded by every path that leads to
the file. The path of the save still does if the directories that it comes by are there, and they
are in any case if it has no steps upwards. All options that are read at all can be written and are
read back. -/
theorem options_read_back :
    (∀ o : Options, (∀ i ∈ o.inputs, i.file.text?.isSome) → o.RoundTrips) ∧
    (∀ (s : Session) (p : Path) (text : String), (s.perform (.save p)).1 = .text text →
      ∃ l, (s.perform (.save p)).2.store.locate p = .ok (l, .file (Text.encode text.toList)) ∧
        ∀ (later : List Step) (s' : Session), Spares l (s.perform (.save p)).2 later →
          (s.perform (.save p)).2.performAll later = s' →
          (∀ q n, s'.store.locate q = .ok (l, n) →
            s'.perform (.load q) = (.done, { s' with options := s.options })) ∧
          ((∀ d ∈ s.store.way p, s'.store.node? d = some .directory) →
            s'.perform (.load p) = (.done, { s' with options := s.options })) ∧
          ([dot, dot] ∉ p.parts →
            s'.perform (.load p) = (.done, { s' with options := s.options }))) ∧
    (∀ (text : String) (o : Options), Options.ofJson text = .ok o → o.RoundTrips) := by
  refine ⟨fun o h => Options.roundTrips_of_paths h, ?_,
    fun text o h => Options.roundTrips_of_paths (Options.paths_of_ofJson h)⟩
  intro s p text hsave
  have hread := Options.ofJson_of_fileText (save_cases hsave).1
  obtain ⟨here, last, haim, haim', hfile, hway⟩ := aimsAt_of_save hsave
  refine ⟨here ++ [last], haim'.locate hfile, fun later s' hspares hs' => ?_⟩
  have hwd : s'.store.workingDirectory = s.store.workingDirectory := by
    rw [← hs', performAll_workingDirectory, perform_workingDirectory]
  -- The file is kept in any case. Of the directories nothing is known here.
  have hkept : s'.store.Guards (here ++ [last]) (Text.encode text.toList) [] := by
    rw [← hs']
    exact performAll_guards ⟨hfile, by simp, by simp⟩ hspares
  refine ⟨fun q n hq => ?_, fun hd => perform_load_of_way haim hwd hd hkept.file hread,
    fun hup => ?_⟩
  · have hn := hkept.file
    rw [Store.node?_of_locate hq, Option.some.injEq] at hn
    rw [hn] at hq
    exact perform_load hq hread
  · -- All directories that the path comes by are above the file, so they were kept with it.
    have hkept' : s'.store.Guards (here ++ [last]) (Text.encode text.toList) (s.store.way p) := by
      rw [← hs']
      exact performAll_guards ⟨hfile, hway, haim.above_of_mem_way hup⟩ hspares
    exact perform_load_of_way haim hwd hkept'.directory hkept.file hread

/-- The text that a session saves, empty if there is none. -/
def savedText (s : Session) : String := s.options.fileText.toOption.getD ""

/-- A session whose options have an empty side output and an output with characters to escape. -/
def escapedSample : Session :=
  (start (.empty [])).performAll [.change (.side .module ""), .change (.output "\n\"é\\")]

/-- The sample is saved, started over and loaded again. -/
theorem options_read_back_after_reset :
    (((escapedSample.perform (.save (.ofText "a"))).2.performAll
      [.reset, .makeDirectory (.ofText "d")]).perform (.load (.ofText "a"))).2.options =
        escapedSample.options := by
  have hsave : (escapedSample.perform (.save (.ofText "a"))).1 = .text escapedSample.savedText := by
    decide +kernel
  obtain ⟨l, -, hload⟩ := options_read_back.2.1 _ _ _ hsave
  have hloaded := (hload [.reset, .makeDirectory (.ofText "d")] _
    (by simp [Spares, Step.Touches]) rfl).2.2 (by decide)
  rw [hloaded]

/-- A session with an empty directory. -/
def directorySample : Session :=
  (start (.empty [])).performAll [.makeDirectory (.ofText "b")]

/-- The path of a save need not lead to the file any more: it may come by a directory that it
leaves upwards and that was removed since. -/
theorem load_around_removed_directory :
    ¬∀ (s : Session) (p : Path) (text : String) (l : Location) (n : Node) (later : List Step),
      (s.perform (.save p)).1 = .text text →
      (s.perform (.save p)).2.store.locate p = .ok (l, n) →
      Spares l (s.perform (.save p)).2 later →
      (((s.perform (.save p)).2.performAll later).perform (.load p)).1 = .done := by
  have hsave : (directorySample.perform (.save (.ofText "b/../a.json"))).1 =
      .text directorySample.savedText := by
    decide +kernel
  have hlocate : (directorySample.perform (.save (.ofText "b/../a.json"))).2.store.locate
      (.ofText "b/../a.json") = .ok ([Text.encode "a.json".toList],
        .file (Text.encode directorySample.savedText.toList)) := by
    decide +kernel
  have hother : (directorySample.perform (.save (.ofText "b/../a.json"))).2.store.locate
      (.ofText "b") = .ok ([Text.encode "b".toList], .directory) := by
    decide +kernel
  intro h
  -- The path `b` leads to the directory, so removing it spares the file.
  have hload := h _ _ _ _ _ [.remove (.ofText "b")] hsave hlocate ⟨?_, trivial⟩
  · revert hload
    decide +kernel
  · rintro ⟨n, hn⟩
    rw [hother] at hn
    have hsame : [Text.encode "b".toList] = [Text.encode "a.json".toList] :=
      congrArg Prod.fst (Except.ok.inj hn)
    exact absurd hsame (by decide)

end Session

end FrontendPolicy
