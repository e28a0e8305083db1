import FrontendPolicy.Store

/-!
# What the operations on a store change

An operation that succeeds changes what is at one location, or makes directories where nothing was.
A path leads where it led before as long as the directories that it comes by are there
(`Store.walk_of_trail`). `Store.Guards` puts this together for one file, and is kept by every
operation that does nothing to the file.
-/

namespace FrontendPolicy

namespace Store

/-! ## Nodes -/

theorem node?_of_isPrefixOf (s : Store) {l : Location}
    (h : l.isPrefixOf s.workingDirectory = true) :
    s.node? l = some .directory := by
  rw [node?, if_pos h]

theorem find?_filter_ne {entries : List (Location × Node)} {l l' : Location} (h : l' ≠ l) :
    (entries.filter fun entry => entry.1 ≠ l).find? (fun entry => entry.1 = l') =
      entries.find? fun entry => entry.1 = l' := by
  rw [List.find?_filter]
  congr 1
  funext entry
  by_cases he : entry.1 = l'
  · simp [he, h]
  · simp [he]

/-- Putting something at a location changes nothing elsewhere. -/
theorem node?_put_of_ne (s : Store) {l l' : Location} (n : Node) (h : l' ≠ l) :
    (s.put l n).node? l' = s.node? l' := by
  have hne : ¬l = l' := fun he => h he.symm
  simp only [node?, put, List.find?_cons, hne, decide_false, find?_filter_ne h]

/-- Erasing a location changes nothing elsewhere. -/
theorem node?_erase_of_ne (s : Store) {l l' : Location} (h : l' ≠ l) :
    (s.erase l).node? l' = s.node? l' := by
  simp only [node?, erase, find?_filter_ne h]

theorem node?_put_self (s : Store) {l : Location} (n : Node)
    (h : s.node? l ≠ some .directory) : (s.put l n).node? l = some n := by
  have hl : ¬l.isPrefixOf s.workingDirectory = true := fun hp => h (s.node?_of_isPrefixOf hp)
  simp only [node?, put, if_neg hl, List.find?_cons, decide_true, Option.map_some]

/-- A file is an entry of the store. -/
theorem mem_entries {s : Store} {l : Location} {data : List UInt8}
    (h : s.node? l = some (.file data)) : (l, .file data) ∈ s.entries := by
  unfold node? at h
  split at h
  · simp at h
  · obtain ⟨entry, he, hn⟩ := Option.map_eq_some_iff.mp h
    have hl := List.find?_some he
    simp only [decide_eq_true_eq] at hl
    rw [← hl, ← hn]
    exact List.mem_of_find?_eq_some he

/-! ## Paths -/

/-- Where a step of a path leads. -/
def next (here : Location) (part : FileName) : Location :=
  if part = [dot] then here
  else if part = [dot, dot] then here.dropLast
  else here ++ [part]

/-- The locations that the steps of a path come by, the first and the last one included. -/
def trail (here : Location) : List FileName → List Location
  | [] => [here]
  | part :: rest => here :: trail (next here part) rest

/-- A step goes on from a directory to where something is. -/
theorem step_eq_ok_iff {s : Store} {here l : Location} {part : FileName} :
    s.step here part = .ok l ↔ s.node? here = some .directory ∧ l = next here part ∧
      (part = [dot] ∨ part = [dot, dot] ∨
        (part.length ≤ maxNameLength ∧ (s.node? (here ++ [part])).isSome)) := by
  unfold step next
  by_cases hdir : s.node? here = some .directory
  · rw [if_neg (not_not_intro hdir)]
    by_cases hdot : part = [dot]
    · rw [if_pos hdot, if_pos hdot]
      constructor
      · intro h
        exact ⟨hdir, (Except.ok.inj h).symm, Or.inl hdot⟩
      · rintro ⟨-, rfl, -⟩
        rfl
    · by_cases hup : part = [dot, dot]
      · rw [if_neg hdot, if_neg hdot, if_pos hup, if_pos hup]
        constructor
        · intro h
          exact ⟨hdir, (Except.ok.inj h).symm, Or.inr (Or.inl hup)⟩
        · rintro ⟨-, rfl, -⟩
          rfl
      · rw [if_neg hdot, if_neg hup, if_neg hdot, if_neg hup]
        by_cases hlong : maxNameLength < part.length
        · simp [hlong, hdot, hup, Nat.not_le_of_lt hlong]
        · rw [if_neg hlong]
          cases hn : s.node? (here ++ [part]) with
          | none => simp [hdot, hup]
          | some n => simp [hdir, Nat.le_of_not_lt hlong, eq_comm]
  · rw [if_pos hdir]
    simp [hdir]

theorem walk_cons_eq_ok_iff {s : Store} {here l : Location} {part : FileName}
    {rest : List FileName} : s.walk here (part :: rest) = .ok l ↔
      ∃ mid, s.step here part = .ok mid ∧ s.walk mid rest = .ok l := by
  rw [walk]
  cases s.step here part <;> simp

theorem walk_append_eq_ok_iff {s : Store} {parts rest : List FileName} :
    ∀ {here l : Location}, s.walk here (parts ++ rest) = .ok l ↔
      ∃ mid, s.walk here parts = .ok mid ∧ s.walk mid rest = .ok l := by
  induction parts with
  | nil =>
    intro here l
    simp [walk]
  | cons part parts ih =>
    intro here l
    rw [List.cons_append, walk_cons_eq_ok_iff]
    simp only [walk_cons_eq_ok_iff, ih]
    constructor
    · rintro ⟨mid, hstep, mid', hwalk, hrest⟩
      exact ⟨mid', ⟨mid, hstep, hwalk⟩, hrest⟩
    · rintro ⟨mid', ⟨mid, hstep, hwalk⟩, hrest⟩
      exact ⟨mid, hstep, mid', hwalk, hrest⟩

theorem head_mem_trail (here : Location) (parts : List FileName) : here ∈ trail here parts := by
  cases parts <;> exact List.mem_cons_self

theorem last_mem_trail {s : Store} {parts : List FileName} : ∀ {here l : Location},
    s.walk here parts = .ok l → l ∈ trail here parts := by
  induction parts with
  | nil =>
    intro here l hw
    rw [Except.ok.inj hw]
    exact List.mem_cons_self
  | cons part rest ih =>
    intro here l hw
    obtain ⟨mid, hstep, hrest⟩ := walk_cons_eq_ok_iff.mp hw
    obtain ⟨-, rfl, -⟩ := step_eq_ok_iff.mp hstep
    exact List.mem_cons_of_mem here (ih hrest)

/-- The locations that a walk to a directory comes by are directories. -/
theorem directory_of_mem_trail {s : Store} {parts : List FileName} : ∀ {here l : Location},
    s.walk here parts = .ok l → s.node? l = some .directory →
      ∀ d ∈ trail here parts, s.node? d = some .directory := by
  induction parts with
  | nil =>
    intro here l hw hl d hd
    simp only [walk, Except.ok.injEq] at hw
    rw [List.mem_singleton.mp hd, hw, hl]
  | cons part rest ih =>
    intro here l hw hl d hd
    obtain ⟨mid, hstep, hrest⟩ := walk_cons_eq_ok_iff.mp hw
    obtain ⟨hhere, rfl, -⟩ := step_eq_ok_iff.mp hstep
    rcases List.mem_cons.mp hd with rfl | hd
    · -- The walk could not have gone on from anything else.
      exact hhere
    · exact ih hrest hl d hd

/-- A walk leads where it led before as long as the locations that it comes by are directories. -/
theorem walk_of_trail {s s' : Store} {parts : List FileName} : ∀ {here l : Location},
    s.walk here parts = .ok l → (∀ d ∈ trail here parts, s'.node? d = some .directory) →
      s'.walk here parts = .ok l := by
  induction parts with
  | nil =>
    intro here l hw _
    exact hw
  | cons part rest ih =>
    intro here l hw ht
    obtain ⟨mid, hstep, hrest⟩ := walk_cons_eq_ok_iff.mp hw
    obtain ⟨-, rfl, hpart⟩ := step_eq_ok_iff.mp hstep
    refine walk_cons_eq_ok_iff.mpr ⟨_, step_eq_ok_iff.mpr ⟨ht here List.mem_cons_self, rfl, ?_⟩,
      ih hrest fun d hd => ht d (List.mem_cons_of_mem here hd)⟩
    -- The next location is on the trail as well, so something is still there.
    have hnext := ht _ (List.mem_cons_of_mem here (head_mem_trail (next here part) rest))
    rcases hpart with hpart | hpart | ⟨hlength, -⟩
    · exact Or.inl hpart
    · exact Or.inr (Or.inl hpart)
    · by_cases hdot : part = [dot]
      · exact Or.inl hdot
      · by_cases hup : part = [dot, dot]
        · exact Or.inr (Or.inl hup)
        · rw [next, if_neg hdot, if_neg hup] at hnext
          exact Or.inr (Or.inr ⟨hlength, by rw [hnext]; rfl⟩)

/-- Without steps upwards a walk only goes deeper. -/
theorem prefix_of_mem_trail {s : Store} {parts : List FileName} (hup : [dot, dot] ∉ parts) :
    ∀ {here l : Location}, s.walk here parts = .ok l → ∀ d ∈ trail here parts, d <+: l := by
  have hnext : ∀ (here : Location) (part : FileName), part ≠ [dot, dot] →
      here <+: next here part := by
    intro here part hpart
    unfold next
    split
    · exact List.prefix_refl here
    · exact List.prefix_append here [part]
  induction parts with
  | nil =>
    intro here l hw d hd
    simp only [walk, Except.ok.injEq] at hw
    obtain rfl : d = l := (List.mem_singleton.mp hd).trans hw
    exact List.prefix_refl d
  | cons part rest ih =>
    intro here l hw d hd
    rw [List.mem_cons, not_or] at hup
    obtain ⟨mid, hstep, hrest⟩ := walk_cons_eq_ok_iff.mp hw
    obtain ⟨-, rfl, -⟩ := step_eq_ok_iff.mp hstep
    have htail := ih hup.2 hrest
    -- The first location is above the second, which is above the end by induction.
    rcases List.mem_cons.mp hd with rfl | hd
    · exact (hnext d part fun h => hup.1 h.symm).trans (htail _ (head_mem_trail _ rest))
    · exact htail d hd

/-! ## Writing -/

/-- A path aims at a file: its last part is a name, and the others lead to a directory. -/
structure AimsAt (s : Store) (p : Path) (here : Location) (last : FileName) : Prop where
  noFault : p.fault? = none
  parts_eq : p.parts = p.parts.dropLast ++ [last]
  noSlash : p.endsWithSlash = false
  leads : s.walk (s.start p) p.parts.dropLast = .ok here
  directory : s.node? here = some .directory
  isName : last ≠ [dot] ∧ last ≠ [dot, dot] ∧ last.length ≤ maxNameLength

/-- A path leads to the file that it aims at. -/
theorem AimsAt.locate {s : Store} {p : Path} {here : Location} {last : FileName}
    {data : List UInt8} (h : s.AimsAt p here last)
    (hn : s.node? (here ++ [last]) = some (.file data)) :
    s.locate p = .ok (here ++ [last], .file data) := by
  have hstep : s.step here last = .ok (here ++ [last]) := by
    rw [step_eq_ok_iff, next, if_neg h.isName.1, if_neg h.isName.2.1]
    exact ⟨h.directory, rfl, Or.inr (Or.inr ⟨h.isName.2.2, by rw [hn]; rfl⟩)⟩
  have hwalk : s.walk (s.start p) p.parts = .ok (here ++ [last]) := by
    rw [h.parts_eq, walk_append_eq_ok_iff]
    exact ⟨here, h.leads, walk_cons_eq_ok_iff.mpr ⟨_, hstep, rfl⟩⟩
  simp only [Store.locate, h.noFault, hwalk, hn, h.noSlash]
  rfl

/-- The directories that a path to a file comes by. -/
def way (s : Store) (p : Path) : List Location := trail (s.start p) p.parts.dropLast

/-- A path aims where it aimed before as long as the directories that it comes by are there. -/
theorem AimsAt.of_way {s s' : Store} {p : Path} {here : Location} {last : FileName}
    (h : s.AimsAt p here last) (hwd : s'.workingDirectory = s.workingDirectory)
    (hway : ∀ d ∈ s.way p, s'.node? d = some .directory) : s'.AimsAt p here last where
  noFault := h.noFault
  parts_eq := h.parts_eq
  noSlash := h.noSlash
  leads := by
    have hstart : s'.start p = s.start p := by
      rw [start, start, hwd]
    rw [hstart]
    exact walk_of_trail h.leads hway
  directory := hway here (last_mem_trail h.leads)
  isName := h.isName

theorem AimsAt.directory_of_mem_way {s : Store} {p : Path} {here : Location} {last : FileName}
    (h : s.AimsAt p here last) : ∀ d ∈ s.way p, s.node? d = some .directory :=
  directory_of_mem_trail h.leads h.directory

/-- A path without steps upwards comes by the directories above its file only. -/
theorem AimsAt.above_of_mem_way {s : Store} {p : Path} {here : Location} {last : FileName}
    (h : s.AimsAt p here last) (hup : [dot, dot] ∉ p.parts) :
    ∀ d ∈ s.way p, d <+: here ++ [last] ∧ d ≠ here ++ [last] := by
  intro d hd
  have hfront : [dot, dot] ∉ p.parts.dropLast := fun hm => hup (List.dropLast_subset _ hm)
  have hbelow := prefix_of_mem_trail hfront h.leads d hd
  refine ⟨hbelow.trans (List.prefix_append here [last]), ?_⟩
  rintro rfl
  have hlength := hbelow.length_le
  simp only [List.length_append, List.length_singleton] at hlength
  omega

theorem target_eq_ok {s : Store} {p : Path} {here l : Location} {last : FileName}
    (h : s.target p here last = .ok l) :
    s.node? here = some .directory ∧ p.endsWithSlash = false ∧
      (last ≠ [dot] ∧ last ≠ [dot, dot] ∧ last.length ≤ maxNameLength) ∧
      s.node? (here ++ [last]) ≠ some .directory ∧ l = here ++ [last] := by
  unfold target at h
  split at h
  · simp at h
  · rename_i hdir
    split at h
    · simp at h
    · rename_i hlast
      simp only [Bool.or_eq_true, decide_eq_true_eq, not_or, Bool.not_eq_true] at hlast
      split at h
      · simp at h
      · rename_i hlong
        split at h
        · simp at h
        · rename_i hnode
          exact ⟨Decidable.not_not.mp hdir, hlast.2, ⟨hlast.1.1, hlast.1.2, Nat.le_of_not_lt hlong⟩,
            hnode, (Except.ok.inj h).symm⟩

/-- What is written is at the location that the path aims at. -/
theorem write_cases {s s' : Store} {p : Path} {data : List UInt8} (h : s.write p data = .ok s') :
    ∃ here last, s.AimsAt p here last ∧ s.node? (here ++ [last]) ≠ some .directory ∧
      s' = s.put (here ++ [last]) (.file data) := by
  unfold write at h
  split at h
  · simp at h
  · rename_i hfault
    split at h
    · simp at h
    · rename_i last hlast
      split at h
      · simp at h
      · rename_i here hwalk
        split at h
        · simp at h
        · rename_i l htarget
          obtain ⟨hdir, hslash, hname, hnode, rfl⟩ := target_eq_ok htarget
          refine ⟨here, last, ⟨hfault, ?_, hslash, hwalk, hdir, hname⟩, hnode,
            (Except.ok.inj h).symm⟩
          obtain ⟨front, hfront⟩ := List.getLast?_eq_some_iff.mp hlast
          rw [hfront, List.dropLast_concat]

/-- After a write the path still aims at the location, by the same directories, and what was written
is there. Nothing else is changed. -/
theorem aimsAt_of_write {s s' : Store} {p : Path} {data : List UInt8}
    (h : s.write p data = .ok s') : ∃ here last,
      s.AimsAt p here last ∧ s'.AimsAt p here last ∧
      s'.node? (here ++ [last]) = some (.file data) ∧
      (∀ d ∈ s.way p, s'.node? d = some .directory) ∧
      ∀ l, l ≠ here ++ [last] → s'.node? l = s.node? l := by
  obtain ⟨here, last, haim, hnode, rfl⟩ := write_cases h
  -- What is written was no directory, so the way to it is the same after the write.
  have hway : ∀ d ∈ s.way p, (s.put (here ++ [last]) (.file data)).node? d = some .directory := by
    intro d hd
    have hd' := haim.directory_of_mem_way d hd
    rwa [node?_put_of_ne]
    rintro rfl
    exact hnode hd'
  exact ⟨here, last, haim, haim.of_way rfl hway, node?_put_self s _ hnode, hway,
    fun l hl => node?_put_of_ne s _ hl⟩

/-! ## Making directories -/

/-- Whatever is somewhere stays. -/
def Grows (s s' : Store) : Prop :=
  s'.workingDirectory = s.workingDirectory ∧ ∀ {l : Location} {n : Node}, s.node? l = some n →
    s'.node? l = some n

/-- A step finds nothing where nothing is. -/
theorem node?_of_step_notFound {s : Store} {here : Location} {part : FileName}
    (h : s.step here part = .error .notFound) : s.node? (here ++ [part]) = none := by
  unfold step at h
  split at h
  · simp at h
  · split at h
    · simp at h
    · split at h
      · simp at h
      · split at h
        · simp at h
        · split at h
          · rename_i hn
            exact Option.isNone_iff_eq_none.mp hn
          · simp at h

theorem grows_stepMaking {s s' : Store} {here l : Location} {part : FileName}
    (h : s.stepMaking here part = .ok (s', l)) : s.Grows s' := by
  unfold stepMaking at h
  split at h
  · simp only [Except.ok.injEq, Prod.mk.injEq] at h
    rw [← h.1]
    exact ⟨rfl, id⟩
  · rename_i hstep
    simp only [Except.ok.injEq, Prod.mk.injEq] at h
    rw [← h.1]
    -- The directory is made where nothing was, so every other location keeps what it has.
    have hnone := node?_of_step_notFound hstep
    refine ⟨rfl, fun {l n} hn => ?_⟩
    rw [node?_put_of_ne, hn]
    rintro rfl
    rw [hnone] at hn
    exact absurd hn (by simp)
  · simp at h

theorem grows_walkMaking {parts : List FileName} : ∀ {s s' : Store} {here l : Location},
    s.walkMaking here parts = .ok (s', l) → s.Grows s' := by
  induction parts with
  | nil =>
    intro s s' here l h
    simp only [walkMaking, Except.ok.injEq, Prod.mk.injEq] at h
    rw [← h.1]
    exact ⟨rfl, id⟩
  | cons part rest ih =>
    intro s s' here l h
    rw [walkMaking] at h
    split at h
    · simp at h
    · rename_i mid next hstep
      obtain ⟨hwd, hkeep⟩ := grows_stepMaking hstep
      obtain ⟨hwd', hkeep'⟩ := ih h
      exact ⟨hwd'.trans hwd, fun hn => hkeep' (hkeep hn)⟩

/-- Making directories removes nothing and puts nothing in place of anything. -/
theorem grows_makeDirectory {s s' : Store} {p : Path} (h : s.makeDirectory p = .ok s') :
    s.Grows s' := by
  unfold makeDirectory at h
  split at h
  · rw [← Except.ok.inj h]
    exact ⟨rfl, id⟩
  · split at h
    · simp at h
    · split at h
      · simp at h
      · rename_i hwalk
        split at h
        · rw [← Except.ok.inj h]
          exact grows_walkMaking hwalk
        · simp at h

/-! ## Removing -/

/-- What a path leads to is there. -/
theorem node?_of_locate {s : Store} {p : Path} {l : Location} {n : Node}
    (h : s.locate p = .ok (l, n)) : s.node? l = some n := by
  unfold locate at h
  split at h
  · simp at h
  · split at h
    · simp at h
    · split at h
      · simp at h
      · rename_i hn
        simp only [Except.ok.injEq, Prod.mk.injEq] at h
        rw [← h.1, ← h.2, hn]
      · rename_i hn
        split at h
        · simp at h
        · simp only [Except.ok.injEq, Prod.mk.injEq] at h
          rw [← h.1, ← h.2, hn]

/-- What is removed is where the path leads, and a directory has to be empty. -/
theorem remove_cases {s s' : Store} {p : Path} (h : s.remove p = .ok s') :
    ∃ l n, s.locate p = .ok (l, n) ∧ s.node? l = some n ∧
      (n = .directory → s.isOccupied l = false) ∧ s' = s.erase l := by
  unfold remove at h
  split at h
  · simp at h
  · rename_i l hl
    split at h
    · simp at h
    · rename_i ho
      refine ⟨l, .directory, hl, node?_of_locate hl, fun _ => ?_, (Except.ok.inj h).symm⟩
      simpa using ho
  · rename_i l data hl
    refine ⟨l, .file data, hl, node?_of_locate hl, fun hd => ?_, (Except.ok.inj h).symm⟩
    cases hd

/-! ## Files that are left alone -/

/-- A file, and directories on the way to it. -/
structure Guards (s : Store) (l : Location) (data : List UInt8) (way : List Location) : Prop where
  file : s.node? l = some (.file data)
  directory : ∀ d ∈ way, s.node? d = some .directory
  above : ∀ d ∈ way, d <+: l ∧ d ≠ l

variable {s s' : Store} {l : Location} {data : List UInt8} {way : List Location}

theorem Guards.grows (h : s.Guards l data way) (hs : s.Grows s') : s'.Guards l data way :=
  ⟨hs.2 h.file, fun d hd => hs.2 (h.directory d hd), h.above⟩

/-- Writing elsewhere leaves the file alone. -/
theorem Guards.write (h : s.Guards l data way) {p : Path} {data' : List UInt8}
    (hp : ∀ n, s.locate p ≠ .ok (l, n)) (hs : s.write p data' = .ok s') :
    s'.Guards l data way := by
  obtain ⟨here, last, haim, hnode, rfl⟩ := write_cases hs
  have hne : l ≠ here ++ [last] := by
    rintro rfl
    exact hp _ (haim.locate h.file)
  -- Nothing is written over a directory, so those on the way are safe too.
  refine ⟨by rw [node?_put_of_ne _ _ hne, h.file], fun d hd => ?_, h.above⟩
  have hd' := h.directory d hd
  rwa [node?_put_of_ne]
  rintro rfl
  exact hnode hd'

/-- Removing something else leaves the file alone. The directories on the way to it are not empty,
so they cannot be removed at all. -/
theorem Guards.remove (h : s.Guards l data way) {p : Path} (hp : ∀ n, s.locate p ≠ .ok (l, n))
    (hs : s.remove p = .ok s') : s'.Guards l data way := by
  obtain ⟨l', n, hl', hn, hempty, rfl⟩ := remove_cases hs
  have hne : l ≠ l' := by
    rintro rfl
    exact hp n hl'
  refine ⟨by rw [node?_erase_of_ne _ hne, h.file], fun d hd => ?_, h.above⟩
  have hd' := h.directory d hd
  rwa [node?_erase_of_ne]
  rintro rfl
  rw [hd', Option.some.injEq] at hn
  obtain ⟨hbelow, hdl⟩ := h.above d hd
  -- The file itself is below the directory.
  have hoccupied : s.isOccupied d = true := by
    rw [isOccupied, List.any_eq_true]
    refine ⟨_, mem_entries h.file, ?_⟩
    rw [Bool.and_eq_true, List.isPrefixOf_iff_prefix, decide_eq_true_eq]
    exact ⟨hbelow, fun he => hdl he.symm⟩
  rw [hempty hn.symm] at hoccupied
  exact absurd hoccupied (by decide)

end Store

end FrontendPolicy
