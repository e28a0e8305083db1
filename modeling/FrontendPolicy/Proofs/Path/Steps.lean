import FrontendPolicy.Proofs.Path

/-!
# Paths that take the same steps

Two paths are the same if they start in the same place and take the same steps from there
(`Path.sameAs_iff`). Slashes that are repeated, dots between them and slashes at the end do not
count, and paths that are the same end with the same name or both with none.
-/

namespace FrontendPolicy.Path

/-! ## Where a path starts and what follows -/

/-- Where a path starts: at the root, at an explicit dot, or wherever it is used. -/
def front (p : Path) : List Component :=
  if p.isAbsolute then [.root]
  else if (p.bytes.splitOn slash).head? = some [dot] then [.here]
  else []

/-- Whether a part of a path counts as a step wherever it stands. -/
def counts (part : List UInt8) : Bool := !(part = [] || part = [dot])

/-- The parts of a path between its slashes that count. -/
def names (p : Path) : List (List UInt8) := (p.bytes.splitOn slash).filter counts

/-- The step of a part that counts. -/
def ofName (part : List UInt8) : Component := if part = [dot, dot] then .up else .name part

theorem ofName_injective : Function.Injective ofName := by
  intro part part' h
  unfold ofName at h
  split at h <;> split at h
  · rename_i hup hup'
    rw [hup, hup']
  · simp at h
  · simp at h
  · exact Component.name.inj h

theorem step?_eq (part : List UInt8) :
    step? part = if counts part then some (ofName part) else none := by
  unfold step? counts ofName
  cases part = [] || part = [dot] <;> simp [apply_ite some]

/-- The steps of a path are where it starts and its names. -/
theorem components_eq (p : Path) : p.components = p.front ++ p.names.map ofName := by
  have hsteps : ∀ parts : List (List UInt8),
      parts.filterMap step? = (parts.filter counts).map ofName := by
    intro parts
    rw [← List.filterMap_eq_map, List.filterMap_filter]
    exact congrArg (List.filterMap · parts) (funext step?_eq)
  rw [components, segments_eq_splitOn, hsteps]
  rfl

/-- Whether a step can only come first. -/
def startsOnly : Component → Bool
  | .root | .here => true
  | .up | .name _ => false

/-- Where a path starts can be told from its steps. -/
theorem front_eq_filter (p : Path) : p.front = p.components.filter startsOnly := by
  have hfront : p.front.filter startsOnly = p.front := by
    unfold front
    split
    · rfl
    · split <;> rfl
  have hnames : (p.names.map ofName).filter startsOnly = [] := by
    rw [List.filter_eq_nil_iff, List.forall_mem_map]
    intro part _
    unfold ofName
    split <;> exact Bool.false_ne_true
  rw [components_eq, List.filter_append, hfront, hnames, List.append_nil]

/-- Two paths take the same steps if they start alike and have the same names. -/
theorem sameAs_iff {p q : Path} : p.sameAs q = true ↔ p.front = q.front ∧ p.names = q.names := by
  rw [sameAs, decide_eq_true_eq]
  constructor
  · intro h
    have hfront : p.front = q.front := by
      rw [front_eq_filter, front_eq_filter, h]
    rw [components_eq, components_eq, hfront] at h
    exact ⟨hfront, List.map_injective_iff.mpr ofName_injective (List.append_cancel_left h)⟩
  · rintro ⟨hfront, hnames⟩
    rw [components_eq, components_eq, hfront, hnames]

/-! ## Spellings that do not count -/

theorem names_append (a b : List UInt8) :
    names ⟨a ++ slash :: b⟩ = names ⟨a⟩ ++ names ⟨b⟩ := by
  rw [names, List.splitOn_append_cons_self, List.filter_append]
  rfl

/-- A slash decides where a path starts if nothing stands before it, and does not bear on it
otherwise. -/
theorem front_append (a b : List UInt8) :
    front ⟨a ++ slash :: b⟩ = if a = [] then [.root] else front ⟨a⟩ := by
  cases a with
  | nil => rfl
  | cons c a =>
    have hhead : ((c :: a ++ slash :: b).splitOn slash).head? = ((c :: a).splitOn slash).head? := by
      rw [List.splitOn_append_cons_self, List.head?_append_of_ne_nil _ (List.splitOn_ne_nil _ _)]
    rw [if_neg (List.cons_ne_nil c a), front, hhead]
    rfl

variable {pieces : List (List UInt8)}

theorem names_append_flatten (h : ∀ s ∈ pieces, s = [slash] ∨ s = [slash, dot]) :
    ∀ a : List UInt8, names ⟨a ++ pieces.flatten⟩ = names ⟨a⟩ := by
  induction pieces with
  | nil =>
    intro a
    rw [List.flatten_nil, List.append_nil]
  | cons piece pieces ih =>
    intro a
    have hpiece : names ⟨a ++ piece⟩ = names ⟨a⟩ := by
      rcases h piece List.mem_cons_self with rfl | rfl
      · exact (names_append a []).trans (List.append_nil _)
      · exact (names_append a [dot]).trans (List.append_nil _)
    rw [List.flatten_cons, ← List.append_assoc, ih fun s hs => h s (List.mem_cons_of_mem piece hs),
      hpiece]

theorem front_append_flatten (h : ∀ s ∈ pieces, s = [slash] ∨ s = [slash, dot]) {a : List UInt8}
    (ha : a ≠ []) : front ⟨a ++ pieces.flatten⟩ = front ⟨a⟩ := by
  cases pieces with
  | nil => rw [List.flatten_nil, List.append_nil]
  | cons piece pieces =>
    rw [List.flatten_cons]
    rcases h piece List.mem_cons_self with rfl | rfl
    · exact (front_append a _).trans (if_neg ha)
    · exact (front_append a _).trans (if_neg ha)

/-- Slashes and dots before a slash do not count. -/
theorem sameAs_inside (h : ∀ s ∈ pieces, s = [slash] ∨ s = [slash, dot]) (a b : List UInt8) :
    sameAs ⟨a ++ pieces.flatten ++ slash :: b⟩ ⟨a ++ slash :: b⟩ = true := by
  have hfront : front ⟨a ++ pieces.flatten ++ slash :: b⟩ = front ⟨a ++ slash :: b⟩ := by
    by_cases ha : a = []
    · -- Whichever slash comes first, the path starts at the root.
      rw [ha, List.nil_append, List.nil_append]
      cases pieces with
      | nil => rfl
      | cons piece pieces => rcases h piece List.mem_cons_self with rfl | rfl <;> rfl
    · have hne : a ++ pieces.flatten ≠ [] := fun he => ha (List.append_eq_nil_iff.mp he).1
      rw [front_append, front_append, if_neg ha, if_neg hne, front_append_flatten h ha]
  refine sameAs_iff.mpr ⟨hfront, ?_⟩
  rw [names_append, names_append, names_append_flatten h]

/-- Slashes and dots at the end of a path do not count. -/
theorem sameAs_end (h : ∀ s ∈ pieces, s = [slash] ∨ s = [slash, dot]) {a : List UInt8}
    (ha : a ≠ []) : sameAs ⟨a ++ pieces.flatten⟩ ⟨a⟩ = true :=
  sameAs_iff.mpr ⟨front_append_flatten h ha, names_append_flatten h a⟩

/-! ## File names -/

/-- Paths that take the same steps have the same file name. -/
theorem fileName?_congr {p q : Path} (h : p.sameAs q = true) : p.fileName? = q.fileName? := by
  rw [fileName?, fileName?, of_decide_eq_true h]

/-- A path has no file name if all its parts are empty or dots, or if the last other part is two
dots. -/
theorem fileName?_eq_none_iff {p : Path} : p.fileName? = none ↔
    (∀ part ∈ p.bytes.splitOn slash, part = [] ∨ part = [dot]) ∨
      p.leadingParts.getLast? = some [dot, dot] := by
  have hempty : p.leadingParts = [] ↔ ∀ part ∈ p.bytes.splitOn slash, part = [] ∨ part = [dot] := by
    simp only [leadingParts, List.rdropWhile_eq_nil_iff, decide_eq_true_eq]
  rw [fileName?_eq, ← hempty, ← List.getLast?_eq_none_iff]
  cases p.leadingParts.getLast? with
  | none => simp
  | some part => by_cases hup : part = [dot, dot] <;> simp [hup]

end FrontendPolicy.Path
