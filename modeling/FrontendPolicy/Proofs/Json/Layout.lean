import FrontendPolicy.Proofs.Json.Written

/-!
# Layout

The pretty form of a document is its compact form with spaces and line feeds put in, none of them
inside of a literal. A scan that takes them out has to know in which `Zone` it is, since a quote
after a backslash ends no literal. `Scans` says what a scan makes of a part of a text and in which
zone it leaves the scan, so that the parts of a document can be put together in the order in which
they are written.
-/

namespace FrontendPolicy.Json

/-! ## Zones -/

/-- Where the next character of a text stands. -/
inductive Zone where
  /-- Between two literals. -/
  | between
  /-- Inside of a literal. -/
  | inside
  /-- Inside of a literal, right after a backslash. -/
  | escaped
deriving DecidableEq

namespace Zone

/-- The zone after a character. A quote ends a literal unless a backslash is before it. -/
def after : Zone → Char → Zone
  | between, c => if c = '"' then inside else between
  | inside, c => if c = '"' then between else if c = '\\' then escaped else inside
  | escaped, _ => inside

/-- Whether a character is layout, a space or a line feed between two literals. -/
def isLayout (z : Zone) (c : Char) : Bool := z = between && (c = ' ' || c = '\n')

/-- Whether a character belongs to a literal. Its quotes do. -/
def isLiteral (z : Zone) (c : Char) : Bool := z ≠ between || c = '"'

end Zone

/-- The rest of a text without its layout. -/
def unspacedFrom (z : Zone) : List Char → List Char
  | [] => []
  | c :: rest =>
    if z.isLayout c then unspacedFrom (z.after c) rest else c :: unspacedFrom (z.after c) rest

/-- The literals of the rest of a text, one after the other. -/
def literalsFrom (z : Zone) : List Char → List Char
  | [] => []
  | c :: rest =>
    if z.isLiteral c then c :: literalsFrom (z.after c) rest else literalsFrom (z.after c) rest

/-- A text without the spaces and line feeds between its literals. -/
def unspaced (text : String) : String := String.ofList (unspacedFrom .between text.toList)

/-- The literals of a text with their quotes, one after the other. -/
def literals (text : String) : String := String.ofList (literalsFrom .between text.toList)

/-- Layout is in no literal and leads into none. -/
theorem Zone.eq_between_of_isLayout {z : Zone} {c : Char} (h : z.isLayout c = true) :
    z = between ∧ z.after c = between ∧ z.isLiteral c = false := by
  rw [isLayout, Bool.and_eq_true, decide_eq_true_eq, Bool.or_eq_true, decide_eq_true_eq,
    decide_eq_true_eq] at h
  obtain ⟨rfl, rfl | rfl⟩ := h
  · decide
  · decide

theorem literalsFrom_unspacedFrom (z : Zone) (cs : List Char) :
    literalsFrom z (unspacedFrom z cs) = literalsFrom z cs := by
  induction cs generalizing z with
  | nil => rfl
  | cons c cs ih =>
    rw [unspacedFrom, literalsFrom]
    by_cases hc : z.isLayout c = true
    · obtain ⟨hz, hafter, hliteral⟩ := Zone.eq_between_of_isLayout hc
      rw [if_pos hc, hliteral, if_neg Bool.false_ne_true, hafter, hz]
      exact ih .between
    · rw [if_neg hc, literalsFrom, ih]

/-- The literals of a text stay as they are when its layout is taken out. -/
theorem literals_unspaced (text : String) : literals (unspaced text) = literals text := by
  rw [literals, unspaced, String.toList_ofList, literalsFrom_unspacedFrom, literals]

/-! ## Scans -/

/-- What a scan makes of a part of a text, from the zone before it to the zone after it. -/
structure Scans (z : Zone) (laid plain : List Char) (z' : Zone) : Prop where
  ends : laid.foldl Zone.after z = z'
  unspaced : unspacedFrom z laid = plain

variable {z z' z'' : Zone} {laid laid' plain plain' : List Char}

theorem unspacedFrom_append (z : Zone) (cs ds : List Char) :
    unspacedFrom z (cs ++ ds) = unspacedFrom z cs ++ unspacedFrom (cs.foldl Zone.after z) ds := by
  induction cs generalizing z with
  | nil => rfl
  | cons c cs ih =>
    rw [List.cons_append, unspacedFrom, unspacedFrom, List.foldl_cons, ih]
    split <;> rfl

theorem Scans.append (h : Scans z laid plain z') (h' : Scans z' laid' plain' z'') :
    Scans z (laid ++ laid') (plain ++ plain') z'' where
  ends := by rw [List.foldl_append, h.ends, h'.ends]
  unspaced := by rw [unspacedFrom_append, h.unspaced, h.ends, h'.unspaced]

/-- A character that is not layout is kept. -/
theorem scans_cons {c : Char} (hc : z.isLayout c = false) (h : Scans (z.after c) laid plain z') :
    Scans z (c :: laid) (c :: plain) z' where
  ends := h.ends
  unspaced := by rw [unspacedFrom, hc, if_neg Bool.false_ne_true, h.unspaced]

/-- A character of layout is taken out. -/
theorem scans_layout {c : Char} (hc : c = ' ' ∨ c = '\n') (h : Scans .between laid plain z') :
    Scans .between (c :: laid) plain z' := by
  have hlayout : Zone.between.isLayout c = true := by
    rcases hc with rfl | rfl <;> decide
  obtain ⟨-, hafter, -⟩ := Zone.eq_between_of_isLayout hlayout
  constructor
  · rw [List.foldl_cons, hafter, h.ends]
  · rw [unspacedFrom, hlayout, if_pos rfl, hafter, h.unspaced]

theorem scans_nil (z : Zone) : Scans z [] [] z := ⟨rfl, rfl⟩

/-! ## Literals -/

/-- The code of a control has neither a quote nor a backslash in it. -/
theorem scan_control : ∀ n < 0x20,
    ['u', '0', '0', Nat.digitChar (n / 16), Nat.digitChar (n % 16)].foldl Zone.after .escaped =
        .inside ∧
      unspacedFrom .escaped ['u', '0', '0', Nat.digitChar (n / 16), Nat.digitChar (n % 16)] =
        ['u', '0', '0', Nat.digitChar (n / 16), Nat.digitChar (n % 16)] := by
  decide

/-- No escaped character leaves its literal, be it a quote or a backslash. -/
theorem scans_escape (c : Char) : Scans .inside (escape c) (escape c) .inside := by
  rcases escape_cases c with ⟨d, -, hc⟩ | ⟨hcontrol, hc⟩ | ⟨hquote, hbackslash, -, hc⟩
  · rw [hc]
    exact scans_cons rfl (scans_cons rfl (scans_nil .inside))
  · obtain ⟨hends, hkept⟩ := scan_control c.toNat hcontrol
    rw [hc]
    exact scans_cons rfl ⟨hends, hkept⟩
  · rw [hc]
    apply scans_cons rfl
    rw [Zone.after, if_neg hquote, if_neg hbackslash]
    exact scans_nil .inside

theorem scans_escaped (cs : List Char) :
    Scans .inside (cs.flatMap escape) (cs.flatMap escape) .inside := by
  induction cs with
  | nil => exact scans_nil .inside
  | cons c cs ih =>
    rw [List.flatMap_cons]
    exact (scans_escape c).append ih

/-- A literal is kept whole, whatever text it stands for. -/
theorem scans_literal (s : String) : Scans .between (literal s) (literal s) .between :=
  scans_cons (by decide) ((scans_escaped s.toList).append (scans_cons (by decide) (scans_nil _)))

/-! ## Documents -/

theorem scans_newline (depth : Nat) : Scans .between (Document.newline depth) [] .between := by
  have hspaces : ∀ n, Scans .between (List.replicate n ' ') [] .between := by
    intro n
    induction n with
    | zero => exact scans_nil _
    | succ n ih =>
      rw [List.replicate_succ]
      exact scans_layout (Or.inl rfl) ih
  exact scans_layout (Or.inr rfl) (hspaces _)

/-- The line of an element starts with layout. -/
theorem scans_line (depth : Nat) (h : Scans .between laid plain z) :
    Scans .between (Document.newline depth ++ laid) plain z :=
  (scans_newline depth).append h

/-- The line of a member starts with layout, and there is a space after its colon. -/
theorem scans_memberLine (depth : Nat) (key : String) (h : Scans .between laid plain z) :
    Scans .between (Document.newline depth ++ (literal key ++ ':' :: ' ' :: laid))
      (literal key ++ ':' :: plain) z :=
  scans_line depth ((scans_literal key).append
    (scans_cons (by decide) (scans_layout (Or.inl rfl) h)))

mutual

/-- The pretty form is scanned as the compact form. -/
theorem scans_prettyAt (depth : Nat) (d : Document) :
    Scans .between (d.prettyAt depth) d.compact .between := by
  match d with
  | .null => exact ⟨rfl, rfl⟩
  | .flag true => exact ⟨rfl, rfl⟩
  | .flag false => exact ⟨rfl, rfl⟩
  | .text s => exact scans_literal s
  | .list [] => exact ⟨rfl, rfl⟩
  | .list (d :: rest) => exact scans_cons (by decide) (scans_prettyElements depth (d :: rest))
  | .object [] => exact ⟨rfl, rfl⟩
  | .object (m :: rest) => exact scans_cons (by decide) (scans_prettyMembers depth (m :: rest))

theorem scans_prettyElements (depth : Nat) (ds : List Document) :
    Scans .between (Document.prettyElements depth ds) (Document.compactElements ds) .between := by
  have hclose : Scans .between (Document.newline depth ++ [']']) [']'] .between :=
    scans_line depth (scans_cons (by decide) (scans_nil _))
  match ds with
  | [] => exact hclose
  | [d] =>
    have h := scans_line (depth + 1) ((scans_prettyAt (depth + 1) d).append hclose)
    simpa [Document.prettyElements, Document.compactElements] using h
  | d :: e :: rest =>
    have hrest := scans_prettyElements depth (e :: rest)
    have h := scans_line (depth + 1) ((scans_prettyAt (depth + 1) d).append
      (scans_cons (by decide : Zone.between.isLayout ',' = false) hrest))
    simpa [Document.prettyElements, Document.compactElements] using h

theorem scans_prettyMembers (depth : Nat) (ms : List (String × Document)) :
    Scans .between (Document.prettyMembers depth ms) (Document.compactMembers ms) .between := by
  have hclose : Scans .between (Document.newline depth ++ ['\x7d']) ['\x7d'] .between :=
    scans_line depth (scans_cons (by decide) (scans_nil _))
  match ms with
  | [] => exact hclose
  | [(key, d)] =>
    have h := scans_memberLine (depth + 1) key ((scans_prettyAt (depth + 1) d).append hclose)
    simpa [Document.prettyMembers, Document.compactMembers] using h
  | (key, d) :: m :: rest =>
    have hrest := scans_prettyMembers depth (m :: rest)
    have h := scans_memberLine (depth + 1) key ((scans_prettyAt (depth + 1) d).append
      (scans_cons (by decide : Zone.between.isLayout ',' = false) hrest))
    simpa [Document.prettyMembers, Document.compactMembers] using h

end

/-! ## Texts -/

/-- The pretty form without its layout is the compact form. -/
theorem unspaced_prettyText (d : Document) : unspaced d.prettyText = d.compactText := by
  rw [unspaced, Document.prettyText, String.toList_ofList, Document.pretty,
    (scans_prettyAt 0 d).unspaced, Document.compactText]

/-- A line feed at the end of a pretty form is layout too. -/
theorem unspaced_prettyText_line (d : Document) :
    unspaced (d.prettyText ++ "\n") = d.compactText := by
  have h := (scans_prettyAt 0 d).append (scans_newline 0)
  rw [unspaced, String.toList_append, Document.prettyText, String.toList_ofList,
    show "\n".toList = Document.newline 0 from rfl, Document.pretty, h.unspaced,
    List.append_nil, Document.compactText]

/-- An element starts with a character of its own, not with a new line. -/
theorem head?_compactElements_ne (d : Document) (rest : List Document) :
    (Document.compactElements (d :: rest)).head? ≠ some '\n' := by
  obtain ⟨c, tail, hd, hc⟩ := spells_startsWith (spells_compact d)
  have hspace : isSpace c = false := hc.notSeparator.1
  have hhead : (Document.compactElements (d :: rest)).head? = some c := by
    cases rest <;> rw [Document.compactElements, hd] <;> rfl
  rw [hhead, Ne, Option.some.injEq]
  intro hline
  rw [hline] at hspace
  exact absurd hspace (by decide)

/-- A list is written the same way in both forms if it is empty, and only then. -/
theorem prettyAt_list_eq_compact_iff (depth : Nat) (ds : List Document) :
    (Document.list ds).prettyAt depth = (Document.list ds).compact ↔ ds = [] := by
  constructor
  · intro h
    match ds with
    | [] => rfl
    | d :: rest =>
      have hlines : Document.prettyElements depth (d :: rest) =
          Document.compactElements (d :: rest) := (List.cons.inj h).2
      have hhead : (Document.prettyElements depth (d :: rest)).head? = some '\n' := by
        cases rest <;> rfl
      rw [hlines] at hhead
      exact absurd hhead (head?_compactElements_ne d rest)
  · intro h
    rw [h]
    rfl

end FrontendPolicy.Json
