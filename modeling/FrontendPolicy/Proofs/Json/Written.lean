import FrontendPolicy.Proofs.Json.Literal
import FrontendPolicy.Proofs.Json.Token

/-!
# Written documents

Both written forms of a document are ways to write its value. The proofs run along the functions
that write the two forms. What tells them apart is the space before an element, a key or a closing
bracket, and the grammar allows either.
-/

namespace FrontendPolicy.Json

/-! ## Literals -/

/-- The two digits that stand for a control after two zeros. -/
theorem hexUnit?_control : ∀ n < 0x20,
    hexUnit? '0' '0' (Nat.digitChar (n / 16)) (Nat.digitChar (n % 16)) = some n := by
  decide

theorem unitsOfChar_control {c : Char} (h : c.toNat < 0x20) : unitsOfChar c = [c.toNat] := by
  rw [unitsOfChar, if_pos (by omega)]

/-- A character is escaped by a letter, by its code, or not at all. -/
theorem escape_cases (c : Char) :
    (∃ d, letterEscape? d = some c ∧ escape c = ['\\', d]) ∨
      (c.toNat < 0x20 ∧ escape c =
        ['\\', 'u', '0', '0', Nat.digitChar (c.toNat / 16), Nat.digitChar (c.toNat % 16)]) ∨
      (c ≠ '"' ∧ c ≠ '\\' ∧ isControl c = false ∧ escape c = [c]) := by
  unfold escape
  split
  · rename_i hc
    exact Or.inl ⟨'"', by rw [hc]; decide, rfl⟩
  · rename_i hquote
    split
    · rename_i hc
      exact Or.inl ⟨'\\', by rw [hc]; decide, rfl⟩
    · rename_i hbackslash
      -- The five controls that have a letter.
      iterate 5
        split
        · rename_i hc
          exact Or.inl ⟨_, by rw [hc]; decide, rfl⟩
      split
      · rename_i hcontrol
        exact Or.inr (Or.inl ⟨hcontrol, rfl⟩)
      · rename_i hcontrol
        have hplain : isControl c = false := by simpa [isControl] using hcontrol
        exact Or.inr (Or.inr ⟨hquote, hbackslash, hplain, rfl⟩)

/-- Escaping a character does not change what it spells. -/
theorem spellsText_escape (c : Char) {units : List Nat} {cs : List Char}
    (h : SpellsText units cs) : SpellsText (unitsOfChar c ++ units) (escape c ++ cs) := by
  rcases escape_cases c with ⟨d, hd, hc⟩ | ⟨hcontrol, hc⟩ | ⟨hquote, hbackslash, hplain, hc⟩
  · rw [hc]
    exact .letter hd h
  · rw [hc, unitsOfChar_control hcontrol]
    exact .code (hexUnit?_control c.toNat hcontrol) h
  · rw [hc]
    exact .plain hquote hbackslash hplain h

theorem spellsText_literal (cs : List Char) :
    SpellsText (unitsOf cs) (cs.flatMap escape) := by
  induction cs with
  | nil => exact .nil
  | cons c cs ih =>
    rw [unitsOf, List.flatMap_cons, List.flatMap_cons]
    exact spellsText_escape c ih

theorem spells_literal (s : String) :
    Spells (.value (Document.text s).value) (literal s) :=
  .text (spellsText_literal s.toList)

theorem valuesOf_map {α : Type} (f : α → Document) (as : List α) :
    valuesOf (as.map f) = as.map fun a => (f a).value := by
  induction as with
  | nil => rw [List.map_nil, valuesOf, List.map_nil]
  | cons a as ih => rw [List.map_cons, valuesOf, ih, List.map_cons]

theorem memberValuesOf_append (ms ns : List (String × Document)) :
    memberValuesOf (ms ++ ns) = memberValuesOf ms ++ memberValuesOf ns := by
  induction ms with
  | nil => rw [memberValuesOf, List.nil_append, List.nil_append]
  | cons m ms ih => rw [List.cons_append, memberValuesOf, memberValuesOf, ih, List.cons_append]

/-! ## Leads -/

theorem isSpaces_replicate (n : Nat) : IsSpaces (List.replicate n ' ') := by
  intro c hc
  rw [(List.mem_replicate.mp hc).2]
  decide

theorem isSpaces_newline (depth : Nat) : IsSpaces (Document.newline depth) := by
  intro c hc
  rcases List.mem_cons.mp hc with rfl | hc
  · decide
  · exact isSpaces_replicate _ c hc

/-- A comma makes later elements of the first ones. -/
theorem spells_elements_next {v : Value} {vs : List Value} {cs : List Char}
    (h : Spells (.elements true (v :: vs)) cs) :
    Spells (.elements false (v :: vs)) (',' :: cs) := by
  cases h with
  | element hl hv hr =>
    cases hl with
    | first hw => exact .element (@Lead.next [] _ isSpaces_nil hw) hv hr

/-- A comma makes later members of the first ones. -/
theorem spells_members_next {m : List Nat × Value} {ms : List (List Nat × Value)}
    {cs : List Char} (h : Spells (.members true (m :: ms)) cs) :
    Spells (.members false (m :: ms)) (',' :: cs) := by
  cases h with
  | member hl hk hw hw' hv hr =>
    cases hl with
    | first h => exact .member (@Lead.next [] _ isSpaces_nil h) hk hw hw' hv hr

/-! ## Compact documents -/

/-- A member whose colon may have a space after it. -/
theorem spells_member {first : Bool} {key : String} {v : Value} {ms : List (List Nat × Value)}
    {lead ws cs rest : List Char} (hl : Lead first lead) (hw : IsSpaces ws)
    (hv : Spells (.value v) cs) (hr : Spells (.members false ms) rest) :
    Spells (.members first ((unitsOf key.toList, v) :: ms))
      (lead ++ (literal key ++ ':' :: (ws ++ (cs ++ rest)))) := by
  have h := Spells.member hl (spellsText_literal key.toList) isSpaces_nil hw hv hr
  simpa [literal] using h

mutual

theorem spells_compact (d : Document) : Spells (.value d.value) d.compact := by
  cases d with
  | null => exact .null
  | flag b => exact .flag b
  | text s => exact spells_literal s
  | list ds => exact .list (spells_compactElements ds)
  | object ms => exact .object (spells_compactMembers ms)

theorem spells_compactElements (ds : List Document) :
    Spells (.elements true (valuesOf ds)) (Document.compactElements ds) := by
  match ds with
  | [] => exact .listEnd isSpaces_nil
  | [d] => exact .element (.first isSpaces_nil) (spells_compact d) (.listEnd isSpaces_nil)
  | d :: e :: rest =>
    exact .element (.first isSpaces_nil) (spells_compact d)
      (spells_elements_next (spells_compactElements (e :: rest)))

theorem spells_compactMembers (ms : List (String × Document)) :
    Spells (.members true (memberValuesOf ms)) (Document.compactMembers ms) := by
  match ms with
  | [] => exact .objectEnd isSpaces_nil
  | [(key, d)] =>
    have h := @spells_member _ key _ _ _ _ _ _ (.first isSpaces_nil) isSpaces_nil
      (spells_compact d) (.objectEnd isSpaces_nil)
    simpa [Document.compactMembers, memberValuesOf] using h
  | (key, d) :: m :: rest =>
    have h := @spells_member _ key _ _ _ _ _ _ (.first isSpaces_nil) isSpaces_nil
      (spells_compact d) (spells_members_next (spells_compactMembers (m :: rest)))
    simpa [Document.compactMembers, memberValuesOf] using h

end

/-! ## Pretty documents -/

mutual

theorem spells_prettyAt (depth : Nat) (d : Document) :
    Spells (.value d.value) (d.prettyAt depth) := by
  match d with
  | .null => exact .null
  | .flag b => exact .flag b
  | .text s => exact spells_literal s
  | .list [] => exact .list (.listEnd isSpaces_nil)
  | .list (d :: rest) => exact .list (spells_prettyElements depth (d :: rest))
  | .object [] => exact .object (.objectEnd isSpaces_nil)
  | .object (m :: rest) => exact .object (spells_prettyMembers depth (m :: rest))

theorem spells_prettyElements (depth : Nat) (ds : List Document) :
    Spells (.elements true (valuesOf ds)) (Document.prettyElements depth ds) := by
  have hlead : Lead true (Document.newline (depth + 1)) := .first (isSpaces_newline _)
  match ds with
  | [] => exact .listEnd (isSpaces_newline depth)
  | [d] =>
    have h := Spells.element hlead (spells_prettyAt (depth + 1) d)
      (.listEnd (isSpaces_newline depth))
    simpa [Document.prettyElements, valuesOf] using h
  | d :: e :: rest =>
    have h := Spells.element hlead (spells_prettyAt (depth + 1) d)
      (spells_elements_next (spells_prettyElements depth (e :: rest)))
    simpa [Document.prettyElements, valuesOf] using h

theorem spells_prettyMembers (depth : Nat) (ms : List (String × Document)) :
    Spells (.members true (memberValuesOf ms)) (Document.prettyMembers depth ms) := by
  have hlead : Lead true (Document.newline (depth + 1)) := .first (isSpaces_newline _)
  match ms with
  | [] => exact .objectEnd (isSpaces_newline depth)
  | [(key, d)] =>
    have h := @spells_member _ key _ _ _ _ _ _ hlead (isSpaces_replicate 1)
      (spells_prettyAt (depth + 1) d) (.objectEnd (isSpaces_newline depth))
    simpa [Document.prettyMembers, memberValuesOf] using h
  | (key, d) :: m :: rest =>
    have h := @spells_member _ key _ _ _ _ _ _ hlead (isSpaces_replicate 1)
      (spells_prettyAt (depth + 1) d)
      (spells_members_next (spells_prettyMembers depth (m :: rest)))
    simpa [Document.prettyMembers, memberValuesOf] using h

end

/-! ## Texts -/

/-- The compact form of a document is a way to write its value. -/
theorem writtenAs_compactText (d : Document) : d.value.WrittenAs d.compactText :=
  .intro isSpaces_nil (spells_compact d) isSpaces_nil (by simp [Document.compactText])

/-- The pretty form of a document is a way to write its value. -/
theorem writtenAs_prettyText (d : Document) : d.value.WrittenAs d.prettyText :=
  .intro isSpaces_nil (spells_prettyAt 0 d) isSpaces_nil
    (by simp [Document.prettyText, Document.pretty])

/-- A line feed may stand after the pretty form. -/
theorem writtenAs_prettyText_line (d : Document) : d.value.WrittenAs (d.prettyText ++ "\n") := by
  refine .intro isSpaces_nil (spells_prettyAt 0 d) (isSpaces_newline 0) ?_
  rw [String.toList_append, Document.prettyText, String.toList_ofList]
  rfl

end FrontendPolicy.Json
