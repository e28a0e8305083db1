import FrontendPolicy.Proofs.Json.Reader
import FrontendPolicy.Proofs.Json.Record
import FrontendPolicy.Proofs.Json.Written

/-!
# A text is one value

The grammar leaves no choice: where a token ends is settled by what follows it, so two ways to take
a part of a document off a text are the same (`spells_unique`). A text is then a way to write one
value at most, and `Denotes` may speak of the document that it decodes to. Each written form of a
document denotes this document and no other.
-/

namespace FrontendPolicy.Json

/-! ## Tokens -/

theorem Value.StartsWith.eq_number {v : Value} {c : Char} (h : v.StartsWith c)
    (hc : c = '-' ∨ c.isDigit = true) : ∃ numeral, v = .number numeral := by
  have hne : ∀ d : Char, d ≠ '-' → d.isDigit = false → c ≠ d := by
    rintro d hminus hdigit rfl
    rcases hc with hc | hc
    · exact hminus hc
    · rw [hdigit] at hc
      exact Bool.false_ne_true hc
  match v, h with
  | .number numeral, _ => exact ⟨numeral, rfl⟩
  | .null, h => exact absurd h (hne 'n' (by decide) (by decide))
  | .flag true, h => exact absurd h (hne 't' (by decide) (by decide))
  | .flag false, h => exact absurd h (hne 'f' (by decide) (by decide))
  | .text _, h => exact absurd h (hne '"' (by decide) (by decide))
  | .list _, h => exact absurd h (hne '[' (by decide) (by decide))
  | .object _, h => exact absurd h (hne '\x7b' (by decide) (by decide))

/-- What stands between the quotes spells one sequence of code units. -/
theorem spellsText_unique {units : List Nat} {cs : List Char} (h : SpellsText units cs) :
    ∀ {units' : List Nat}, SpellsText units' cs → units = units' := by
  induction h with
  | nil =>
    intro units' h'
    cases h'
    rfl
  | plain _ hb _ _ ih =>
    intro units' h'
    cases h' with
    | plain _ _ _ hr => rw [ih hr]
    | letter | code => exact absurd rfl hb
  | letter he _ ih =>
    intro units' h'
    cases h' with
    | plain _ hb => exact absurd rfl hb
    | letter he' hr =>
      rw [he, Option.some.injEq] at he'
      rw [he', ih hr]
    | code => exact absurd rfl (letterEscape_ne_u he)
  | code he _ ih =>
    intro units' h'
    cases h' with
    | plain _ hb => exact absurd rfl hb
    | letter he' => exact absurd rfl (letterEscape_ne_u he')
    | code he' hr =>
      rw [he, Option.some.injEq] at he'
      rw [he', ih hr]

/-- A literal ends at its own closing quote. -/
theorem literal_unique {units units' : List Nat} {cs cs' rest rest' : List Char}
    (h : SpellsText units cs) (h' : SpellsText units' cs')
    (heq : cs ++ '"' :: rest = cs' ++ '"' :: rest') : units = units' ∧ rest = rest' := by
  have hskip := skipText_of_spells h rest
  rw [heq, skipText_of_spells h' rest', Except.ok.injEq] at hskip
  subst hskip
  obtain rfl := List.append_cancel_right heq
  exact ⟨spellsText_unique h h', rfl⟩

theorem numeral_unique {cs cs' rest rest' : List Char} (h : IsNumeral cs) (h' : IsNumeral cs')
    (hr : Delimited rest) (hr' : Delimited rest') (heq : cs ++ rest = cs' ++ rest') :
    cs = cs' ∧ rest = rest' := by
  obtain ⟨n, hn⟩ := scanNumeral_of_numeral .badNumber h hr
  obtain ⟨n', hn'⟩ := scanNumeral_of_numeral .badNumber h' hr'
  rw [heq, hn'] at hn
  simp only [Except.ok.injEq, Prod.mk.injEq] at hn
  obtain ⟨-, rfl⟩ := hn
  exact ⟨List.append_cancel_right heq, rfl⟩

/-- What comes before an element ends where the element starts. -/
theorem nextElement_of_element {first : Bool} {lead cs : List Char} {v : Value}
    (hl : Lead first lead) (hv : Spells (.value v) cs) (rest : List Char) :
    nextElement first (lead ++ (cs ++ rest)) = .ok (some (cs ++ rest)) := by
  obtain ⟨c, tail, rfl, hc⟩ := spells_startsWith hv
  obtain ⟨hspace, -, hclose, -⟩ := hc.notSeparator
  exact nextElement_of_lead hl hspace hclose

/-- Space before a value ends where the value starts. -/
theorem skipSpace_of_value {ws cs : List Char} {v : Value} (hw : IsSpaces ws)
    (hv : Spells (.value v) cs) (rest : List Char) :
    skipSpace (ws ++ (cs ++ rest)) = cs ++ rest := by
  obtain ⟨c, tail, -, rfl, hs⟩ := skipSpace_of_spells hw hv rest
  exact hs

section

variable {first : Bool} {v v' : Value} {ws ws' lead lead' cs cs' rest rest' : List Char}

theorem closer_unique {c : Char} (hc : isSpace c = false) (hw : IsSpaces ws) (hw' : IsSpaces ws')
    (heq : ws ++ c :: rest = ws' ++ c :: rest') : rest = rest' := by
  have hskip : skipSpace (ws ++ c :: rest) = c :: rest := skipSpace_cons hw hc
  rw [heq, skipSpace_cons hw' hc] at hskip
  exact (List.cons.inj hskip).2.symm

theorem valueStart_unique (hw : IsSpaces ws) (hw' : IsSpaces ws') (hv : Spells (.value v) cs)
    (hv' : Spells (.value v') cs') (heq : ws ++ (cs ++ rest) = ws' ++ (cs' ++ rest')) :
    cs ++ rest = cs' ++ rest' := by
  have hstart := skipSpace_of_value hw hv rest
  rw [heq, skipSpace_of_value hw' hv'] at hstart
  exact hstart.symm

theorem elementStart_unique (hl : Lead first lead) (hl' : Lead first lead')
    (hv : Spells (.value v) cs) (hv' : Spells (.value v') cs')
    (heq : lead ++ (cs ++ rest) = lead' ++ (cs' ++ rest')) : cs ++ rest = cs' ++ rest' := by
  have hnext := nextElement_of_element hl hv rest
  rw [heq, nextElement_of_element hl' hv', Except.ok.injEq, Option.some.injEq] at hnext
  exact hnext.symm

/-- Up to its colon a member is the same, key and all. -/
theorem memberStart_unique {key key' : List Nat} {name name' : List Char} (hl : Lead first lead)
    (hl' : Lead first lead') (hk : SpellsText key name) (hk' : SpellsText key' name')
    (hw : IsSpaces ws) (hw' : IsSpaces ws')
    (heq : lead ++ '"' :: (name ++ '"' :: (ws ++ ':' :: rest)) =
      lead' ++ '"' :: (name' ++ '"' :: (ws' ++ ':' :: rest'))) : key = key' ∧ rest = rest' := by
  have hnext := nextKey_of_lead hl (name ++ '"' :: (ws ++ ':' :: rest))
  rw [heq, nextKey_of_lead hl', Except.ok.injEq, Option.some.injEq] at hnext
  obtain ⟨hkeys, hcolon⟩ := literal_unique hk hk' hnext.symm
  have hafter := scanColon_of_spaces hw rest
  rw [hcolon, scanColon_of_spaces hw', Except.ok.injEq] at hafter
  exact ⟨hkeys, hafter.symm⟩

end

/-! ## The grammar -/

/-- Parts that may be taken off a text at one place. -/
def Part.SameKind : Part → Part → Prop
  | .value _, .value _ => True
  | .elements first _, .elements first' _ => first = first'
  | .members first _, .members first' _ => first = first'
  | _, _ => False

/-- What may follow a part: a delimiter after a value, anything after a bracket that closes. -/
def Part.Ends : Part → List Char → Prop
  | .value _, rest => Delimited rest
  | _, _ => True

/-- Two ways to take a part off a text are the same. -/
theorem spells_unique {p : Part} {cs : List Char} (hp : Spells p cs) :
    ∀ {q : Part} {cs' rest rest' : List Char}, Spells q cs' → p.SameKind q → p.Ends rest →
      q.Ends rest' → cs ++ rest = cs' ++ rest' → p = q ∧ rest = rest' := by
  -- The first character of a value tells its kind.
  have hfirst : ∀ {w : Value} {c : Char} {tail cs' rest' : List Char}, Spells (.value w) cs' →
      c :: tail = cs' ++ rest' → w.StartsWith c := by
    intro w c tail cs' rest' hw heq
    obtain ⟨c', tail', rfl, hc⟩ := spells_startsWith hw
    rw [List.cons_append, List.cons.injEq] at heq
    rwa [heq.1]
  induction hp with
  | null =>
    intro q cs' rest rest' hq hkind hr hr' heq
    match q, hkind with
    | .value w, _ =>
      obtain rfl := (hfirst hq heq).eq_null
      cases hq
      exact ⟨rfl, List.append_cancel_left heq⟩
  | flag b =>
    intro q cs' rest rest' hq hkind hr hr' heq
    match q, hkind with
    | .value w, _ =>
      obtain rfl : w = .flag b := by
        cases b with
        | true => exact (hfirst hq heq).eq_true
        | false => exact (hfirst hq heq).eq_false
      cases hq
      exact ⟨rfl, List.append_cancel_left heq⟩
  | @number cs hn =>
    intro q cs' rest rest' hq hkind hr hr' heq
    match q, hkind with
    | .value w, _ =>
      obtain ⟨c, tail, rfl, hc⟩ := spells_startsWith (.number hn)
      obtain ⟨numeral, rfl⟩ := (hfirst hq heq).eq_number hc
      cases hq with
      | number hn' =>
        obtain ⟨hcs, hrest⟩ := numeral_unique hn hn' hr hr' heq
        exact ⟨by rw [hcs], hrest⟩
  | text ht =>
    intro q cs' rest rest' hq hkind hr hr' heq
    match q, hkind with
    | .value w, _ =>
      obtain ⟨units, rfl⟩ := (hfirst hq heq).eq_text
      cases hq with
      | text ht' =>
        simp only [List.cons_append, List.append_assoc, List.nil_append, List.cons.injEq,
          true_and] at heq
        obtain ⟨hunits, hrest⟩ := literal_unique ht ht' heq
        exact ⟨by rw [hunits], hrest⟩
  | list _ ih =>
    intro q cs' rest rest' hq hkind hr hr' heq
    match q, hkind with
    | .value w, _ =>
      obtain ⟨vs, rfl⟩ := (hfirst hq heq).eq_list
      cases hq with
      | list h' =>
        obtain ⟨hparts, hrest⟩ := ih h' rfl trivial trivial (List.cons.inj heq).2
        exact ⟨by injection hparts with _ hvs; rw [hvs], hrest⟩
  | object _ ih =>
    intro q cs' rest rest' hq hkind hr hr' heq
    match q, hkind with
    | .value w, _ =>
      obtain ⟨ms, rfl⟩ := (hfirst hq heq).eq_object
      cases hq with
      | object h' =>
        obtain ⟨hparts, hrest⟩ := ih h' rfl trivial trivial (List.cons.inj heq).2
        exact ⟨by injection hparts with _ hms; rw [hms], hrest⟩
  | @listEnd first ws hw =>
    intro q cs' rest rest' hq hkind hr hr' heq
    match q, hkind with
    | .elements _ vs, rfl =>
      rw [List.append_assoc, List.singleton_append] at heq
      cases hq with
      | listEnd hw' =>
        rw [List.append_assoc, List.singleton_append] at heq
        exact ⟨rfl, closer_unique (by decide) hw hw' heq⟩
      | element hl hv _ =>
        have hend := nextElement_of_end first hw rest
        rw [heq, List.append_assoc, List.append_assoc, nextElement_of_element hl hv] at hend
        exact absurd hend (by simp)
  | @element first v vs lead cs tail hl hv hr ihv ihr =>
    intro q cs' rest rest' hq hkind _ _ heq
    match q, hkind with
    | .elements _ ws, rfl =>
      rw [List.append_assoc, List.append_assoc] at heq
      cases hq with
      | listEnd hw' =>
        have hnext := nextElement_of_element hl hv (tail ++ rest)
        rw [heq, List.append_assoc, List.singleton_append, nextElement_of_end _ hw'] at hnext
        exact absurd hnext (by simp)
      | element hl' hv' hr' =>
        rw [List.append_assoc, List.append_assoc] at heq
        have hstart := elementStart_unique hl hl' hv hv' heq
        obtain ⟨hvalue, hrest⟩ := ihv hv' trivial (delimited_elements hr rest)
          (delimited_elements hr' rest') hstart
        obtain ⟨hparts, hrest⟩ := ihr hr' rfl trivial trivial hrest
        injection hvalue with hvalue
        injection hparts with _ hvalues
        exact ⟨by rw [hvalue, hvalues], hrest⟩
  | @objectEnd first ws hw =>
    intro q cs' rest rest' hq hkind hr hr' heq
    match q, hkind with
    | .members _ ms, rfl =>
      rw [List.append_assoc, List.singleton_append] at heq
      cases hq with
      | objectEnd hw' =>
        rw [List.append_assoc, List.singleton_append] at heq
        exact ⟨rfl, closer_unique (by decide) hw hw' heq⟩
      | member hl _ _ _ _ _ =>
        have hend := nextKey_of_end first hw rest
        rw [heq, List.append_assoc, List.cons_append, nextKey_of_lead hl] at hend
        exact absurd hend (by simp)
  | @member first key v ms lead name ws ws' cs tail hl hk hw hw' hv hr ihv ihr =>
    intro q cs' rest rest' hq hkind _ _ heq
    match q, hkind with
    | .members _ ms', rfl =>
      simp only [List.append_assoc, List.cons_append] at heq
      cases hq with
      | objectEnd he =>
        have hnext := nextKey_of_lead hl
          (name ++ '"' :: (ws ++ ':' :: (ws' ++ (cs ++ (tail ++ rest)))))
        rw [heq, List.append_assoc, List.singleton_append, nextKey_of_end _ he] at hnext
        exact absurd hnext (by simp)
      | member hl' hk' hu hu' hv' hr' =>
        simp only [List.append_assoc, List.cons_append] at heq
        obtain ⟨hkeys, hafter⟩ := memberStart_unique hl hl' hk hk' hw hu heq
        have hstart := valueStart_unique hw' hu' hv hv' hafter
        obtain ⟨hvalue, hrest⟩ := ihv hv' trivial (delimited_members hr rest)
          (delimited_members hr' rest') hstart
        obtain ⟨hparts, hrest⟩ := ihr hr' rfl trivial trivial hrest
        injection hvalue with hvalue
        injection hparts with _ hmembers
        exact ⟨by rw [hkeys, hvalue, hmembers], hrest⟩

/-! ## Whole texts -/

/-- A text is a way to write one value at most. -/
theorem Value.eq_of_writtenAs {v w : Value} {text : String} (hv : v.WrittenAs text)
    (hw : w.WrittenAs text) : v = w := by
  obtain ⟨hspaces, hs, hend, ht⟩ := hv
  obtain ⟨hspaces', hs', hend', ht'⟩ := hw
  have hstart := valueStart_unique hspaces hspaces' hs hs' (ht.symm.trans ht')
  have hvalue := (spells_unique hs hs' trivial (delimited_spaces hend) (delimited_spaces hend')
    hstart).1
  injection hvalue

/-! ## Decoding -/

mutual

/-- The document that a value is, with its strings decoded. Numbers are no documents of this
library, and neither are strings with a surrogate that has no partner. -/
def Value.document? : Value → Option Document
  | .null => some .null
  | .flag b => some (.flag b)
  | .number _ => none
  | .text units => (keyText? units).map .text
  | .list vs => (documentsOf? vs).map .list
  | .object ms => (memberDocumentsOf? ms).map .object

/-- The documents that the elements of a list are. -/
def documentsOf? : List Value → Option (List Document)
  | [] => some []
  | v :: rest => do
    let d ← v.document?
    let ds ← documentsOf? rest
    some (d :: ds)

/-- The members of an object with their keys and values decoded, in their order. -/
def memberDocumentsOf? : List (List Nat × Value) → Option (List (String × Document))
  | [] => some []
  | (key, v) :: rest => do
    let name ← keyText? key
    let d ← v.document?
    let ms ← memberDocumentsOf? rest
    some ((name, d) :: ms)

end

mutual

/-- A document is decoded from its value, each of its strings to itself. -/
theorem document?_value (d : Document) : d.value.document? = some d := by
  match d with
  | .null => rfl
  | .flag _ => rfl
  | .text s => rw [Document.value, Value.document?, keyText?_unitsOf, Option.map_some]
  | .list ds => rw [Document.value, Value.document?, documentsOf?_valuesOf ds, Option.map_some]
  | .object ms =>
    rw [Document.value, Value.document?, memberDocumentsOf?_memberValuesOf ms, Option.map_some]

theorem documentsOf?_valuesOf (ds : List Document) : documentsOf? (valuesOf ds) = some ds := by
  match ds with
  | [] => rfl
  | d :: rest =>
    simp only [valuesOf, documentsOf?, document?_value d, documentsOf?_valuesOf rest,
      Option.bind_eq_bind, Option.bind_some]

theorem memberDocumentsOf?_memberValuesOf (ms : List (String × Document)) :
    memberDocumentsOf? (memberValuesOf ms) = some ms := by
  match ms with
  | [] => rfl
  | (key, d) :: rest =>
    simp only [memberValuesOf, memberDocumentsOf?, keyText?_unitsOf, document?_value d,
      memberDocumentsOf?_memberValuesOf rest, Option.bind_eq_bind, Option.bind_some]

end

/-- The text is well-formed, and the document is what it decodes to. -/
def Denotes (text : String) (d : Document) : Prop :=
  ∃ v : Value, v.WrittenAs text ∧ v.document? = some d

/-- A text that is written for a document decodes to this document and to no other. -/
theorem denotes_iff_of_writtenAs {d e : Document} {text : String} (h : d.value.WrittenAs text) :
    Denotes text e ↔ e = d := by
  constructor
  · intro ⟨v, hv, he⟩
    rw [Value.eq_of_writtenAs hv h, document?_value, Option.some.injEq] at he
    exact he.symm
  · intro he
    rw [he]
    exact ⟨d.value, h, document?_value d⟩

/-- The compact form of a document decodes to the document. -/
theorem denotes_compactText_iff {d e : Document} : Denotes d.compactText e ↔ e = d :=
  denotes_iff_of_writtenAs (writtenAs_compactText d)

/-- The pretty form of a document decodes to the document. -/
theorem denotes_prettyText_iff {d e : Document} : Denotes d.prettyText e ↔ e = d :=
  denotes_iff_of_writtenAs (writtenAs_prettyText d)

theorem denotes_prettyText_line_iff {d e : Document} :
    Denotes (d.prettyText ++ "\n") e ↔ e = d :=
  denotes_iff_of_writtenAs (writtenAs_prettyText_line d)

end FrontendPolicy.Json
