import FrontendPolicy.Proofs.Json.Redundant
import FrontendPolicy.Proofs.Options.Forms

/-!
# Members that options may go without

Options and their inputs are read off objects, and some members of these objects say nothing: those
whose key names no field, and those that give a field what it is without them. A member may be put
into the options themselves or into one of their inputs; `Options.Place` covers all these objects,
and the law is proved for a place.
-/

namespace FrontendPolicy

open Json

/-- A name that no field has is not found. -/
theorem Json.Shape.field?_eq_none {ρ : Type} {shape : Shape ρ} {name : String}
    (h : name ∉ shape.fields.map (·.name)) : shape.field? name = none := by
  rw [Shape.field?, List.find?_eq_none]
  intro f hf hname
  exact h (List.mem_map.mpr ⟨f, hf, of_decide_eq_true hname⟩)

/-! ## Inputs -/

namespace InputFile

/-- A member of an input that says nothing. -/
inductive SaysNothing : List Nat × Value → Prop where
  | unknown {key : List Nat} {v : Value} {name : String} (hk : keyText? key = some name)
      (hn : name ∉ fieldNames) : SaysNothing (key, v)
  | notPrimary {key : List Nat} (hk : keyText? key = some "primary") :
      SaysNothing (key, .flag false)

theorem not_requires_primary : ¬shape.Requires "primary" := by
  rintro ⟨f, hf, hrequired, hname⟩
  have hall : ∀ f ∈ shape.fields, f.required = true → f.name ≠ "primary" := by decide
  exact hall f hf hrequired hname

theorem SaysNothing.redundant {m : List Nat × Value} (h : SaysNothing m) :
    interpretation.Redundant m := by
  cases h with
  | unknown hk hn => exact .unknown hk (Shape.field?_eq_none hn)
  | notPrimary hk => exact .blank hk (by decide) not_requires_primary rfl rfl

end InputFile

/-- An input may stand for another one that is the same. -/
theorem Inputs.meaning?_congr {v w : Value} (h : InputFile.meaning? v = InputFile.meaning? w)
    (front back : List Value) :
    Inputs.meaning? (.list (front ++ v :: back)) = Inputs.meaning? (.list (front ++ w :: back)) :=
  list?_congr_element h front back

/-! ## Options -/

namespace Options

/-- A member of options that says nothing. -/
inductive SaysNothing : List Nat × Value → Prop where
  | unknown {key : List Nat} {v : Value} {name : String} (hk : keyText? key = some name)
      (hn : name ∉ fieldNames) : SaysNothing (key, v)
  | noAction {key : List Nat} {v : Value} {raw : String}
      (hk : keyText? key = some "requested_action") (hv : v.text? = some raw)
      (ha : Action.ofText? raw = some .noAction) : SaysNothing (key, v)
  | noOutputs {key : List Nat} (hk : keyText? key = some "output_filenames") :
      SaysNothing (key, .list [])
  | noPath {key : List Nat} {k : SideOutput} (hk : keyText? key = some k.key) :
      SaysNothing (key, .null)
  | noModuleName {key : List Nat} (hk : keyText? key = some "module_name") :
      SaysNothing (key, .text [])
  | noInputs {key : List Nat} (hk : keyText? key = some "inputs") : SaysNothing (key, .list [])

/-- Every field of options may be left out. -/
theorem not_requires (name : String) : ¬shape.Requires name := by
  rintro ⟨f, hf, hrequired, -⟩
  have hall : ∀ f ∈ shape.fields, f.required = false := by decide
  rw [hall f hf] at hrequired
  exact Bool.false_ne_true hrequired

theorem isSome_field?_key (k : SideOutput) : (shape.field? k.key).isSome := by
  cases k <;> decide

theorem isSome_field?_inputs : (shape.field? "inputs").isSome := by decide

theorem SaysNothing.redundant {m : List Nat × Value} (h : SaysNothing m) :
    interpretation.Redundant m := by
  cases h with
  | unknown hk hn => exact .unknown hk (Shape.field?_eq_none hn)
  | @noAction _ v _ hk hv ha =>
    have hchange : change "requested_action" v =
        some fun o => { o with requestedAction := .noAction } := by
      show (Action.meaning? _).map _ = _
      rw [Action.meaning?, hv, Option.bind_some, ha]
      rfl
    exact .blank hk (by decide) (not_requires _) hchange rfl
  | noOutputs hk => exact .blank hk (by decide) (not_requires _) rfl rfl
  | @noPath _ k hk =>
    have hblank : ({} : Options).setSidePath k none = {} := by cases k <;> rfl
    exact .blank hk (isSome_field?_key k) (not_requires _) (change_side k .null) hblank
  | noModuleName hk => exact .blank hk (by decide) (not_requires _) rfl rfl
  | noInputs hk => exact .blank hk (by decide) (not_requires _) rfl rfl

/-! ## Places -/

/-- An object in a value of options: the options themselves, or one of their inputs, where the
options may be an object or a list. -/
inductive Place where
  | options
  | input (before after : List (List Nat × Value)) (key : List Nat)
      (isInputs : keyText? key = some "inputs") (front back : List Value)
  | listedInput (fields : List Value) (areEight : fields.length = 8) (front back : List Value)

namespace Place

/-- The value of options that has an object of these members in the place. -/
def fill : Place → List (List Nat × Value) → Value
  | options, ms => .object ms
  | input before after key _ front back, ms =>
    .object (before ++ (key, .list (front ++ .object ms :: back)) :: after)
  | listedInput fields _ front back, ms =>
    .list (fields ++ [.list (front ++ .object ms :: back)])

/-- The names of the fields that an object in the place has. -/
def fieldNames : Place → List String
  | options => Options.fieldNames
  | input .. | listedInput .. => InputFile.fieldNames

/-- A member of an object in the place that says nothing. -/
def SaysNothing : Place → List Nat × Value → Prop
  | options => Options.SaysNothing
  | input .. | listedInput .. => InputFile.SaysNothing

/-- The record that the object in the place is. -/
def record? (ms : List (List Nat × Value)) : Place → Option (Options ⊕ InputFile)
  | options => (meaning? (.object ms)).map .inl
  | input .. | listedInput .. => (InputFile.meaning? (.object ms)).map .inr

variable {p : Place} {before after ms ns : List (List Nat × Value)} {m : List Nat × Value}

/-- A member that says nothing may be put in, unless it is for a field that is given. -/
theorem record?_insert (hm : p.SaysNothing m) (hfree : ∀ name ∈ p.fieldNames,
    keyText? m.1 = some name → ¬GivesKey name (before ++ after)) :
    p.record? (before ++ m :: after) = p.record? (before ++ after) := by
  have hfield : ∀ {ρ : Type} {shape : Shape ρ} {name : String}, (shape.field? name).isSome →
      name ∈ shape.fields.map (·.name) := by
    intro ρ shape name h
    by_contra hn
    rw [Shape.field?_eq_none hn] at h
    exact absurd h (by simp)
  cases p with
  | options =>
    have h : meaning? (.object (before ++ m :: after)) = meaning? (.object (before ++ after)) :=
      interpretation.record?_insert_of_redundant hm.redundant fun name hn =>
        hfree name (hfield hn)
    simp only [record?, h]
  | input | listedInput =>
    have h : InputFile.meaning? (.object (before ++ m :: after)) =
        InputFile.meaning? (.object (before ++ after)) :=
      InputFile.interpretation.record?_insert_of_redundant hm.redundant fun name hn =>
        hfree name (hfield hn)
    simp only [record?, h]

/-- Options are refused with the object in the place. -/
theorem meaning?_fill_of_none (h : p.record? ms = none) : meaning? (p.fill ms) = none := by
  have hchange : ∀ front back : List Value, InputFile.meaning? (.object ms) = none →
      change "inputs" (.list (front ++ .object ms :: back)) = none := by
    intro front back hnone
    have hinputs : Inputs.meaning? (.list (front ++ .object ms :: back)) = none :=
      list?_of_refused (by simp) hnone
    show (Inputs.meaning? _).map _ = none
    rw [hinputs]
    rfl
  cases p with
  | options => exact Option.map_eq_none_iff.mp h
  | input b a key hkey front back =>
    have hnone := hchange front back (Option.map_eq_none_iff.mp h)
    have hmem : (key, .list (front ++ .object ms :: back)) ∈
        b ++ (key, Value.list (front ++ .object ms :: back)) :: a := by simp
    exact interpretation.record?_of_refused_member isSome_field?_inputs hmem hkey hnone
  | listedInput fields hfields front back =>
    have hnone := hchange front back (Option.map_eq_none_iff.mp h)
    refine interpretation.record?_of_refused_element (i := 8) rfl ?_ hnone
    rw [← hfields, List.getElem?_concat_length]

/-- Options are the same with the same record in the place. -/
theorem meaning?_fill_congr (h : p.record? ms = p.record? ns) :
    meaning? (p.fill ms) = meaning? (p.fill ns) := by
  have hchange : ∀ front back : List Value,
      InputFile.meaning? (.object ms) = InputFile.meaning? (.object ns) →
      change "inputs" (.list (front ++ .object ms :: back)) =
        change "inputs" (.list (front ++ .object ns :: back)) := by
    intro front back hsame
    show (Inputs.meaning? _).map _ = (Inputs.meaning? _).map _
    rw [Inputs.meaning?_congr hsame]
  cases p with
  | options => exact Option.map_injective (fun _ _ => Sum.inl.inj) h
  | input b a key hkey front back =>
    have hsame := hchange front back (Option.map_injective (fun _ _ => Sum.inr.inj) h)
    exact interpretation.record?_congr_member hkey isSome_field?_inputs hsame
  | listedInput fields hfields front back =>
    have hsame := hchange front back (Option.map_injective (fun _ _ => Sum.inr.inj) h)
    have hset : ∀ v w : Value, (fields ++ [v]).set 8 w = fields ++ [w] := by
      intro v w
      rw [← hfields, List.set_append_right _ _ (Nat.le_refl _), Nat.sub_self, List.set_cons_zero]
    have hlast : ∀ v : Value, (fields ++ [v])[8]? = some v := by
      intro v
      rw [← hfields, List.getElem?_concat_length]
    show interpretation.takeFields shape.blank shape.fields (fields ++ [_]) = _
    rw [← hset (.list (front ++ .object ns :: back)) (.list (front ++ .object ms :: back))]
    exact interpretation.takeFields_set (f := ⟨"inputs", false, _⟩) hsame.symm shape.blank rfl
      (hlast _)

/-- No member but one of an object that is read has the key of a field. -/
theorem not_givesKey_of_meaning? {o : Options} {name : String}
    (h : meaning? (p.fill (before ++ m :: after)) = some o) (hk : keyText? m.1 = some name)
    (hn : name ∈ p.fieldNames) : ¬GivesKey name (before ++ after) := by
  have hrecord : p.record? (before ++ m :: after) ≠ none := by
    intro hnone
    rw [meaning?_fill_of_none hnone] at h
    exact absurd h (by simp)
  obtain ⟨r, hr⟩ := Option.ne_none_iff_exists'.mp hrecord
  cases p with
  | options =>
    obtain ⟨o', ho', -⟩ := Option.map_eq_some_iff.mp hr
    exact interpretation.not_givesKey_of_record? ho' hk (Shape.isSome_field? hn)
  | input | listedInput =>
    obtain ⟨i, hi, -⟩ := Option.map_eq_some_iff.mp hr
    exact InputFile.interpretation.not_givesKey_of_record? hi hk (Shape.isSome_field? hn)

theorem record?_of_noKeyText (hk : keyText? m.1 = none) :
    p.record? (before ++ m :: after) = none := by
  cases p with
  | options =>
    exact Option.map_eq_none_iff.mpr (interpretation.record?_of_noKeyText hk before after)
  | input | listedInput =>
    exact Option.map_eq_none_iff.mpr
      (InputFile.interpretation.record?_of_noKeyText hk before after)

end Place

/-! ## Texts -/

/-- A member that gives an empty path sets it, and without the member the path is not set. -/
theorem meaning?_insert_emptyPath {k : SideOutput} {key : List Nat}
    {before after : List (List Nat × Value)} {o : Options} (hk : keyText? key = some k.key)
    (habsent : ¬GivesKey k.key (before ++ after))
    (h : meaning? (.object (before ++ after)) = some o) :
    o.sidePath k = none ∧ meaning? (.object (before ++ (key, .text []) :: after)) =
      some (o.setSidePath k (some "")) := by
  constructor
  · have hblank : ({} : Options).setSidePath k none = {} := by cases k <;> rfl
    have hunset : o.setSidePath k none = o :=
      interpretation.eq_of_record? (change_side k .null) hblank habsent h
    rw [← hunset, sidePath_setSidePath_self]
  · have hinsert : meaning? (.object (before ++ (key, .text []) :: after)) =
        (meaning? (.object (before ++ after))).map (·.setSidePath k (some "")) :=
      interpretation.record?_insert hk (isSome_field?_key k) (not_requires _) habsent
        (change_side k (.text []))
    rw [hinsert, h, Option.map_some]

/-- The same options are read with a member that says nothing and without it, at any position of
their object or of an input. Such a member may be taken out of a text that is accepted, and it may
be put in, unless it is for a field that is given. An empty path is not such a member, and a member
whose key is no text is not accepted. -/
theorem ofJson_of_saysNothing (p : Place) (before : List (List Nat × Value))
    (m : List Nat × Value) (after : List (List Nat × Value)) {s t : String}
    (hs : (p.fill (before ++ after)).WrittenAs s)
    (ht : (p.fill (before ++ m :: after)).WrittenAs t) :
    (p.SaysNothing m → ∀ o, ofJson t = .ok o → ofJson s = .ok o) ∧
    (p.SaysNothing m →
      (∀ name ∈ p.fieldNames, keyText? m.1 = some name → ¬GivesKey name (before ++ after)) →
        ∀ o, ofJson s = .ok o → ofJson t = .ok o) ∧
    (∀ k : SideOutput, p = .options → keyText? m.1 = some k.key → m.2 = .text [] →
      ¬GivesKey k.key (before ++ after) → ∀ o, ofJson s = .ok o →
        o.sidePath k = none ∧ ofJson t = .ok (o.setSidePath k (some ""))) ∧
    (keyText? m.1 = none → ∃ r, ofJson t = .error r) := by
  have hsame : p.SaysNothing m →
      (∀ name ∈ p.fieldNames, keyText? m.1 = some name → ¬GivesKey name (before ++ after)) →
        meaning? (p.fill (before ++ m :: after)) = meaning? (p.fill (before ++ after)) :=
    fun hm hfree => Place.meaning?_fill_congr (Place.record?_insert hm hfree)
  refine ⟨?_, ?_, ?_, ?_⟩
  · intro hm o ho
    rw [ofJson_eq_ok_iff ht] at ho
    -- A text that is accepted gives no field twice.
    have hfree : ∀ name ∈ p.fieldNames, keyText? m.1 = some name →
        ¬GivesKey name (before ++ after) := fun name hn hk =>
      Place.not_givesKey_of_meaning? ho hk hn
    rw [ofJson_eq_ok_iff hs, ← hsame hm hfree, ho]
  · intro hm hfree o ho
    rw [ofJson_eq_ok_iff hs] at ho
    rw [ofJson_eq_ok_iff ht, hsame hm hfree, ho]
  · rintro k rfl hk hvalue habsent o ho
    obtain ⟨key, v⟩ := m
    obtain rfl : v = .text [] := hvalue
    rw [ofJson_eq_ok_iff hs] at ho
    rw [ofJson_eq_ok_iff ht]
    exact meaning?_insert_emptyPath hk habsent ho
  · intro hk
    exact ofJson_eq_error ht (Place.meaning?_fill_of_none (Place.record?_of_noKeyText hk))

/-- Options with a module name and an input. -/
def plainSample : Document :=
  .object [("module_name", .text "m"), ("inputs", .list [.object [("file", .text "a")]])]

/-- The same options with a member of no field, whose value holds the name of one. -/
def paddedSample : Document :=
  .object [("module_name", .text "m"), ("x", .list [.object [("inputs", .null)], .list []]),
    ("inputs", .list [.object [("file", .text "a")]])]

/-- The same options whose input says that it is not primary. -/
def redundantSample : Document :=
  .object [("module_name", .text "m"),
    ("inputs", .list [.object [("primary", .flag false), ("file", .text "a")]])]

/-- Options that set a path to the empty text. -/
def emptyPathText : Document :=
  .object [("module_output_path", .text ""), ("module_name", .text "m"),
    ("inputs", .list [.object [("file", .text "a")]])]

/-- A member of no field and the mark of an input that is not primary are taken out of a text and
put into it, and an empty path that is put in is set. -/
theorem ofJson_of_saysNothing_sample :
    (∀ o, ofJson paddedSample.compactText = .ok o ↔ ofJson plainSample.compactText = .ok o) ∧
    (∀ o, ofJson redundantSample.compactText = .ok o ↔ ofJson plainSample.compactText = .ok o) ∧
    ∃ o, ofJson plainSample.compactText = .ok o ∧
      ofJson emptyPathText.compactText = .ok { o with modulePath := some "" } := by
  have hplain := writtenAs_compactText plainSample
  have hread : ofJson plainSample.compactText =
      .ok { moduleName := "m", inputs := [⟨.ofText "a", false⟩] } := ofJson_eq_ok hplain rfl
  refine ⟨fun o => ?_, fun o => ?_, _, hread, ?_⟩
  · obtain ⟨hout, hin, -⟩ := ofJson_of_saysNothing .options [(unitsOf "module_name".toList, _)]
      (unitsOf "x".toList, _) [(unitsOf "inputs".toList, _)] hplain
      (writtenAs_compactText paddedSample)
    have hunknown : "x" ∉ fieldNames := by decide
    have hm : ∀ v, SaysNothing (unitsOf "x".toList, v) := fun v =>
      .unknown (keyText?_unitsOf "x") hunknown
    refine ⟨hout (hm _) o, hin (hm _) ?_ o⟩
    intro name hname hk
    rw [keyText?_unitsOf, Option.some.injEq] at hk
    exact absurd (hk ▸ hname) hunknown
  · obtain ⟨hout, hin, -⟩ := ofJson_of_saysNothing
      (.input [(unitsOf "module_name".toList, _)] [] (unitsOf "inputs".toList)
        (keyText?_unitsOf "inputs") [] [])
      [] (unitsOf "primary".toList, _) [(unitsOf "file".toList, _)] hplain
      (writtenAs_compactText redundantSample)
    have hm : InputFile.SaysNothing (unitsOf "primary".toList, .flag false) :=
      .notPrimary (keyText?_unitsOf "primary")
    refine ⟨hout hm o, hin hm ?_ o⟩
    rintro name - hk ⟨member, hmember, hgiven⟩
    rw [keyText?_unitsOf, Option.some.injEq] at hk
    rw [List.nil_append, List.mem_singleton] at hmember
    rw [hmember, keyText?_unitsOf, ← hk] at hgiven
    exact absurd hgiven (by decide)
  · obtain ⟨-, -, hempty, -⟩ := ofJson_of_saysNothing .options []
      (unitsOf "module_output_path".toList, _)
      [(unitsOf "module_name".toList, _), (unitsOf "inputs".toList, _)] hplain
      (writtenAs_compactText emptyPathText)
    refine (hempty .module rfl (keyText?_unitsOf _) rfl ?_ _ hread).2
    rintro ⟨member, hmember, hgiven⟩
    simp only [List.nil_append, List.mem_cons, List.not_mem_nil, or_false] at hmember
    rcases hmember with rfl | rfl
    · exact absurd hgiven (by decide)
    · exact absurd hgiven (by decide)

/-- A key may be spelled with a surrogate that has no partner. It is no text then, hence the name of
no field, and still the member is not passed over. -/
theorem ofJson_of_unpaired_key :
    (Place.options.fill []).WrittenAs "\x7b\x7d" ∧
    (Place.options.fill [([0xD800], .flag true)]).WrittenAs "\x7b\"\\ud800\":true\x7d" ∧
    (∀ name ∈ fieldNames, keyText? [0xD800] ≠ some name) ∧
    ofJson "\x7b\x7d" = .ok {} ∧ ∃ r, ofJson "\x7b\"\\ud800\":true\x7d" = .error r := by
  have hempty : (Place.options.fill []).WrittenAs "\x7b\x7d" :=
    writtenAs_compactText (.object [])
  have hkey : SpellsText [0xD800] ['\\', 'u', 'd', '8', '0', '0'] := .code (by decide) .nil
  have hmember := Spells.member (.first isSpaces_nil) hkey isSpaces_nil isSpaces_nil (.flag true)
    (.objectEnd isSpaces_nil)
  have hunpaired : (Place.options.fill [([0xD800], .flag true)]).WrittenAs
      "\x7b\"\\ud800\":true\x7d" :=
    .intro isSpaces_nil (.object hmember) isSpaces_nil (by decide)
  exact ⟨hempty, hunpaired, by decide, ofJson_eq_ok hempty rfl, ofJson_eq_error hunpaired rfl⟩

end Options

end FrontendPolicy
