import FrontendPolicy.Proofs.Command.Line
import FrontendPolicy.Proofs.Options.Loading
import FrontendPolicy.Proofs.Options.Redundant
import FrontendPolicy.Session

/-!
# Actions in literals

An action that a JSON literal gives is the one that its text names, however the literal is written.
`Options.ActionPlace` are the ways to put such a literal into options. `action_readers_agree` takes
the last step: literals, files and command lines accept the same texts for an action.
-/

namespace FrontendPolicy

open Json

/-! ## Texts -/

namespace Session

variable {raw : String}

theorem action_eq_ok_iff {a : Action} : action raw = .ok a ↔ Action.ofText? raw = some a := by
  rw [action]
  cases Action.ofText? raw <;> simp

/-- A text that names no action is reported as it is. -/
theorem eq_unknownAction {e : Error} (h : action raw = .error e) : e = .unknownAction raw := by
  rw [action] at h
  cases hnamed : Action.ofText? raw with
  | none =>
    rw [hnamed] at h
    exact (Except.error.inj h).symm
  | some a =>
    rw [hnamed] at h
    simp at h

end Session

/-! ## Literals -/

namespace Action

variable {v : Value} {text raw : String}

/-- A literal gives the action that its text names, or is rejected with this text. The rejection has
no place, since nothing is wrong with the literal itself. -/
theorem ofJson_of_literal (h : v.WrittenAs text) (hv : v.text? = some raw) :
    ofJson text = (Session.action raw).mapError fun _ => ⟨.unknownToken raw tokens, none⟩ := by
  obtain ⟨hw, hs, hw', htext⟩ := h
  have hread := reads_text "a string" hw hs (delimited_spaces hw')
  rw [hv, ← htext] at hread
  have hrun : reader.run text.toList = ofLiteral (.ok (raw, _)) :=
    congrArg ofLiteral (toOption_eq_some hread)
  rw [ofJson, Reader.whole, hrun, Session.action, ofLiteral, ofWord?_eq_ofText?, map_words]
  cases ofText? raw with
  | none => rfl
  | some a =>
    simp only [skipSpace_spaces hw']
    rfl

/-- A value that is no text is no action. -/
theorem ofJson_of_noText (h : v.WrittenAs text) (hv : v.text? = none) :
    ∃ r, ofJson text = .error r := by
  refine reads.whole_eq_error h ?_
  rw [meaning?, hv]
  rfl

end Action

/-! ## Files -/

namespace Options

/-- A place for the action in a value of options: its member in an object, or the first element of
a list. -/
inductive ActionPlace where
  | member (before after : List (List Nat × Value)) (key : List Nat)
      (isAction : keyText? key = some "requested_action")
      (isOnly : ¬GivesKey "requested_action" (before ++ after))
  | element (rest : List Value) (short : rest.length ≤ 8)

namespace ActionPlace

/-- The value of options that gives the action by a value in the place. -/
def fill : ActionPlace → Value → Value
  | member before after key _ _, v => .object (before ++ (key, v) :: after)
  | element rest _, v => .list (v :: rest)

/-- The value of options without the action. -/
def others : ActionPlace → Value
  | member before after _ _ _ => .object (before ++ after)
  | element rest _ => .object (membersOf (fieldNames.drop 1) rest)

end ActionPlace

/-- The action of options is what its member gives, and the other members are what they are without
it. -/
theorem meaning?_insert_action {before after : List (List Nat × Value)} {key : List Nat}
    (hk : keyText? key = some "requested_action")
    (honly : ¬GivesKey "requested_action" (before ++ after)) (v : Value) :
    meaning? (.object (before ++ (key, v) :: after)) = (Action.meaning? v).bind fun a =>
      (meaning? (.object (before ++ after))).map fun o => { o with requestedAction := a } := by
  have hfield : (shape.field? "requested_action").isSome := by decide
  have hchange : change "requested_action" v =
      (Action.meaning? v).map fun a o => { o with requestedAction := a } := rfl
  cases ha : Action.meaning? v with
  | none =>
    rw [ha] at hchange
    exact interpretation.record?_of_refused_member hfield
      (List.mem_append_right before List.mem_cons_self) hk hchange
  | some a =>
    rw [ha] at hchange
    exact interpretation.record?_insert hk hfield (not_requires _) honly hchange

/-- A list gives the action by its first element, and the other fields as members would. -/
theorem meaning?_fill (place : ActionPlace) (v : Value) :
    meaning? (place.fill v) = (Action.meaning? v).bind fun a =>
      (meaning? place.others).map fun o => { o with requestedAction := a } := by
  cases place with
  | member before after key hk honly => exact meaning?_insert_action hk honly v
  | element rest hshort =>
    have honly : ¬GivesKey "requested_action" ([] ++ membersOf (fieldNames.drop 1) rest) := by
      rintro ⟨m, hm, hk⟩
      obtain ⟨⟨name, w⟩, hpair, rfl⟩ := List.mem_map.mp hm
      have hname : name = "requested_action" :=
        Option.some.inj ((keyText?_unitsOf name).symm.trans hk)
      have hother : "requested_action" ∉ fieldNames.drop 1 := by decide
      rw [← hname] at hother
      exact hother (List.of_mem_zip hpair).1
    have hform : meaning? (.object (membersOf fieldNames (v :: rest))) =
        meaning? (.list (v :: rest)) :=
      meaning?_of_givesFields (.object (Nat.succ_le_succ hshort) (List.Perm.refl _))
    exact hform.symm.trans (meaning?_insert_action (keyText?_unitsOf _) honly v)

end Options

/-! ## Command lines -/

theorem wordBytes_injective : Function.Injective wordBytes := by
  intro raw raw' h
  have hdecoded : some raw.toList = some raw'.toList := by
    rw [← Text.decode?_encode, ← Text.decode?_encode]
    exact congrArg Text.decode? h
  exact String.toList_inj.mp (Option.some.inj hdecoded)

/-- The command lines that ask for the description of what a text names, in JSON or not. -/
def DescribeLine (raw : String) (json : Bool) (args : List Argument) : Prop :=
  ∃ word ∈ Verb.describe.words, ∃ rest flags, args = wordBytes word :: rest ∧
    Verb.describe.Flags rest flags ∧ flags.Nodup ∧ positionalsOf rest = [wordBytes raw] ∧
    json = flags.contains .json

/-- Any text may stand behind the separator. -/
theorem describeLine_separator (raw : String) :
    DescribeLine raw false [wordBytes "describe", separator, wordBytes raw] :=
  ⟨"describe", by decide, _, [], rfl, flags_separator.mpr rfl, List.nodup_nil,
    positionalsOf_separator, rfl⟩

/-- Such a line describes the action that the text names. -/
theorem ofArgs_of_describeLine {raw : String} {json : Bool} {args : List Argument}
    (h : DescribeLine raw json args) {a : Action} :
    Invocation.ofArgs args = .run (.describe a json) ↔ Session.action raw = .ok a := by
  obtain ⟨word, hword, rest, flags, rfl, hflags, hnodup, hpositionals, rfl⟩ := h
  rw [ofArgs_word hword, invocation_eq_run_iff, Session.action_eq_ok_iff]
  constructor
  · rintro ⟨_, -, -, raw', a', hraw, ha, hcommand⟩
    rw [hpositionals, List.singleton_inj] at hraw
    rw [wordBytes_injective hraw, ha, (Command.describe.inj hcommand).1]
  · intro ha
    exact ⟨flags, hflags, hnodup, raw, a, hpositionals, ha, rfl⟩

/-! ## All of them -/

/-- A literal, however it is written, gives the action that its text names. Where the text names
none, both reports quote it as it was given, and no other value is an action. So `describe` takes a
text for an action just where a file does, and for the same one. -/
theorem action_readers_agree :
    -- A literal on its own.
    (∀ (v : Value) (text raw : String), v.WrittenAs text → v.text? = some raw →
      (∀ a, Action.ofJson text = .ok a ↔ Session.action raw = .ok a) ∧
      ∀ e, Session.action raw = .error e →
        e.message = "Unknown action '" ++ raw ++ "', expected one of: " ++ Action.tokenList ∧
        ∃ r, Action.ofJson text = .error r ∧ r.message =
          "unknown variant '" ++ raw ++ "', expected one of: " ++ Action.tokenList) ∧
    -- Other values, and literals whose surrogates do not pair up.
    (∀ (v : Value) (text : String), v.WrittenAs text → (∀ units, v ≠ .text units) →
      ∃ r, Action.ofJson text = .error r) ∧
    (∀ (units : List Nat) (text : String), (Value.text units).WrittenAs text →
      textOfUnits? units = none → ∃ r, Action.ofJson text = .error r) ∧
    -- A command line.
    (∀ raw json args, DescribeLine raw json args →
      ∀ a, Invocation.ofArgs args = .run (.describe a json) ↔ Session.action raw = .ok a) ∧
    -- A file, and a command line beside it.
    (∀ (place : Options.ActionPlace) (v : Value) (text raw : String) (files : Files) (path : Path),
      (place.fill v).WrittenAs text → v.text? = some raw →
      files.read path = .ok (Text.encode text.toList) →
      (∀ o, Options.load files path = .ok o ↔ ∃ a o', Session.action raw = .ok a ∧
        Options.meaning? place.others = some o' ∧ o = { o' with requestedAction := a }) ∧
      ∀ o', Options.meaning? place.others = some o' → ∀ a json args, DescribeLine raw json args →
        (Invocation.ofArgs args = .run (.describe a json) ↔
          Options.load files path = .ok { o' with requestedAction := a })) := by
  refine ⟨fun v text raw h hv => ⟨fun a => ?_, fun e he => ?_⟩, fun v text h hv => ?_,
    fun units text h hunits => ?_, fun raw json args h a => ofArgs_of_describeLine h,
    fun place v text raw files path h hv hread => ?_⟩
  · rw [Action.ofJson_of_literal h hv]
    cases Session.action raw <;> simp [Except.mapError]
  · have hcause : e = .unknownAction raw := Session.eq_unknownAction he
    refine ⟨congrArg Error.message hcause, ⟨.unknownToken raw Action.tokens, none⟩, ?_, rfl⟩
    rw [Action.ofJson_of_literal h hv, he]
    rfl
  · refine Action.ofJson_of_noText h ?_
    cases v with
    | text units => exact absurd rfl (hv units)
    | null | flag | number | list | object => rfl
  · refine Action.ofJson_of_noText h ?_
    rw [Value.text?, hunits]
    rfl
  · have hmeaning : Action.meaning? v = Action.ofText? raw := by
      rw [Action.meaning?, hv, Option.bind_some]
    have hload : ∀ o, Options.load files path = .ok o ↔ ∃ a o', Session.action raw = .ok a ∧
        Options.meaning? place.others = some o' ∧ o = { o' with requestedAction := a } := by
      intro o
      rw [Options.load_eq_ok_iff hread, Options.ofJson_eq_ok_iff h, Options.meaning?_fill, hmeaning]
      simp only [Option.bind_eq_some_iff, Option.map_eq_some_iff, Session.action_eq_ok_iff]
      constructor
      · rintro ⟨a, ha, o', ho', rfl⟩
        exact ⟨a, o', ha, ho', rfl⟩
      · rintro ⟨a, o', ha, ho', rfl⟩
        exact ⟨a, ha, o', ho', rfl⟩
    refine ⟨hload, fun o' ho' a json args hline => ?_⟩
    rw [ofArgs_of_describeLine hline, hload]
    constructor
    · exact fun ha => ⟨a, o', ha, ho', rfl⟩
    · rintro ⟨b, o'', hb, -, heq⟩
      have hab : a = b := congrArg Options.requestedAction heq
      rw [hab]
      exact hb

/-- Options that give nothing but an action. -/
def onlyActionSample : Document := .object [("requested_action", .text "Parse")]

/-- An escaped letter and a sigma in literals, and the first text in a file and in a line. -/
theorem action_readers_agree_sample :
    Action.ofJson " \"\\u0050arse\"\n" = .ok .parse ∧
    (∃ r, Action.ofJson "\"\\u03c3il\"" = .error r ∧
      r.message = "unknown variant 'σil', expected one of: " ++ Action.tokenList) ∧
    Options.load (Options.filesOf (Text.encode onlyActionSample.compactText.toList)) (.ofText "a") =
      .ok { requestedAction := .parse } ∧
    Invocation.ofArgs [wordBytes "describe", separator, wordBytes "Parse"] =
      .run (.describe .parse false) := by
  obtain ⟨hliterals, -, -, hlines, hfiles⟩ := action_readers_agree
  have hnamed : Session.action "Parse" = .ok .parse :=
    Session.action_eq_ok_iff.mpr (by decide +kernel)
  have hunnamed : Session.action "σil" = .error (.unknownAction "σil") := by
    have hnone : Action.ofText? "σil" = none := by decide +kernel
    rw [Session.action, hnone]
  have hescaped : SpellsText (unitsOf "Parse".toList) "\\u0050arse".toList :=
    .code (by decide) (spellsText_literal "arse".toList)
  have hsigma : SpellsText (unitsOf "σil".toList) "\\u03c3il".toList :=
    .code (by decide) (spellsText_literal "il".toList)
  have hescapedText : (Value.text (unitsOf "Parse".toList)).WrittenAs " \"\\u0050arse\"\n" :=
    .intro (isSpaces_replicate 1) (.text hescaped) (isSpaces_newline 0) (by decide)
  have hsigmaText : (Value.text (unitsOf "σil".toList)).WrittenAs "\"\\u03c3il\"" :=
    .intro isSpaces_nil (.text hsigma) isSpaces_nil (by decide)
  have hline := describeLine_separator "Parse"
  have hnoKey : ¬GivesKey "requested_action" ([] ++ []) := fun ⟨m, hm, _⟩ => List.not_mem_nil hm
  have hfile := hfiles (.member [] [] _ (keyText?_unitsOf "requested_action") hnoKey)
    (.text (unitsOf "Parse".toList)) _ "Parse"
    (Options.filesOf (Text.encode onlyActionSample.compactText.toList)) (.ofText "a")
    (writtenAs_compactText onlyActionSample) (text?_unitsOf _) rfl
  refine ⟨((hliterals _ _ _ hescapedText (text?_unitsOf _)).1 _).mpr hnamed, ?_,
    (hfile.1 _).mpr ⟨.parse, {}, hnamed, rfl, rfl⟩, (hlines _ _ _ hline _).mpr hnamed⟩
  exact ((hliterals _ _ _ hsigmaText (text?_unitsOf _)).2 _ hunnamed).2

end FrontendPolicy
