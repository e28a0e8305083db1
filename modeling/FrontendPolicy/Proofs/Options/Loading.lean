import Mathlib.Control.Monad.Basic
import FrontendPolicy.Options.Json
import FrontendPolicy.Proofs.Json.Placed
import FrontendPolicy.Proofs.Text.Utf8
import FrontendPolicy.Store

/-!
# Loading agrees with reading a text

Options are loaded from a file as they are read from the text in it, and both ways to get at options
give the same, down to the line and the column of what is wrong. `Options.load_cases` is all that
can come of loading a file.
-/

namespace FrontendPolicy

open Json

/-- What is read through a path is the file that it leads to. -/
theorem Store.read_eq_ok_iff {s : Store} {p : Path} {data : List UInt8} :
    s.read p = .ok data ↔ ∃ l, s.locate p = .ok (l, .file data) := by
  unfold read
  rcases s.locate p with fault | ⟨l, data' | _⟩ <;> simp

namespace Options

variable {files : Files} {path : Path}

/-! ## What comes of loading -/

theorem load_of_fault {fault : FileFault} (h : files.read path = .error fault) :
    load files path = .error (.file fault) := by
  simp only [load, h]

theorem load_of_noText {bytes : List UInt8} (h : files.read path = .ok bytes)
    (hb : ∀ text : String, bytes ≠ Text.encode text.toList) :
    load files path = .error (.file .notText) := by
  simp only [load, h, ofBytes, Text.decode?_eq_none_iff.mpr hb]

theorem load_of_text {text : String} (h : files.read path = .ok (Text.encode text.toList)) :
    load files path = (ofJson text).mapError .badFile := by
  simp only [load, h, ofBytes, Text.decode?_encode, String.ofList_toList]
  cases ofJson text <;> rfl

theorem load_eq_ok_iff {text : String} {o : Options}
    (h : files.read path = .ok (Text.encode text.toList)) :
    load files path = .ok o ↔ ofJson text = .ok o := by
  rw [load_of_text h]
  cases ofJson text <;> simp [Except.mapError]

/-- A file cannot be read, is no text, or is read as its text is. -/
theorem load_cases (files : Files) (path : Path) :
    (∃ fault, files.read path = .error fault ∧ load files path = .error (.file fault)) ∨
      (∃ bytes, files.read path = .ok bytes ∧ (∀ text : String, bytes ≠ Text.encode text.toList) ∧
        load files path = .error (.file .notText)) ∨
      ∃ text : String, files.read path = .ok (Text.encode text.toList) ∧
        load files path = (ofJson text).mapError .badFile := by
  cases h : files.read path with
  | error fault => exact Or.inl ⟨fault, rfl, load_of_fault h⟩
  | ok bytes =>
    cases hd : Text.decode? bytes with
    | none =>
      have hb := Text.decode?_eq_none_iff.mp hd
      exact Or.inr (Or.inl ⟨bytes, rfl, hb, load_of_noText h hb⟩)
    | some cs =>
      have hb : bytes = Text.encode (String.ofList cs).toList := by
        rw [String.toList_ofList]
        exact Text.decode?_eq_some_iff.mp hd
      rw [hb] at h ⊢
      exact Or.inr (Or.inr ⟨String.ofList cs, rfl, load_of_text h⟩)

/-- A file is refused for what it says if it holds a text that is rejected, and for nothing else. -/
theorem load_configuration_error_iff :
    (∃ e, load files path = .error e ∧ e.kind = .configuration) ↔
      ∃ (text : String) (r : Rejection), files.read path = .ok (Text.encode text.toList) ∧
        ofJson text = .error r := by
  constructor
  · rintro ⟨e, he, hkind⟩
    rcases load_cases files path with ⟨fault, -, hl⟩ | ⟨bytes, -, -, hl⟩ | ⟨text, ht, hl⟩
    · rw [← Except.error.inj (hl.symm.trans he)] at hkind
      cases hkind
    · rw [← Except.error.inj (hl.symm.trans he)] at hkind
      cases hkind
    · cases hr : ofJson text with
      | error r => exact ⟨text, r, ht, hr⟩
      | ok o =>
        rw [hl, hr] at he
        cases he
  · rintro ⟨text, r, ht, hr⟩
    refine ⟨.badFile r, ?_, rfl⟩
    rw [load_of_text ht, hr]
    rfl

/-! ## Lines and columns -/

/-- A text that is rejected is rejected at a line and a column, which count its bytes. -/
theorem message_of_ofJson {text : String} {r : Rejection} (h : ofJson text = .error r) :
    ∃ (n : Nat) (p : Position), p = .after ((Text.encode text.toList).take n) ∧
      r.message = r.cause.message ++ " at line " ++ toString p.line ++ " column " ++
        toString p.column := by
  obtain ⟨n, hn⟩ := Reader.position_of_whole_record h
  refine ⟨n, _, rfl, ?_⟩
  rw [Rejection.message, hn]

/-! ## Both ways -/

/-- Loading a file agrees with reading the text in it: the same options come of both, and where the
text is rejected, the file is so in the same words with the same line and column, which count the
bytes of the file. Bytes that are no text are a fault of the file, whatever text they start with,
and so is a path that leads to a directory or to nothing. -/
theorem load_agrees_with_text :
    -- A file that holds a text.
    (∀ (files : Files) (path : Path) (text : String),
      files.read path = .ok (Text.encode text.toList) →
      (∀ o, load files path = .ok o ↔ ofJson text = .ok o) ∧
      ∀ r, ofJson text = .error r → ∃ e, load files path = .error e ∧ e.kind = .configuration ∧
        e.message = "Configuration error: Failed to parse frontend options: " ++ r.message ∧
        ∃ (n : Nat) (p : Position), p = .after ((Text.encode text.toList).take n) ∧
          r.message = r.cause.message ++ " at line " ++ toString p.line ++ " column " ++
            toString p.column) ∧
    -- A file that holds other bytes.
    (∀ (files : Files) (path : Path) (bytes : List UInt8), files.read path = .ok bytes →
      (∀ text : String, bytes ≠ Text.encode text.toList) →
      ∃ e, load files path = .error e ∧ e.kind = .file) ∧
    (∀ (files : Files) (path : Path) (text : String) (rest : List UInt8),
      files.read path = .ok (Text.encode text.toList ++ rest) →
      (∀ tail : String, rest ≠ Text.encode tail.toList) →
      ∃ e, load files path = .error e ∧ e.kind = .file) ∧
    -- A path that leads to a directory or to nothing.
    (∀ (s : Store) (path : Path) (l : Location), s.locate path = .ok (l, .directory) →
      ∃ e, load s.files path = .error e ∧ e.kind = .file) ∧
    (∀ (s : Store) (path : Path) (fault : FileFault), s.locate path = .error fault →
      ∃ e, load s.files path = .error e ∧ e.kind = .file) ∧
    -- What is refused for what it says.
    (∀ (s : Store) (path : Path),
      (∃ e, load s.files path = .error e ∧ e.kind = .configuration) ↔
        ∃ (l : Location) (text : String) (r : Rejection),
          s.locate path = .ok (l, .file (Text.encode text.toList)) ∧ ofJson text = .error r) := by
  refine ⟨fun files path text ht => ⟨fun o => ?_, fun r hr => ?_⟩, fun files path bytes h hb => ?_,
    fun files path text rest h hrest => ?_, fun s path l h => ?_, fun s path fault h => ?_,
    fun s path => ?_⟩
  · rw [load_of_text ht]
    cases ofJson text <;> simp [Except.mapError]
  · refine ⟨.badFile r, ?_, rfl, rfl, message_of_ofJson hr⟩
    rw [load_of_text ht, hr]
    rfl
  · exact ⟨_, load_of_noText h hb, rfl⟩
  · exact ⟨_, load_of_noText h ((Text.encode_append_ne_iff text rest).mpr hrest), rfl⟩
  · exact ⟨_, load_of_fault (show s.read path = .error .isDirectory by rw [Store.read, h]), rfl⟩
  · exact ⟨_, load_of_fault (show s.read path = .error fault by rw [Store.read, h]), rfl⟩
  · rw [load_configuration_error_iff]
    constructor
    · rintro ⟨text, r, ht, hr⟩
      obtain ⟨l, hl⟩ := Store.read_eq_ok_iff.mp ht
      exact ⟨l, text, r, hl, hr⟩
    · rintro ⟨l, text, r, hl, hr⟩
      exact ⟨text, r, Store.read_eq_ok_iff.mpr ⟨l, hl⟩, hr⟩

/-- A text of two lines in which a colon is missing after a key of four bytes. -/
def missingColonText : String := "\x7b\n\"é\" 1\x7d"

/-- A view in which every file holds the given bytes. -/
def filesOf (bytes : List UInt8) : Files := ⟨fun _ => .ok bytes, fun _ => false⟩

/-- The missing colon is reported where it should be, but bytes after it that are no text are a
fault of the file. -/
theorem load_agrees_with_text_sample :
    ofJson missingColonText = .error ⟨.expectedColon, some ⟨2, 6⟩⟩ ∧
    (∃ e, load (filesOf (Text.encode missingColonText.toList)) (.ofText "a") = .error e ∧
      e.message = "Configuration error: Failed to parse frontend options: " ++
        "expected `:` at line 2 column 6") ∧
    ∃ e, load (filesOf (Text.encode missingColonText.toList ++ [0xC3])) (.ofText "a") = .error e ∧
      e.kind = .file := by
  have hr : ofJson missingColonText = .error ⟨.expectedColon, some ⟨2, 6⟩⟩ := by
    decide +kernel
  have hstray : ∀ tail : String, [0xC3] ≠ Text.encode tail.toList :=
    Text.decode?_eq_none_iff.mp (by decide +kernel)
  obtain ⟨htext, -, hafter, -⟩ := load_agrees_with_text
  obtain ⟨e, he, -, hmessage, -⟩ :=
    (htext (filesOf (Text.encode missingColonText.toList)) (.ofText "a") _ rfl).2 _ hr
  refine ⟨hr, ⟨e, he, ?_⟩, hafter _ (.ofText "a") missingColonText [0xC3] rfl hstray⟩
  rw [hmessage]
  decide +kernel

end Options

end FrontendPolicy
