import FrontendPolicy.Action.Reader
import FrontendPolicy.Error
import FrontendPolicy.Options.Basic

/-!
# Options in JSON

Writing leaves out side outputs that are not set, and there is no written form if the path of an
input is no text (`Options.document?`). Reading goes by `Options.shape`, in which every field has a
default, so that any of them may be missing. `Options.ofJson` reads a text and `Options.load` a
file.
-/

namespace FrontendPolicy

open Json

namespace Options

/-! ## Writing -/

/-- The member for the path of a side output, if it is set. -/
def sideMember (key : String) : Option String → List (String × Document)
  | none => []
  | some path => [(key, .text path)]

/-- The members of the written form, given the form of the inputs. -/
def members (o : Options) (inputs : Document) : List (String × Document) :=
  [("requested_action", .text o.requestedAction.token),
    ("output_filenames", .list (o.outputFilenames.map .text))] ++
  sideMember "module_output_path" o.modulePath ++
  sideMember "module_doc_output_path" o.moduleDocPath ++
  sideMember "objc_header_output_path" o.objcHeaderPath ++
  sideMember "dependencies_file_path" o.dependenciesPath ++
  sideMember "loaded_module_trace_path" o.loadedModuleTracePath ++
  [("module_name", .text o.moduleName), ("inputs", inputs)]

/-- The written form of options, if every input path is well-formed text. -/
def document? (o : Options) : Option Document :=
  o.inputs.document?.map fun inputs => .object (o.members inputs)

/-- The options as compact JSON. -/
def toJson (o : Options) : Except Error String :=
  match o.document? with
  | some d => .ok d.compactText
  | none => .error .unwritableText

/-- The options as they are written to a file. -/
def fileText (o : Options) : Except Error String :=
  match o.document? with
  | some d => .ok d.prettyText
  | none => .error .unwritablePath

/-! ## Reading -/

/-- The field of a side output, which may be null. -/
def sideField (name : String) (k : SideOutput) : RecordField Options :=
  ⟨name, false, (Reader.text "a string").optional.map fun path o => o.setSidePath k path⟩

/-- How options are written. -/
def shape : Shape Options where
  title := "struct FrontendOptions"
  blank := {}
  fields :=
    [⟨"requested_action", false, Action.reader.map fun a o => { o with requestedAction := a }⟩,
      ⟨"output_filenames", false,
        (Reader.list (Reader.text "a string")).map fun names o =>
          { o with outputFilenames := names }⟩,
      sideField "module_output_path" .module,
      sideField "module_doc_output_path" .moduleDoc,
      sideField "objc_header_output_path" .objcHeader,
      sideField "dependencies_file_path" .dependencies,
      sideField "loaded_module_trace_path" .loadedModuleTrace,
      ⟨"module_name", false,
        (Reader.text "a string").map fun name o => { o with moduleName := name }⟩,
      ⟨"inputs", false, Inputs.reader.map fun inputs o => { o with inputs := inputs }⟩]

/-- Reads options. -/
def reader : Reader Options := Reader.record shape

/-- The options that a JSON text denotes. -/
def ofJson (text : String) : Except Rejection Options := reader.whole text

/-- The options that the bytes of a file denote. -/
def ofBytes (bytes : List UInt8) : Except Error Options :=
  match Text.decode? bytes with
  | none => .error (.file .notText)
  | some cs =>
    match ofJson (String.ofList cs) with
    | .error r => .error (.badFile r)
    | .ok o => .ok o

/-- The options in a file. -/
def load (files : Files) (path : Path) : Except Error Options :=
  match files.read path with
  | .error fault => .error (.file fault)
  | .ok bytes => ofBytes bytes

end Options

end FrontendPolicy
