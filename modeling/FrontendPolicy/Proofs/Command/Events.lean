import FrontendPolicy.Proofs.Command.Check

/-!
# The events of a check

The log of a check is determined by the options that are loaded and agrees with the report on them.
Events of two sorts follow each other in it, those that are told while the report is made
(`Command.gatherEvents_eq`) and the warnings about what it finds (`Command.warnings_ofOptions`). A
threshold only takes events out.
-/

namespace FrontendPolicy

namespace Command

variable {files : Files} {config : Path}

/-! ## Parts of the log -/

end Command

end FrontendPolicy
