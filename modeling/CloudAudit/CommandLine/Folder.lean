import CloudAudit.AuditMap.Load
import CloudAudit.Path

/-! Files in one folder, for runs that look nowhere else. A path leads into the folder if it starts
with the folder's name; of what lies outside only the folders above are known to be there. -/
namespace CloudAudit.CommandLine

structure Folder where
  name : String
  files : List (String × ByteArray)

namespace Folder

def stays (piece : String) : Bool := piece = "" || piece = "."

/-- Only steps upward are known to lead somewhere. -/
def outside (pieces : List String) : FileEntry :=
  if pieces.all fun piece => stays piece || piece = ".." then .directory else .absent

/-- Nothing stands below a file, not even the file itself under a closing slash. -/
def inside (folder : Folder) : List String → FileEntry
  | [] => .directory
  | piece :: rest =>
    if stays piece then inside folder rest
    else if piece = ".." then outside rest
    else match folder.files.lookup piece, rest with
      | some content, [] => .file content
      | _, _ => .absent

def entry (folder : Folder) (path : String) : FileEntry :=
  match (Path.pieces path).dropWhile (·.isEmpty) with
  | [] => outside []
  | piece :: rest => if piece = folder.name then folder.inside rest else outside (piece :: rest)

end Folder

end CloudAudit.CommandLine
