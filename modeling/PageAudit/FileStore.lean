import PageAudit.Path
import PageAudit.Text.Encoding

/-!
# Files

A file store holds the files below a working directory, whose names are bytes. Reading a path walks
it part by part, and the first part that cannot be passed decides what is refused; what lies above
the working directory is not known to the store.
-/

namespace PageAudit

/-- Why the file system refuses a file: the number of its error, and the error in words. -/
structure FileFault.Cause where
  code : Nat
  message : Text
  deriving DecidableEq, Repr

/-- A file that cannot be read. -/
inductive FileFault where
  /-- A file that the file system refuses. -/
  | refused (cause : FileFault.Cause) (path : Path)
  /-- A path that holds the null character. -/
  | embeddedNull
  /-- A path that no bytes spell. -/
  | unencodable (u : Text.Unencodable)
  deriving DecidableEq, Repr

namespace FileFault

/-- No file is there. -/
def Cause.missing : Cause := { code := 2, message := "No such file or directory" }

/-- The path goes on behind a file. -/
def Cause.notDirectory : Cause := { code := 20, message := "Not a directory" }

/-- What is there is a directory. -/
def Cause.isDirectory : Cause := { code := 21, message := "Is a directory" }

/-- The path, or a part of it, has too many bytes. -/
def Cause.nameTooLong : Cause := { code := 36, message := "File name too long" }

/-- The fault in words. -/
def message : FileFault → Text
  | .refused cause path =>
    "[Errno " ++ toString cause.code ++ "] " ++ cause.message ++ ": " ++ Text.quoted path.text
  | .embeddedNull => "embedded null byte"
  | .unencodable u => u.message

end FileFault

/-- How files are read: the bytes at a path. -/
abbrev FileReader := Path → Except FileFault (List UInt8)

/-- What stands at a path. -/
inductive FileStore.Node where
  | file (bytes : List UInt8)
  | directory
  deriving DecidableEq, Repr

/-- The name of a file or directory. -/
abbrev FileName := List UInt8

/-- The files below a working directory, each with the parts of its path. -/
structure FileStore where
  entries : List (List FileName × FileStore.Node) := []

namespace FileStore

/-- The greatest number of bytes in one part of a path. -/
def maxPartSize : Nat := 255

/-- The least number of bytes that is too many for a path. -/
def pathSizeBound : Nat := 4096

/-- A place in the file system: some steps up from the working directory, then down again. -/
structure Place where
  up : Nat := 0
  /-- The parts gone down, last first. -/
  down : List FileName := []

/-- One step up. -/
def Place.parent (place : Place) : Place :=
  match place.down with
  | [] => { place with up := place.up + 1 }
  | _ :: rest => { place with down := rest }

/-- One step down. -/
def Place.enter (place : Place) (part : FileName) : Place :=
  { place with down := part :: place.down }

/-- What stands at a place. A directory is known by its own entry or by one below it. -/
def node? (store : FileStore) (place : Place) : Option Node :=
  let parts := place.down.reverse
  if place.up ≠ 0 then (if parts = [] then some .directory else none)
  else
    match store.entries.find? (·.1 == parts) with
    | some (_, node) => some node
    | none =>
      if parts = [] ∨ store.entries.any (fun e => parts.isPrefixOf e.1) then some .directory
      else none

/-- The name that leads up: two dots. -/
def parentName : FileName := [0x2e, 0x2e]

/-- Walks from a directory. -/
def walk (store : FileStore) (place : Place) : List FileName → Except FileFault.Cause (List UInt8)
  | [] => .error .isDirectory
  | part :: parts =>
    if part = parentName then walk store place.parent parts
    else if part.length > maxPartSize then .error .nameTooLong
    else
      match store.node? (place.enter part) with
      | none => .error .missing
      | some .directory => walk store (place.enter part) parts
      | some (.file bytes) => if parts = [] then .ok bytes else .error .notDirectory

/-- The bytes of a part of a path. -/
def partName (part : Text) : FileName := part.flatMap fun c => (Text.nameBytes? c).getD []

/-- The bytes at a path. -/
def read (store : FileStore) : FileReader := fun path =>
  match Text.encode Text.nameBytes? path.text with
  | .error u => .error (.unencodable u)
  | .ok bytes =>
    if bytes.contains 0 then .error .embeddedNull
    else if bytes.length ≥ pathSizeBound then .error (.refused .nameTooLong path)
    else
      let place : Place := match path.origin with
        | .working => {}
        | _ => { up := 1 }
      (store.walk place (path.parts.map partName)).mapError (.refused · path)

end FileStore

end PageAudit
