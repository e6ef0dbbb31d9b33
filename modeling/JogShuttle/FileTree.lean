import JogShuttle.Device
import JogShuttle.Rule.File

/-!
# File trees

A tree of directories and files, and what a path leads to in it. Names are followed one by one, so
that every name but the last must be that of a directory, also in front of a step up.
-/

set_option autoImplicit false

namespace JogShuttle

/-- What stands at a place of a file tree. -/
inductive FileEntry where
  | directory
  | file (content : List UInt8)
deriving DecidableEq, Inhabited

/-- What stands below the root, by the names that lead there, and the names that lead to the working
directory. Both are directories. -/
structure FileTree where
  entries : List (List String × FileEntry)
  current : List String := []

namespace FileTree

/-- No name is longer, counted in bytes. -/
def nameLimit : Nat := 255

/-- A whole path is shorter, counted in bytes. -/
def pathLimit : Nat := 4096

def entry? (t : FileTree) (place : List String) : Option FileEntry :=
  if place.isEmpty || place == t.current then some .directory else t.entries.lookup place

/-- Follows names from a place. -/
def follow (t : FileTree) (file : String) (place : List String) :
    List String → Except SystemError FileEntry
  | [] =>
    match t.entry? place with
    | some e => .ok e
    | none => .error (.missing file)
  | name :: names =>
    match t.entry? place with
    | none => .error (.missing file)
    | some (.file _) => .error (.notDirectory file)
    | some .directory =>
      if name.utf8ByteSize > nameLimit then .error (.nameTooLong file)
      else t.follow file (if name = ".." then place.dropLast else place ++ [name]) names

def find (t : FileTree) (p : Path) : Except SystemError FileEntry :=
  if p.text.utf8ByteSize ≥ pathLimit then .error (.nameTooLong p.text)
  else t.follow p.text (if p.isAbsolute then [] else t.current) p.names

/-- What is read at a path. Every file was last changed at the same time. -/
def view (t : FileTree) (p : Path) : FileView :=
  match t.find p with
  | .error e => ⟨.error e, .error e⟩
  | .ok .directory => ⟨.ok 1, .error (.isDirectory p.text)⟩
  | .ok (.file content) => ⟨.ok 1, .ok content⟩

/-- Why a path cannot be opened as a device. -/
def deviceError? (t : FileTree) (p : Path) : Option SystemError :=
  match t.find p with
  | .error e => some e
  | .ok .directory => some (.isDirectory p.text)
  | .ok (.file _) => none

/-- What comes of opening a path as a device, given the sessions of every device. -/
def sessions (t : FileTree) (given : List Session) (p : Path) : List Session :=
  match t.deviceError? p with
  | some e => [{ opening := .unreachable e }]
  | none => given

theorem deviceError?_eq_none_iff {t : FileTree} {p : Path} :
    t.deviceError? p = none ↔ ∃ content, t.find p = .ok (.file content) := by
  unfold deviceError?
  split <;> simp_all

end FileTree

end JogShuttle
