import Pretext.Failure

/-! Trees of files, and what a path leads to. A path is walked name by name, so that of several
faults the first on the way is told. Names and paths are bytes, which need not be a text. -/
namespace Pretext

/-- A file with its bytes, or a directory with what it holds under which names. -/
inductive FileTree where
  | file (bytes : List UInt8)
  | directory (entries : List (List UInt8 × FileTree))

namespace FileTree

/-- The byte between two names of a path. -/
def separator : UInt8 := 0x2F

/-- A directory's name for itself. -/
def selfName : List UInt8 := [0x2E]

/-- A directory's name for the directory that holds it. -/
def parentName : List UInt8 := [0x2E, 0x2E]

/-- A name has at most so many bytes. -/
def nameLimit : Nat := 255

/-- A path has fewer bytes than this. -/
def pathLimit : Nat := 4096

/-- The names in a path, the first of which began with `name`, which is collected backwards. A name
is empty where a separator begins or ends the path or follows another one. -/
def namesFrom (name : List UInt8) : List UInt8 → List (List UInt8)
  | [] => [name.reverse]
  | byte :: rest =>
    if byte = separator then name.reverse :: namesFrom [] rest else namesFrom (byte :: name) rest

/-- Where names lead from `here`. The directories around `here` are `above`, the nearest first, and
the outermost is its own parent. Every name, an empty one too, asks for a directory. -/
def walk (above : List FileTree) (here : FileTree) : List (List UInt8) → Except FileFault FileTree
  | [] => .ok here
  | name :: rest =>
    match here with
    | .file _ => .error .notDirectory
    | .directory entries =>
      if name.isEmpty || name == selfName then walk above here rest
      else if name == parentName then
        match above with
        | [] => walk [] here rest
        | parent :: above => walk above parent rest
      else if nameLimit < name.length then .error .nameTooLong
      else
        match entries.lookup name with
        | none => .error .missing
        | some next => walk (here :: above) next rest

/-- The bytes of the file that a path leads to. A path that begins with a separator starts at the
root, any other in the directory `home`, which the root holds. -/
def read (root home : FileTree) (path : List UInt8) : Except FileFault (List UInt8) :=
  if path.contains 0 then .error .zeroByte
  else if path.isEmpty then .error .missing
  else if pathLimit ≤ path.length then .error .nameTooLong
  else
    let names := namesFrom [] path
    let found := if path.head? = some separator then walk [] root names else walk [root] home names
    match found with
    | .error fault => .error fault
    | .ok (.directory _) => .error .directory
    | .ok (.file bytes) => .ok bytes

end FileTree

end Pretext
