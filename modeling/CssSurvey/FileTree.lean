/-
A tree of files below a directory, and what reading a path in it gives. Directories are those that
the files stand in. Of the world outside of the tree only the directories above it are known.
-/
import CssSurvey.Path

namespace CssSurvey

/-- Why a file could not be read. -/
inductive ReadError where
  | notFound
  | isDirectory
  | notDirectory
  | notText
  /-- Any other reason, in the words of the system. -/
  | other (reason : Text)
deriving DecidableEq

/-- What to tell about a failed read. -/
def ReadError.message : ReadError → Text
  | notFound => "No such file or directory (os error 2)".toList
  | isDirectory => "Is a directory (os error 21)".toList
  | notDirectory => "Not a directory (os error 20)".toList
  | notText => "stream did not contain valid UTF-8".toList
  | other reason => reason

/-- The text that some bytes encode. -/
def decodeText (bytes : ByteArray) : Except ReadError Text :=
  match String.fromUTF8? bytes with
  | some text => .ok text.toList
  | none => .error .notText

/-- Files with the parts of the path to each, from the directory of the tree. -/
structure FileTree where
  files : List (List Text × ByteArray)

namespace FileTree

/-- The tree of files at the given paths. -/
def ofList (files : List (Text × ByteArray)) : FileTree :=
  ⟨files.map fun (path, bytes) => ((Path.parts path).filter (!Path.isStay ·), bytes)⟩

/-- The content of the file at a path; of two files at one path the later counts. -/
def file? (tree : FileTree) (path : List Text) : Option ByteArray :=
  (tree.files.reverse.find? (·.1 = path)).map Prod.snd

/-- Whether a path is that of a directory: the tree itself, or one that a file stands in. -/
def isDirectory (tree : FileTree) (path : List Text) : Bool :=
  path.isEmpty || tree.files.any fun (file, _) => path.isPrefixOf file && file ≠ path

/-- Where a walk along a path stands. -/
inductive Place where
  | inside (directory : List Text)
  | outside
  | file (content : ByteArray)

/-- One step of a walk. A file leads nowhere, not even to itself. -/
def enter (tree : FileTree) (place : Place) (part : Text) : Except ReadError Place :=
  match place with
  | .file _ => .error .notDirectory
  | .outside => if Path.isStay part || Path.isUp part then .ok .outside else .error .notFound
  | .inside directory =>
    if Path.isStay part then .ok place
    else if Path.isUp part then
      .ok (if directory.isEmpty then .outside else .inside directory.dropLast)
    else
      let path := directory ++ [part]
      match tree.file? path with
      | some content => .ok (.file content)
      | none => if tree.isDirectory path then .ok (.inside path) else .error .notFound

/-- Where a path starts: with a slash in front, at the root of all files. -/
def start (path : Text) : Place := if path.head? = some '/' then .outside else .inside []

/-- Reads the text at a path. -/
def read (tree : FileTree) (path : Text) : Except ReadError Text :=
  if path.isEmpty then .error .notFound
  else
    match (Path.parts path).foldlM tree.enter (start path) with
    | .error reason => .error reason
    | .ok (.file content) => decodeText content
    | .ok _ => .error .isDirectory

end FileTree

end CssSurvey
