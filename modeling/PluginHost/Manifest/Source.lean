import PluginHost.Diagnostics.Traced
import PluginHost.Manifest.Decode
import PluginHost.Toml.Document

/-!
# Reading manifests

A manifest is read from the bytes of a file, decoded as text, parsed as a document and matched with
the schema. Each stage has its own error.
-/
namespace PluginHost

/-- Why a file could not be read as text. -/
inductive ReadError where
  | noSuchFile
  /-- The path goes on behind a file. -/
  | notADirectory
  | isADirectory
  /-- A part of the path, or the path itself, is too long. -/
  | nameTooLong
  | zeroInPath
  /-- The bytes are not UTF-8. -/
  | invalidText
  /-- Any other reason, in the words of the system. -/
  | other (reason : String)
deriving DecidableEq, Repr

def ReadError.message : ReadError → String
  | noSuchFile => "No such file or directory (os error 2)"
  | notADirectory => "Not a directory (os error 20)"
  | isADirectory => "Is a directory (os error 21)"
  | nameTooLong => "File name too long (os error 36)"
  | zeroInPath => "file name contained an unexpected NUL byte"
  | invalidText => "stream did not contain valid UTF-8"
  | other reason => reason

/-- The files below a directory, each with the parts of its path. -/
structure Directory where
  files : List (List String × ByteArray) := []

namespace Directory

/-- The most bytes that one part of a path may have. -/
def maxNameBytes : Nat := 255

/-- The first number of bytes that a path may not have. -/
def pathByteLimit : Nat := 4096

/-- Whether these parts lead to a directory: the root, or a directory on the way to a file. -/
def isDirectory (directory : Directory) (parts : List String) : Bool :=
  parts.isEmpty || directory.files.any fun (path, _) => parts.isPrefixOf path && path != parts

/-- Follows the parts of a path from outside the directory, where nothing is known to exist but the
directories themselves. -/
def followOutside : List String → Except ReadError ByteArray
  | [] => .error .isADirectory
  | part :: parts =>
    if part = "" ∨ part = "." ∨ part = ".." then followOutside parts
    else if maxNameBytes < part.utf8ByteSize then .error .nameTooLong
    else .error .noSuchFile

/-- Follows the parts of a path from the directory that `here` leads to. -/
def follow (directory : Directory) (here : List String) : List String → Except ReadError ByteArray
  | [] => .error .isADirectory
  | part :: parts =>
    if part = "" ∨ part = "." then directory.follow here parts
    else if part = ".." then
      -- what lies outside never leads back in
      if here.isEmpty then followOutside parts else directory.follow here.dropLast parts
    else if maxNameBytes < part.utf8ByteSize then .error .nameTooLong
    else
      let there := here ++ [part]
      match directory.files.lookup there with
      | some bytes => if parts.isEmpty then .ok bytes else .error .notADirectory
      | none =>
        if directory.isDirectory there then directory.follow there parts else .error .noSuchFile

/-- The bytes of the file that a path leads to. -/
def read (directory : Directory) (path : String) : Except ReadError ByteArray :=
  let parts := path.splitOn "/"
  if path.isEmpty then .error .noSuchFile
  else if path.contains '\x00' then .error .zeroInPath
  else if pathByteLimit ≤ path.utf8ByteSize then .error .nameTooLong
  else if parts.head? = some "" then followOutside parts
  else directory.follow [] parts

end Directory

/-- Why a text is no manifest. -/
inductive ParseError where
  | syntaxError
  | schema (error : SchemaError)
deriving DecidableEq, Repr

/-- Why a manifest could not be loaded from a file. -/
inductive LoadError where
  | unreadable (path : String) (reason : ReadError)
  | invalid (error : ParseError)
deriving DecidableEq, Repr

/-- The first line of the text of the error. -/
def LoadError.message : LoadError → String
  | unreadable path reason => s!"failed to read manifest {path}: {reason.message}"
  | invalid _ => "invalid manifest"

namespace Manifest

def parse (text : String) : Except ParseError Manifest :=
  match Toml.parse? text with
  | none => .error .syntaxError
  | some table => (ofTable table).mapError .schema

def ofBytes (path : String) (bytes : ByteArray) : Except LoadError Manifest :=
  match String.fromUTF8? bytes with
  | none => .error (.unreadable path .invalidText)
  | some text => (parse text).mapError .invalid

/-- Loads the manifest at `path`, given what reading the file there gave. -/
def load (path : String) (content : Except ReadError ByteArray) :
    Traced (Except LoadError Manifest) := do
  match content with
  | .error reason => return .error (.unreadable path reason)
  | .ok bytes =>
    match ofBytes path bytes with
    | .error error => return .error error
    | .ok manifest =>
      Traced.emit (.manifestLoaded path manifest.bindings.length)
      return .ok manifest

end Manifest

end PluginHost
