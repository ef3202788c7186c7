import GroundedAnswers.Text.Utf8

namespace GroundedAnswers

/-! Reading files as texts. -/

inductive FileFault where
  | missing
  | directory
  /-- The path goes through something that is no directory. -/
  | notDirectory
  | notText
  | other (message : String)
  deriving DecidableEq, Repr

def FileFault.message : FileFault → String
  | missing => "No such file or directory (os error 2)"
  | directory => "Is a directory (os error 21)"
  | notDirectory => "Not a directory (os error 20)"
  | notText => "stream did not contain valid UTF-8"
  | other message => message

abbrev FileReader := String → Except FileFault (List UInt8)

def FileReader.text (reader : FileReader) (path : String) : Except FileFault String := do
  match Text.Utf8.decode? (← reader path) with
  | some text => return text
  | none => throw .notText

/-! ## Files kept in memory -/

structure FileTree where
  files : List (List String × List UInt8)

namespace FileTree

/-- The names in a path, without those that stay where they are. -/
def names (path : String) : List String :=
  (path.splitOn "/").filter fun name => name ≠ "" && name ≠ "."

def ofList (files : List (String × List UInt8)) : FileTree :=
  ⟨files.map fun (path, content) => (names path, content)⟩

def endsAsDirectory (path : String) : Bool :=
  path.endsWith "/" || path.endsWith "/."

/-- Read a file. Outside of the working directory there are only directories above it. -/
def read (tree : FileTree) : FileReader := fun path =>
  let wanted := names path
  match tree.files.lookup wanted with
  | some content => if endsAsDirectory path then .error .notDirectory else .ok content
  | none =>
      if wanted.all (· = "..") || tree.files.any (wanted.isPrefixOf ·.1) then .error .directory
      else if tree.files.any (·.1.isPrefixOf wanted) then .error .notDirectory
      else .error .missing

end FileTree

end GroundedAnswers
