import TemplateTrace.Trace.Error

/-!
# Input from outside

Bytes that should be text: the files that the program can read, and the lines of its standard
input. Text is UTF-8, and bytes that are not are an error of the file or of the line that they
stand in.
-/

namespace TemplateTrace

/-- The text that bytes spell. -/
def decodeText (bytes : ByteArray) : Except FileError String :=
  match String.fromUTF8? bytes with
  | some text => .ok text
  | none => .error .notUtf8

/-- The line without the carriage return that belongs to its line end. -/
def dropReturnByte (line : List UInt8) : List UInt8 :=
  if line.getLast? = some 13 then line.dropLast else line

/-- The lines of the standard input, without their ends; a line that is no text is an error. -/
def inputLines (bytes : ByteArray) : List (Except FileError String) :=
  let pieces := bytes.toList.splitOn 10
  let ended := pieces.dropLast.map dropReturnByte
  let all := match pieces.getLast? with
    | none | some [] => ended
    | some rest => ended ++ [rest]
  all.map fun line => decodeText ⟨line.toArray⟩

/-- A directory that holds files and no other directory. -/
structure Folder where
  /-- The names of the files and their contents. -/
  files : List (String × ByteArray)

namespace Folder

/-- The names in a relative path, without those that stay where they are. -/
def steps (path : String) : List String :=
  ((path.toList.splitOn '/').map String.ofList).filter fun step => step ≠ "" && step ≠ "."

/-- Whether a path can only lead to a directory. -/
def endsInDirectory (path : String) : Bool :=
  match ((path.toList.splitOn '/').map String.ofList).getLast? with
  | some last => last = "" || last = "."
  | none => true

/-- The number of bytes that no path has. -/
def pathBound : Nat := 4096

/-- The most bytes that a name in a path has. -/
def maxNameBytes : Nat := 255

/-- The text of the file that a path leads to. Outside of the directory nothing is known but that
it has parents. Names are looked up one by one, so only the first one that is no parent can be
found to be too long. -/
def read (folder : Folder) (path : String) : Except FileError String :=
  if path = "" then .error .notFound
  else if pathBound ≤ path.utf8ByteSize then .error .nameTooLong
  else match (steps path).dropWhile (· = "..") with
    | [] => .error .isDirectory
    | name :: rest =>
        if maxNameBytes < name.utf8ByteSize then .error .nameTooLong
        else if path.toList.head? = some '/' || (steps path).head? = some ".." then
          .error .notFound
        else match folder.files.lookup name with
          | none => .error .notFound
          | some bytes =>
              if rest.isEmpty && !endsInDirectory path then decodeText bytes
              else .error .notADirectory

end Folder

end TemplateTrace
