import TermSnap.Fault
/-!
# Opening a path

A path is written as UTF-8 bytes, where U+DC80 to U+DCFF stand for single bytes; a null character
or 4096 bytes or more is refused. It is then followed part by part from the root or the working
directory, and a name of more than 255 bytes is too long. The system is the one every Linux system
has: the standard directories, the null device and the password file.
-/

namespace TermSnap.Cli

def isSurrogate : Point → Bool
  | .surrogate _ => true
  | .char _ => false

/-- Whether a code point cannot be written as bytes: a surrogate outside U+DC80..U+DCFF. -/
def unwritable : Point → Bool
  | .surrogate o => o.val < 0x480 || 0x500 ≤ o.val
  | .char _ => false

/-- The span from the first code point that cannot be written, by `bad`, to the end of the
surrogates after it, as an encoder reports it. -/
def spanFrom? (bad : Point → Bool) (t : Text) : Option (Nat × Nat) :=
  (t.findIdx? bad).map fun k => (k, k + ((t.drop k).takeWhile isSurrogate).length)

/-- The span of a path that cannot be written as a path, where a surrogate that stands for a
byte can. -/
def unwritableSpan? (path : Text) : Option (Nat × Nat) := spanFrom? unwritable path

/-- The fault of writing a text in UTF-8, where no surrogate can be written. -/
def writeFault? (t : Text) : Option Fault :=
  (spanFrom? isSurrogate t).map fun (start, stop) =>
    .unwritable ((t[start]?.map Point.code).getD 0) start stop

def byteSize : Point → Nat
  | .char c => c.utf8Size
  | .surrogate _ => 1

def byteLength : Text → Nat
  | [] => 0
  | p :: rest => byteSize p + byteLength rest

/-- The parts of a path between slashes, in order; a path without slashes is one part. -/
def pathParts (path : Text) : List Text :=
  path.foldr (fun p parts =>
    if p.is '/' then [] :: parts
    else match parts with
      | part :: more => (p :: part) :: more
      | [] => [[p]]) [[]]

/-- The directories of the system, by their parts from the root. -/
def systemDirectories : List String :=
  ["bin", "boot", "dev", "dev/pts", "dev/shm", "etc", "home", "lib", "media", "mnt", "opt", "proc",
   "root", "run", "sbin", "srv", "sys", "tmp", "usr", "usr/bin", "usr/include", "usr/lib",
   "usr/local", "usr/local/bin", "usr/local/lib", "usr/sbin", "usr/share", "var", "var/cache",
   "var/lib", "var/log", "var/tmp"]

/-- The files of the system, by their parts from the root, with the text they read as. -/
def systemFiles : List (String × String) :=
  [("dev/null", ""), ("etc/passwd", "root:x:0:0:root:/root:/bin/bash\n")]

def partsOf (name : String) : List Text := (name.splitOn "/").map Text.ofString

/-- What the system has at a path given by its parts from the root. -/
inductive Entry where
  /-- A directory. -/
  | directory
  /-- A file that reads as this text. -/
  | file (text : Text)

def systemEntry? (parts : List Text) : Option Entry :=
  if parts.isEmpty || systemDirectories.any (partsOf · = parts) then some .directory
  else (systemFiles.find? (partsOf ·.1 = parts)).map fun (_, text) => .file (Text.ofString text)

/-- Where a walk through a path stands: a system directory, or the working directory or one above
it, whose entries are not known. -/
inductive Place where
  | system (parts : List Text)
  | working

/-- Follows the names of a path from a directory: each name but the last must lead to a directory,
and so must the last when `directoryAtEnd`. -/
def walk (path : Text) (directoryAtEnd : Bool) : Place → List Text → Except Fault Text
  | _, [] => .error (.isDirectory path)
  | place, name :: more =>
    if name = Text.ofString "." then walk path directoryAtEnd place more
    else if name = Text.ofString ".." then
      match place with
      | .system parts => walk path directoryAtEnd (.system parts.dropLast) more
      | .working => walk path directoryAtEnd .working more
    else if 255 < byteLength name then .error (.nameTooLong path)
    else
      match place with
      | .working => .error (.missingFile path)
      | .system parts =>
        match systemEntry? (parts ++ [name]) with
        | none => .error (.missingFile path)
        | some .directory => walk path directoryAtEnd (.system (parts ++ [name])) more
        | some (.file text) =>
          if more.isEmpty && !directoryAtEnd then .ok text else .error (.notADirectory path)

/-- Opens a path on the system: its bytes, a null character and its length are checked first,
then its parts are followed. -/
def openSystemPath (path : Text) : Except Fault Text :=
  match unwritableSpan? path with
  | some (start, stop) => .error (.unwritable ((path[start]?.map Point.code).getD 0) start stop)
  | none =>
    if path.contains (.char '\x00') then .error .nullByte
    else if 4096 ≤ byteLength path then .error (.nameTooLong path)
    else if path.isEmpty then .error (.missingFile path)
    else
      let start := if path.head? = some (.char '/') then Place.system [] else .working
      let names := (pathParts path).filter (!·.isEmpty)
      walk path (path.getLast? = some (.char '/')) start names

/-- Opens a file by its number: one outside a C `int` is taken as a path, one below zero is
refused, 0 reads as empty, and 1 and 2 cannot be read. -/
def openDescriptor (kind : Kind) (n : Int) : Except Fault Text :=
  if n < -2147483648 ∨ 2147483647 < n then .error (.notAPath kind)
  else if n < 0 then .error .negativeDescriptor
  else if n = 0 then .ok []
  else .error .badDescriptor

theorem byteLength_append (s t : Text) : byteLength (s ++ t) = byteLength s + byteLength t := by
  induction s with
  | nil => simp [byteLength]
  | cons p rest ih => simp [byteLength, ih, Nat.add_assoc]

end TermSnap.Cli
