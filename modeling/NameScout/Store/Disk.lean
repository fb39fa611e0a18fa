import NameScout.Store.Path
import NameScout.Store.Table

namespace NameScout

inductive DiskError where
  | notFound
  | exists
  | notDirectory
  | isDirectory
  | nameTooLong
  | nulByte
  | notText
  | notRegular
  | noSpace
  | device
  | busy
  deriving DecidableEq, Repr

def DiskError.message : DiskError → String
  | .notFound => "No such file or directory (os error 2)"
  | .exists => "File exists (os error 17)"
  | .notDirectory => "Not a directory (os error 20)"
  | .isDirectory => "Is a directory (os error 21)"
  | .nameTooLong => "File name too long (os error 36)"
  | .nulByte => "file name contained an unexpected NUL byte"
  | .notText => "stream did not contain valid UTF-8"
  | .notRegular => "the source path is neither a regular file nor a symlink to a regular file"
  | .noSpace => "No space left on device (os error 28)"
  | .device => "Input/output error (os error 5)"
  | .busy => "Device or resource busy (os error 16)"

inductive Node where
  | directory
  | file (content : ByteArray)

/-- A filesystem: what stands at each sequence of steps from the root. -/
structure Disk where
  nodes : Table (List String) Node

namespace Disk

def empty : Disk := ⟨∅⟩

def node? (d : Disk) : List String → Option Node
  | [] => some .directory
  | place => d.nodes.get? place

def put (d : Disk) (place : List String) (n : Node) : Disk :=
  ⟨d.nodes.insert place n⟩

def remove (d : Disk) (place : List String) : Disk :=
  ⟨d.nodes.filter fun p _ => !place.isPrefixOf p⟩

def enter (d : Disk) (place : List String) (step : String) : Except DiskError (List String) :=
  match d.node? place with
  | none => .error .notFound
  | some (.file _) => .error .notDirectory
  | some .directory =>
      if step = ".." then .ok place.dropLast
      else if 255 < step.utf8ByteSize then .error .nameTooLong
      else .ok (place ++ [step])

def longestPath : Nat := 4095

/-- The place that a path leads to; every step but the last must be an existing directory, and
the last one too if a dot follows it. -/
def locate (d : Disk) (path : String) : Except DiskError (List String) := do
  if path.toList.contains '\x00' then throw .nulByte
  if path = "" then throw .notFound
  if longestPath < path.utf8ByteSize then throw .nameTooLong
  let place ← (Path.steps path).foldlM d.enter []
  if Path.endsInDot path then
    match d.node? place with
    | none => throw .notFound
    | some (.file _) => throw .notDirectory
    | some .directory => return place
  else return place

def exists? (d : Disk) (path : String) : Bool :=
  match d.locate path with
  | .error _ => false
  | .ok place => match d.node? place with
      | none => false
      | some .directory => true
      | some (.file _) => !Path.wantsDirectory path

def isDirectory (d : Disk) (path : String) : Bool :=
  match d.locate path with
  | .error _ => false
  | .ok place => match d.node? place with
      | some .directory => true
      | _ => false

def read (d : Disk) (path : String) : Except DiskError ByteArray := do
  let place ← d.locate path
  match d.node? place with
  | none => .error .notFound
  | some .directory => .error .isDirectory
  | some (.file content) =>
      if Path.wantsDirectory path then .error .notDirectory else .ok content

def readText (d : Disk) (path : String) : Except DiskError String := do
  match String.fromUTF8? (← d.read path) with
  | some text => .ok text
  | none => .error .notText

def write (d : Disk) (path : String) (content : ByteArray) : Except DiskError Disk := do
  let place ← d.locate path
  match d.node? place with
  | some .directory => .error .isDirectory
  | some (.file _) | none =>
      if Path.wantsDirectory path then .error .isDirectory else .ok (d.put place (.file content))

def makeDirectory (d : Disk) (path : String) : Except DiskError Disk := do
  let place ← d.locate path
  match d.node? place with
  | some _ => .error .exists
  | none => .ok (d.put place .directory)

def makeDirectories : Nat → Disk → String → Except DiskError Disk
  | 0, _, _ => .error .notFound
  | fuel + 1, d, path =>
      if path = "" then .ok d
      else match d.makeDirectory path with
        | .ok d => .ok d
        | .error .notFound => do
            let parent ← match Path.parent? path with
              | some parent => .ok parent
              | none => .error .notFound
            let d ← makeDirectories fuel d parent
            match d.makeDirectory path with
            | .ok d => .ok d
            | .error e => if d.isDirectory path then .ok d else .error e
        | .error e => if d.isDirectory path then .ok d else .error e

def list (d : Disk) (place : List String) : List String :=
  d.nodes.keys.filterMap fun p =>
    if p.length = place.length + 1 ∧ place.isPrefixOf p then p.getLast? else none

inductive Step where
  | create (path : String)
  | write (path : String) (content : ByteArray)
  | sync (path : String)
  /-- Copy a file over another one, unless there is nothing to copy. -/
  | backUp (source target : String)
  | rename (source target : String)

def copy (d : Disk) (source target : String) : Except DiskError Disk := do
  let content ← match d.read source with
    | .ok content => .ok content
    | .error .isDirectory => .error .notRegular
    | .error e => .error e
  let origin ← d.locate source
  let place ← d.locate target
  d.write target (if origin = place then .empty else content)

def rename (d : Disk) (source target : String) : Except DiskError Disk := do
  let content ← d.read source
  let origin ← d.locate source
  let place ← d.locate target
  if Path.endsInDot target ∨ (Path.steps target).getLast? = some ".." then throw .busy
  else if Path.wantsDirectory target then throw .notDirectory
  else match d.node? place with
    | some .directory => .error .isDirectory
    | _ => if origin = place then .ok d else .ok ((d.remove origin).put place (.file content))

def perform (d : Disk) : Step → Except DiskError Disk
  | .create path => d.write path .empty
  | .write path content => d.write path content
  | .sync _ => .ok d
  | .backUp source target => if d.exists? source then d.copy source target else .ok d
  | .rename source target => d.rename source target

def Step.written? : Step → Option String
  | .create path | .write path _ => some path
  | .backUp _ target => some target
  | .sync _ | .rename .. => none

/-- A step that goes wrong although nothing on the disk is in its way. The file that it was
to write may be left with any content. -/
structure Mishap where
  error : DiskError
  left : Option ByteArray
  /-- Whether it comes when the last part of a text has been handed over for writing. -/
  late : Bool

def spoil (d : Disk) (s : Step) (m : Mishap) : Disk :=
  match s.written?, m.left with
  | some path, some content => (d.write path content).toOption.getD d
  | _, _ => d

end Disk

end NameScout
