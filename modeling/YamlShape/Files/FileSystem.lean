/-
# YamlShape.Files.FileSystem -- directories and files as a value

A file system holds files and directories by their location, the list of names
from the root, and has a directory that relative paths start from.  Reading does
not change it; writing and making directories give a new one.

Names are texts.  There are no links: a file has one location, and a location is
reached by its names alone.  Whatever is there can be read.  What a device makes of a
write is not known here, so a file system also says which writes fail though there is
room for them, before their file is opened or after (`fault?`); otherwise an access
fails only for what is at its location.

* `itemAt?_setItem`: a write changes what is at its location and nothing else;
* `IsTree.setItem`: and keeps every item in a directory.
-/
import YamlShape.Files.PathText

namespace YamlShape.Files

set_option autoImplicit false

/-- The names from the root to an item. -/
abbrev Location := List String

/-- What is at a location. -/
inductive Item where
  | file (content : ByteArray)
  | directory

/-- Files are the same when they hold the same bytes. -/
instance : DecidableEq Item
  | .file left, .file right =>
    decidable_of_iff (left.data = right.data)
      ⟨fun same => congrArg Item.file (ByteArray.ext same),
        fun same => congrArg ByteArray.data (Item.file.inj same)⟩
  | .file _, .directory => .isFalse nofun
  | .directory, .file _ => .isFalse nofun
  | .directory, .directory => .isTrue rfl

inductive FileError where
  | notFound
  | alreadyExists
  | notDirectory
  | isDirectory
  | notUtf8
  | permissionDenied
  | noSpace
  | deviceFault
  deriving DecidableEq

def FileError.message : FileError → String
  | .notFound => "No such file or directory (os error 2)"
  | .alreadyExists => "File exists (os error 17)"
  | .notDirectory => "Not a directory (os error 20)"
  | .isDirectory => "Is a directory (os error 21)"
  | .notUtf8 => "stream did not contain valid UTF-8"
  | .permissionDenied => "Permission denied (os error 13)"
  | .noSpace => "No space left on device (os error 28)"
  | .deviceFault => "Input/output error (os error 5)"

/-! ## Items -/

/-- What is at a location: the root is a directory without an item of its own. -/
def itemAt? (items : List (Location × Item)) (location : Location) : Option Item :=
  if location = [] then some .directory else items.lookup location

/-- Puts an item at a location, in the place of what was there. -/
def setItem (location : Location) (item : Item) :
    List (Location × Item) → List (Location × Item)
  | [] => [(location, item)]
  | entry :: rest =>
    if entry.1 = location then (location, item) :: rest
    else entry :: setItem location item rest

section

variable {location : Location} {item : Item} {items : List (Location × Item)}

theorem lookup_setItem (location other : Location) (item : Item)
    (items : List (Location × Item)) :
    (setItem location item items).lookup other =
      if other = location then some item else items.lookup other := by
  induction items with
  | nil =>
    by_cases same : other = location
    · simp [setItem, same]
    · have missed : (other == location) = false := by simpa using same
      simp [setItem, List.lookup_cons, missed, same]
  | cons entry rest ih =>
    obtain ⟨held, old⟩ := entry
    by_cases replaced : held = location
    · subst replaced
      by_cases same : other = held
      · simp [setItem, same]
      · have missed : (other == held) = false := by simpa using same
        simp [setItem, List.lookup_cons, missed, same]
    · by_cases found : other = held
      · simp [setItem, replaced, found]
      · have missed : (other == held) = false := by simpa using found
        simp [setItem, List.lookup_cons, replaced, missed, ih]

theorem itemAt?_setItem (inside : location ≠ []) (other : Location) :
    itemAt? (setItem location item items) other =
      if other = location then some item else itemAt? items other := by
  by_cases top : other = []
  · rw [itemAt?, if_pos top, itemAt?, if_pos top, top, if_neg (Ne.symm inside)]
  · rw [itemAt?, if_neg top, itemAt?, if_neg top, lookup_setItem]

theorem mem_setItem {entry : Location × Item} (held : entry ∈ setItem location item items) :
    entry = (location, item) ∨ entry ∈ items := by
  induction items with
  | nil => exact .inl (List.mem_singleton.1 held)
  | cons first rest ih =>
    rw [setItem] at held
    split at held
    · rcases List.mem_cons.1 held with new | old
      · exact .inl new
      · exact .inr (List.mem_cons_of_mem _ old)
    · rcases List.mem_cons.1 held with old | later
      · exact .inr (old ▸ List.mem_cons_self)
      · exact (ih later).imp_right (List.mem_cons_of_mem _)

/-! ## Trees -/

/-- Every item is in a directory, and all names can be written in a path. -/
structure IsTree (items : List (Location × Item)) : Prop where
  around : ∀ entry ∈ items, itemAt? items entry.1.dropLast = some .directory
  named : ∀ entry ∈ items, ∀ name ∈ entry.1, PathText.IsName name

instance (items : List (Location × Item)) : Decidable (IsTree items) :=
  decidable_of_iff
    ((∀ entry ∈ items, itemAt? items entry.1.dropLast = some .directory) ∧
      ∀ entry ∈ items, ∀ name ∈ entry.1, PathText.IsName name)
    ⟨fun both => ⟨both.1, both.2⟩, fun tree => ⟨tree.around, tree.named⟩⟩

/-- There is room for an item: its directory is there, its name can be written in a path,
and no file takes the place of a directory. -/
structure Admits (items : List (Location × Item)) (location : Location) (item : Item) :
    Prop where
  inside : location ≠ []
  named : ∀ name ∈ location, PathText.IsName name
  around : itemAt? items location.dropLast = some .directory
  free : item = .directory ∨ itemAt? items location ≠ some .directory

instance (items : List (Location × Item)) (location : Location) (item : Item) :
    Decidable (Admits items location item) :=
  decidable_of_iff
    (location ≠ [] ∧ (∀ name ∈ location, PathText.IsName name) ∧
      itemAt? items location.dropLast = some .directory ∧
      (item = .directory ∨ itemAt? items location ≠ some .directory))
    ⟨fun all => ⟨all.1, all.2.1, all.2.2.1, all.2.2.2⟩,
      fun room => ⟨room.inside, room.named, room.around, room.free⟩⟩

/-- Directories stay directories. -/
theorem Admits.directory_of_directory (room : Admits items location item) {other : Location}
    (directory : itemAt? items other = some .directory) :
    itemAt? (setItem location item items) other = some .directory := by
  rw [itemAt?_setItem room.inside]
  split
  · next same =>
    rcases room.free with made | free
    · rw [made]
    · exact absurd (same ▸ directory) free
  · exact directory

theorem IsTree.setItem (tree : IsTree items) (room : Admits items location item) :
    IsTree (setItem location item items) where
  around entry held := by
    apply room.directory_of_directory
    rcases mem_setItem held with rfl | old
    · exact room.around
    · exact tree.around entry old
  named entry held := by
    rcases mem_setItem held with rfl | old
    · exact room.named
    · exact tree.named entry old

end

/-! ## File systems -/

/-- How a write fails where there is room for its file: the file is not opened, or it is
and the write breaks off after so many bytes. -/
inductive WriteFault where
  | unopened (error : FileError)
  | brokenOff (written : Nat) (error : FileError)

/-- Files and directories, and the directory that relative paths start from.  Whether a
write fails is settled by its location and its bytes. -/
structure FileSystem where
  items : List (Location × Item)
  workingDirectory : Location := []
  fault? : Location → ByteArray → Option WriteFault := fun _ _ => none
  tree : IsTree items := by decide

namespace FileSystem

def item? (files : FileSystem) (location : Location) : Option Item :=
  itemAt? files.items location

/-- Puts an item at a location, if there is room for it. -/
def put (files : FileSystem) (location : Location) (item : Item) : FileSystem :=
  if room : Admits files.items location item then
    { files with items := setItem location item files.items, tree := files.tree.setItem room }
  else files

/-- The names in a directory, in byte order. -/
def names (files : FileSystem) (directory : Location) : List String :=
  let inside := files.items.filterMap fun (location, _) =>
    if location.dropLast = directory then location.getLast? else none
  inside.mergeSort Text.byteOrder

/-! ## Paths -/

/-- Follows the segments of a path from a directory.  All but the last have to
be directories, and an empty last segment asks for one. -/
def follow (files : FileSystem) : Location → List String → Except FileError Location
  | location, [] => .ok location
  | location, segment :: rest =>
    match files.item? location with
    | none => .error .notFound
    | some (.file _) => .error .notDirectory
    | some .directory =>
      if PathText.isIdle segment then files.follow location rest
      else if segment = ".." then files.follow location.dropLast rest
      else files.follow (location ++ [segment]) rest

/-- The location that a path leads to; there need be nothing there. -/
def locate (files : FileSystem) (path : String) : Except FileError Location :=
  if path.isEmpty then .error .notFound
  else if path.startsWith "/" then files.follow [] (PathText.segments path)
  else files.follow files.workingDirectory (PathText.segments path)

def find? (files : FileSystem) (path : String) : Option Item :=
  match files.locate path with
  | .ok location => files.item? location
  | .error _ => none

def pathExists (files : FileSystem) (path : String) : Bool :=
  (files.find? path).isSome

def isDirectory (files : FileSystem) (path : String) : Bool :=
  files.find? path = some .directory

def namesIn (files : FileSystem) (path : String) : List String :=
  match files.locate path with
  | .ok location => files.names location
  | .error _ => []

/-! ## Access -/

def readText (files : FileSystem) (path : String) : Except FileError String := do
  let location ← files.locate path
  match files.item? location with
  | none => .error .notFound
  | some .directory => .error .isDirectory
  | some (.file content) =>
    match String.fromUTF8? content with
    | some text => .ok text
    | none => .error .notUtf8

/-- Why a file cannot be opened for writing at a location.  It need not be there, but its
directory has to be. -/
def openError? (files : FileSystem) (location : Location) : Option FileError :=
  match files.item? location, files.item? location.dropLast with
  | some .directory, _ => some .isDirectory
  | _, none => some .notFound
  | _, some (.file _) => some .notDirectory
  | _, some .directory => none

/-- Writes a file at a location.  To open it makes or empties it, so that it holds what was
written before a write breaks off. -/
def writeAt (files : FileSystem) (location : Location) (text : String) :
    FileSystem × Option FileError :=
  match files.openError? location with
  | some error => (files, some error)
  | none =>
    let content := text.toByteArray
    match files.fault? location content with
    | none => (files.put location (.file content), none)
    | some (.unopened error) => (files, some error)
    | some (.brokenOff written error) =>
      (files.put location (.file (content.extract 0 written)), some error)

/-- Writes a file.  A path that ends in a slash asks for a directory. -/
def writeText (files : FileSystem) (path text : String) : FileSystem × Option FileError :=
  if path.endsWith "/" then
    match files.locate (PathText.ofSegments (PathText.trimmed (PathText.segments path))) with
    | .error error => (files, some error)
    | .ok _ => (files, some .isDirectory)
  else
    match files.locate path with
    | .error error => (files, some error)
    | .ok location => files.writeAt location text

/-- Makes a directory; the one around it has to be there. -/
def makeDirectory (files : FileSystem) (path : String) : Except FileError FileSystem := do
  let location ← files.locate path
  match files.item? location, files.item? location.dropLast with
  | some _, _ => .error .alreadyExists
  | none, some .directory => .ok (files.put location .directory)
  | none, some (.file _) => .error .notDirectory
  | none, none => .error .notFound

/-- Makes a directory and those around it, as far as they are not there.  What
was made before a failure stays.  A path has no more directories than segments. -/
def makeDirectories (files : FileSystem) : Nat → String → FileSystem × Option FileError
  | 0, _ => (files, none)
  | depth + 1, path =>
    if path.isEmpty then (files, none)
    else
      match files.makeDirectory path with
      | .ok made => (made, none)
      | .error .notFound =>
        let (around, failure) : FileSystem × Option FileError :=
          match PathText.parent? path with
          | none => (files, some .notFound)
          | some parent => files.makeDirectories depth parent
        if failure.isSome then (around, failure)
        else
          match around.makeDirectory path with
          | .ok made => (made, none)
          | .error error => (around, if around.isDirectory path then none else some error)
      | .error error => (files, if files.isDirectory path then none else some error)

/-- Makes the directory that a path leads to, with all around it. -/
def makePath (files : FileSystem) (path : String) : FileSystem × Option FileError :=
  files.makeDirectories ((PathText.segments path).length + 1) path

end FileSystem

end YamlShape.Files
