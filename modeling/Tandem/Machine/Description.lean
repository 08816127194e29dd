import Tandem.Document.Reader
import Tandem.Machine.Basic

/-!
Descriptions of machines: what lies in the file system and what the environment says.

A description is a document; what it leaves out is empty.
-/

namespace Tandem.Machine

open Tandem.Document Tandem.Host Tandem.Text

/-- What stands at a path. -/
inductive Content where
  | directory
  | link (target : String)
  | file (bytes : Utf8.Bytes) (isExecutable : Bool)

structure Item where
  path : Path
  content : Content

/-- Puts an item into a tree, with the directories around it. -/
def Item.place (i : Item) (root : Node) : Except IoError Node := do
  match i.content with
  | .directory => Files.createDirs ⟨root, []⟩ i.path
  | content =>
    let around : Path := ⟨"/".intercalate (i.path.text.splitOn "/").dropLast⟩
    let root ← Files.createDirs ⟨root, []⟩ around
    match content with
    | .directory => return root
    | .link target => Files.link ⟨root, []⟩ i.path target
    | .file bytes isExecutable =>
      let root ← Files.write ⟨root, []⟩ i.path false bytes
      Files.setMode ⟨root, []⟩ i.path (if isExecutable then 0o755 else 0o644)

/-- Puts items into a tree one after the other. -/
def place (items : List Item) (root : Node) : Except IoError Node :=
  items.foldlM (fun root i => i.place root) root

structure Description where
  /-- The directory that commands are given in. -/
  directory : String
  environment : List (String × String)
  items : List Item

namespace Description

/-- The number of the process that works on a described machine. -/
def ownPid : UInt32 := 100

/-- How long a described machine has been up. -/
def upTime : Duration := seconds 3600

/-- The machine that is described, over files that it has anyway. -/
def machine (d : Description) (standard : Node) : Except IoError Machine := do
  let files ← Machine.place (⟨⟨d.directory⟩, .directory⟩ :: d.items) standard
  let (directory, _) ← lookup files [] ⟨d.directory⟩
  return {
    files
    directory
    environment := d.environment.map fun (name, value) =>
      (Utf8.encode name.toList, Utf8.encode value.toList)
    pid := ownPid
    counter := 0
    clock := upTime
    processes := []
    nextPid := ownPid + 1 }

end Description

/-! Reading. -/

namespace Item

def known : List Reader.Field :=
  [Reader.field "path" Reader.string true,
   Reader.field "text" (Reader.optional Reader.string) true,
   Reader.field "link" (Reader.optional Reader.string) true,
   Reader.field "executable" Reader.bool true]

/-- Reads an item: one with a text is a file, one with a target a link, any other a directory. -/
def reader : Reader Item := fun t => do
  let fs ← Reader.fields "Item" true known t
  let path ← Reader.required "path" Reader.string fs
  let text ← Reader.absent none "text" (Reader.optional Reader.string) fs
  let link ← Reader.absent none "link" (Reader.optional Reader.string) fs
  let isExecutable ← Reader.absent false "executable" Reader.bool fs
  return ⟨⟨path⟩,
    match text, link with
    | some text, _ => .file (Utf8.encode text.toList) isExecutable
    | none, some target => .link target
    | none, none => .directory⟩

end Item

namespace Description

def known : List Reader.Field :=
  [Reader.field "directory" Reader.string true,
   Reader.field "variables" (Reader.table Reader.string) true,
   Reader.field "items" (Reader.list Item.reader) true]

def reader : Reader Description := fun t => do
  let fs ← Reader.fields "Machine" true known t
  return {
    directory := ← Reader.absent "/" "directory" Reader.string fs
    environment := ← Reader.absent [] "variables" (Reader.table Reader.string) fs
    items := ← Reader.absent [] "items" (Reader.list Item.reader) fs }

end Description

end Tandem.Machine
