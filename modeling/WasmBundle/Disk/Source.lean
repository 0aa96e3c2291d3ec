import WasmBundle.Disk

/-!
# Artifacts on a disk

Listing a directory gives paths spelled as the directory is, except that its separators are single
and a leading `./` is dropped. A separator after a leading `.` hides what follows it. The directory
is listed under the text that it is shown as, and names that are no text are passed over.
-/

namespace WasmBundle.Disk

/-- The path reached from another one by a part of a pattern. Nothing is reached from the working
directory by an empty part. -/
def extend? (p : Path) (part : Bytes) : Option Path :=
  if p.components = [.current] then if part = [] then none else some ⟨part⟩
  else some (p.join ⟨part⟩)

/-- The spelling of a directory in the paths of its files. -/
def spelling? (dir : Path) : Option Path :=
  let parts := splitAtSeparator Path.separator dir.bytes
  if dir.isAbsolute then (parts.drop 1).foldlM extend? "/" else parts.foldlM extend? "."

/-- Whether a name is a text that ends in a dot and the extension. -/
def endsIn (extension : String) (name : Bytes) : Bool :=
  (Bytes.text? name).any fun s => ('.' :: extension.toList).isSuffixOf s.toList

/-- The files directly in a directory whose name ends in a dot and the extension, in the order of
their names. -/
def artifacts (d : Disk) (dir : Path) (extension : String) : List Path :=
  let shown : Path := dir.text
  match d.locate shown, spelling? shown with
  | .ok l, some prior =>
    if d.isDirectory dir ∧ d.isDirectoryAt l then
      let names := (d.namesIn l).filter (endsIn extension)
      (names.filterMap (extend? prior)).filter d.isFile
    else []
  | _, _ => []

def source (d : Disk) : FileSource where
  isFile := d.isFile
  read := d.read
  artifacts dir extension := .ok (d.artifacts dir extension)
  contents := d.files.map (·.content)
  mem_contents p b h := by
    unfold read at h
    split at h
    · rename_i n f hf
      cases h
      exact List.mem_map_of_mem (mem_files_of_find hf)
    · cases h
    · cases h

end WasmBundle.Disk
