import WasmBundle.Wasm.ImportEntry

/-!
# Binaries and their sections

A binary is a header and sections up to the end of its bytes. `namespaces` gives the namespaces of
all import entries of a module, in the order in which they stand; a component has those of the
modules inside it. Every section but the code section is read within its own body, and a nested
binary is a section of its own kind, read in the same way.
-/

namespace WasmBundle.Wasm

namespace Reader

/-- The magic bytes and a version word, whose upper half tells the kind of the binary. -/
def header : Reader Kind := fun c =>
  if !c.has 4 then .error ⟨.unexpectedEnd, c.offset⟩
  else if c.rest.take 4 ≠ magic then .error ⟨.badMagic (c.rest.take 4), c.offset⟩
  else if !c.has 8 then .error ⟨.unexpectedEnd, c.offset + 4⟩
  else
    let word := ((c.rest.drop 4).take 4).foldr (fun b n => b.toNat + 256 * n) 0
    if word / 0x10000 = 0 then .ok (.module, c.skip 8)
    else if word / 0x10000 = 1 then .ok (.component, c.skip 8)
    else .error ⟨.unknownVersion word, c.offset + 4⟩

/-- The id and the length of a section. `missing` is given inside a nested binary: how many of the
bytes promised to it the input lacks. -/
def sectionHead (missing : Option Nat) : Reader (UInt8 × Nat) := fun c =>
  match c.rest with
  | [] => .error ⟨.unexpectedEnd, c.offset⟩
  | id :: r =>
    if 0x80 ≤ id then .error ⟨.sectionId, c.offset⟩
    else
      match u32 ⟨c.offset + 1, r⟩ with
      | .error e => .error e
      | .ok (len, d) =>
        if missing.any (fun m => !d.has (len - m)) then
          .error ⟨.sectionTooLarge, c.offset + 1⟩
        else .ok ((id, len), d)

/-- As many import entries as are announced. -/
def importEntries : Nat → Reader (List String)
  | 0 => pure []
  | n + 1 => do
    let name ← importEntry
    let names ← importEntries n
    pure (name :: names)

/-- Import entries that fill the section. -/
def importSection : Reader (List String) := do
  let names ← importEntries (← u32)
  if ← atEnd then pure names else fail .sectionSizeMismatch (← offset)

/-- An item that fills the section. -/
def singleItem (item : SingleItem) (read : Reader Unit) : Reader Unit := do
  read
  if ← atEnd then pure () else fail (.unexpectedContent item) (← offset)

def skipU32 : Reader Unit := do
  let _ ← u32
  pure ()

def skipU32s : Nat → Reader Unit
  | 0 => pure ()
  | n + 1 => do
    skipU32
    skipU32s n

/-- The greatest number of arguments or results of a component's start function. -/
def startLimit : Nat := 1000

/-- A number that must not be beyond the limit. -/
def startSize (bad : Cause) : Reader Nat := do
  let start ← offset
  let n ← u32
  if startLimit < n then fail bad start else pure n

/-- The start function of a component: its index, its arguments and the number of its results. -/
def componentStart : Reader Unit := do
  skipU32
  skipU32s (← startSize .startArguments)
  let _ ← startSize .startResults
  pure ()

/-- Function bodies, each with its size in front, which fill the `left` bytes of the section. They
are read from the whole input. -/
def codeBodies : Nat → Nat → Reader Unit
  | 0, left => do
    if left = 0 then pure () else fail .trailingCode (← offset)
  | n + 1, left => do
    let start ← offset
    let size ← u32
    let _ ← block size
    let used := (← offset) - start
    if left < used then fail .unexpectedEnd start else codeBodies n (left - used)

/-- A count of function bodies and the bodies. -/
def codeSection (len : Nat) : Reader Unit := do
  let start ← offset
  let count ← u32
  let used := (← offset) - start
  if len < used then fail .unexpectedEnd start else codeBodies count (len - used)

end Reader

/-- What kind of binary a section holds, if it holds one. -/
def nestedKind? : Kind → UInt8 → Option Kind
  | .component, 1 => some .module
  | .component, 4 => some .component
  | _, _ => none

/-- How much of a section is looked at. -/
inductive Content where
  | name
  | imports
  | single (item : SingleItem) (read : Reader Unit)
  | count
  | code
  | unread

def content : Kind → UInt8 → Content
  | _, 0 => .name
  | .module, 2 => .imports
  | .module, 8 => .single .start Reader.skipU32
  | .module, 12 => .single .dataCount Reader.skipU32
  | .module, 10 => .code
  | .module, id => if id ∈ [1, 3, 4, 5, 6, 7, 9, 11, 13] then .count else .unread
  | .component, 9 => .single .componentStart Reader.componentStart
  | .component, id => if id ∈ [2, 3, 5, 6, 7, 8, 10, 11] then .count else .unread

/-- The namespaces found in a section of `len` bytes, `c` standing at its body. -/
def Content.namespaces (len : Nat) (c : Cursor) : Content → Except Malformed (List String)
  | .code => (Reader.codeSection len c).map fun _ => []
  | other =>
    if !c.has len then .error ⟨.unexpectedEnd, c.offset⟩
    else
      let body := c.window len
      match other with
      | .name => (Reader.string body).map fun _ => []
      | .imports => (Reader.importSection body).map (·.1)
      | .single item read => (Reader.singleItem item read body).map fun _ => []
      | .count => (Reader.u32 body).map fun _ => []
      | _ => .ok []

/-- The longest nested binary. -/
def nestedLimit : Nat := 0x40000000

theorem Reader.sectionHead_shrinks {missing : Option Nat} {c d : Cursor} {p : UInt8 × Nat}
    (h : sectionHead missing c = .ok (p, d)) : d.rest.length < c.rest.length := by
  unfold sectionHead at h
  split at h
  · cases h
  · rename_i id r hr
    split at h
    · cases h
    · split at h
      · cases h
      · rename_i len e he
        split at h <;> cases h
        have := unsigned_shrinks he
        simp only [hr, List.length_cons] at this ⊢
        omega

theorem Reader.header_le {c d : Cursor} {k : Kind} (h : header c = .ok (k, d)) :
    d.rest.length ≤ c.rest.length := by
  have hd : d = c.skip 8 := by
    simp only [header] at h
    iterate 3 (split at h; · cases h)
    split at h
    · cases h; rfl
    · split at h <;> cases h
      rfl
  simp [hd, Cursor.skip]

/-- The namespaces of the import entries in the sections at the cursor. -/
def sections (kind : Kind) (missing : Option Nat) (c : Cursor) :
    Except Malformed (List String) :=
  if c.rest.isEmpty then .ok []
  else
    match _h : Reader.sectionHead missing c with
    | .error e => .error e
    | .ok ((id, len), d) =>
      match nestedKind? kind id with
      | none => do
        let here ← (content kind id).namespaces len d
        let later ← sections kind missing (d.skip len)
        return here ++ later
      | some nested =>
        if nestedLimit < len then .error ⟨.nestedTooLarge nested, c.offset + 1⟩
        else
          let inner := d.window len
          match _h' : Reader.header inner with
          | .error e => .error e
          | .ok (kind', e) => do
            let here ← sections kind' (some (len - inner.rest.length)) e
            let later ← sections kind missing (d.skip len)
            return here ++ later
termination_by c.rest.length
decreasing_by
  · have := Reader.sectionHead_shrinks _h
    simp only [Cursor.skip, List.length_drop]
    omega
  · have := Reader.sectionHead_shrinks _h
    have := Reader.header_le _h'
    simp only [inner, Cursor.window, List.length_take] at this
    omega
  · have := Reader.sectionHead_shrinks _h
    simp only [Cursor.skip, List.length_drop]
    omega

/-- The namespaces of the import entries of a binary, in order. -/
def namespaces (wasm : Bytes) : Except Malformed (List String) :=
  match Reader.header (.start wasm) with
  | .error e => .error e
  | .ok (kind, c) => sections kind none c

end WasmBundle.Wasm
