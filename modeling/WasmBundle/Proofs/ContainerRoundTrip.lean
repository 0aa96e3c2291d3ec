import WasmBundle.Container.Format
import WasmBundle.Proofs.ContainerFields

/-!
# A container holds its bundle

Every bundle whose lengths fit their fields can be written, and reading the container gives the
same bundle. Modules are read in any order, into the one table that has them all.
-/

namespace WasmBundle.Proofs
open Container

/-- Every length and the number of modules fit their fields. -/
structure Fits (b : Bundle) : Prop where
  shim : (Bytes.utf8 b.shim).length < UInt32.size
  count : b.modules.size < UInt32.size
  names : ∀ entry ∈ b.modules.entries, (Bytes.utf8 entry.1).length < UInt32.size
  blobs : ∀ entry ∈ b.modules.entries, entry.2.length < UInt64.size
  root : b.root.length < UInt64.size

/-- The bytes of a module in a container: its name and what it holds. -/
def entryBytes (entry : String × Bytes) : Bytes := textBytes entry.1 ++ Field.blob entry.2

/-- The lengths of a module's name and bytes fit their fields. -/
def FitsEntry (entry : String × Bytes) : Prop :=
  (Bytes.utf8 entry.1).length < UInt32.size ∧ entry.2.length < UInt64.size

/-- The payload that lists the modules in the given order. -/
def payloadOf (shim : String) (entries : List (String × Bytes)) (root : Bytes) : Bytes :=
  textBytes shim ++ littleEndian 4 entries.length ++ (entries.map entryBytes).flatten ++
    Field.blob root

/-- The bytes of a bundle in a container, without the header. -/
def payloadBytes (b : Bundle) : Bytes :=
  textBytes b.shim ++ littleEndian 4 b.modules.size ++
    (b.modules.entries.map entryBytes).flatten ++ Field.blob b.root

lemma entryFields_eq {entry : String × Bytes} (h : (Bytes.utf8 entry.1).length < UInt32.size) :
    entryFields entry = .ok (entryBytes entry) := by
  simp only [entryFields, text_eq h]
  rfl

/-- Every length that stands in four bytes fits there. -/
structure FitsSizes (b : Bundle) : Prop where
  shim : (Bytes.utf8 b.shim).length < UInt32.size
  count : b.modules.size < UInt32.size
  names : ∀ entry ∈ b.modules.entries, (Bytes.utf8 entry.1).length < UInt32.size

lemma Fits.sizes {b : Bundle} (h : Fits b) : FitsSizes b := ⟨h.shim, h.count, h.names⟩

lemma payload_eq {b : Bundle} (h : FitsSizes b) : payload b = .ok (payloadBytes b) := by
  simp only [payload, text_eq h.shim, size32_eq "module count" h.count,
    mapM_eq_ok fun entry he => entryFields_eq (h.names entry he)]
  rfl

section Written

variable {ε α β : Type} {bytes : Bytes}

lemma exists_of_bind_ok {x : Except ε α} {f : α → Except ε β} {y : β} (h : (x >>= f) = .ok y) :
    ∃ a, x = .ok a ∧ f a = .ok y := by
  cases x with
  | error e => cases h
  | ok a => exact ⟨a, rfl, h⟩

lemma exists_of_mapM_ok {f : α → Except ε β} {l : List α} {m : List β} (h : l.mapM f = .ok m) :
    ∀ a ∈ l, ∃ b, f a = .ok b := by
  induction l generalizing m with
  | nil => exact fun a ha => nomatch ha
  | cons x l ih =>
    rw [List.mapM_cons] at h
    obtain ⟨b, hb, h⟩ := exists_of_bind_ok h
    obtain ⟨rest, hrest, -⟩ := exists_of_bind_ok h
    exact List.forall_mem_cons.2 ⟨⟨b, hb⟩, ih hrest⟩

lemma lt_of_size32_ok {what : String} {n : Nat} (h : Field.size32 what n = .ok bytes) :
    n < UInt32.size := by
  unfold Field.size32 at h
  split at h
  · assumption
  · cases h

lemma lt_of_text_ok {text : String} (h : Field.text text = .ok bytes) :
    (Bytes.utf8 text).length < UInt32.size := by
  obtain ⟨size, hsize, -⟩ := exists_of_bind_ok h
  exact lt_of_size32_ok hsize

lemma sizes_of_payload {b : Bundle} (h : payload b = .ok bytes) : FitsSizes b := by
  obtain ⟨shim, hshim, h⟩ := exists_of_bind_ok h
  obtain ⟨count, hcount, h⟩ := exists_of_bind_ok h
  obtain ⟨fields, hfields, -⟩ := exists_of_bind_ok h
  refine ⟨lt_of_text_ok hshim, lt_of_size32_ok hcount, fun entry he => ?_⟩
  obtain ⟨field, hfield⟩ := exists_of_mapM_ok hfields entry he
  obtain ⟨name, hname, -⟩ := exists_of_bind_ok hfield
  exact lt_of_text_ok hname

end Written

lemma table_ext {s t : ModuleTable} (h : s.entries = t.entries) : s = t := by
  cases s
  cases t
  cases h
  rfl

/-- Tables of the same modules are the same, for they are in increasing order. -/
lemma table_eq_of_perm {s t : ModuleTable} (h : s.entries.Perm t.entries) : s = t :=
  table_ext (h.eq_of_pairwise (fun _ _ _ _ hlt hgt => absurd hgt (String.lt_asymm hlt)) s.increasing
    t.increasing)

lemma names_nodup (t : ModuleTable) : (t.entries.map Prod.fst).Nodup :=
  List.pairwise_map.2 (t.increasing.imp fun h => String.ne_of_lt h)

lemma perm_insert {ε κ : Type} [LT κ] [DecidableLT κ] {key : ε → κ} {merge : ε → ε → ε} {x : ε}
    {l : List ε} (htotal : ∀ a b : κ, ¬a < b → ¬b < a → a = b) (h : ∀ y ∈ l, key y ≠ key x) :
    (Increasing.insert key merge x l).Perm (x :: l) := by
  induction l with
  | nil => exact List.Perm.refl _
  | cons y l ih =>
    simp only [Increasing.insert]
    by_cases hxy : key x < key y
    · rw [if_pos hxy]
    · rw [if_neg hxy]
      by_cases hyx : key y < key x
      · rw [if_pos hyx]
        have hrest := ih fun z hz => h z (List.mem_cons_of_mem _ hz)
        exact (hrest.cons y).trans (List.Perm.swap x y l)
      · exact absurd (htotal _ _ hyx hxy) (h y List.mem_cons_self)

lemma eq_of_not_lt (a b : String) (hab : ¬a < b) (hba : ¬b < a) : a = b :=
  String.le_antisymm (String.not_lt.1 hba) (String.not_lt.1 hab)

lemma perm_entries_insert {t : ModuleTable} {name : String} (bytes : Bytes)
    (h : t.contains name = false) :
    (t.insert name bytes).entries.Perm (t.entries ++ [(name, bytes)]) := by
  have hnew : ∀ entry ∈ t.entries, entry.1 ≠ name := by
    simpa only [ModuleTable.contains, List.any_eq_false, beq_iff_eq] using h
  exact (perm_insert eq_of_not_lt hnew).trans (List.perm_append_singleton _ _).symm

/-- Modules in any order are read into the table that has them and those read before. -/
theorem reads_modules (entries : List (String × Bytes)) (t u : ModuleTable)
    (hu : (t.entries ++ entries).Perm u.entries) (hfits : ∀ entry ∈ entries, FitsEntry entry) :
    Reads (readModules entries.length t) (entries.map entryBytes).flatten u := by
  induction entries generalizing t with
  | nil =>
    rw [List.append_nil] at hu
    rw [table_eq_of_perm hu]
    exact reads_pure u
  | cons entry entries ih =>
    have hnodup := (hu.map Prod.fst).nodup_iff.2 (names_nodup u)
    have hnew : t.contains entry.1 = false := by
      simp only [ModuleTable.contains, List.any_eq_false, beq_iff_eq]
      intro e he heq
      rw [List.map_append, List.nodup_append] at hnodup
      exact hnodup.2.2 e.1 (List.mem_map_of_mem he) entry.1 List.mem_cons_self heq
    have hrest : Reads (readModules entries.length (t.insert entry.1 entry.2))
        (entries.map entryBytes).flatten u := by
      refine ih _ ?_ fun e he => hfits e (List.mem_cons_of_mem _ he)
      refine ((perm_entries_insert entry.2 hnew).append_right entries).trans ?_
      rwa [List.append_assoc, List.singleton_append]
    obtain ⟨hname, hbytes⟩ := hfits entry List.mem_cons_self
    simp only [List.map_cons, List.flatten_cons, entryBytes, List.append_assoc]
    refine reads_bind (reads_text hname) (reads_bind (reads_blob hbytes) ?_)
    rw [hnew]
    exact hrest

lemma readHeader_withHeader (sum : Bytes → UInt32) (body : Bytes) :
    readHeader sum (.start (withHeader sum body)) = (.ok (), ⟨headerSize, body⟩) := by
  have hread : ∀ (n : UInt32) offset rest,
      Reading.u32 ⟨offset, Field.u32 n ++ rest⟩ = (.ok n, ⟨offset + 4, rest⟩) := by
    intro n offset rest
    have h := reads_u32 n.toNat_lt offset rest
    rwa [length_littleEndian, UInt32.ofNat_toNat] at h
  have hmagic := reads_slice_of_length (show magic.length = 4 from rfl) 0
    (Field.u32 currentVersion ++ (Field.u32 (sum body) ++ body))
  simp only [FieldReader.start, withHeader, List.append_assoc, readHeader]
  rw [bind_of_ok hmagic, if_neg (by simp), bind_of_ok (hread currentVersion _ _),
    if_neg (by simp), bind_of_ok (hread (sum body) _ _),
    bind_of_ok (m := fun r => (.ok (sum r.rest), r)) (x := sum body) rfl, if_neg (by simp)]
  rfl

lemma readPayload_payloadOf {b : Bundle} {entries : List (String × Bytes)} (h : Fits b)
    (hperm : entries.Perm b.modules.entries) (offset : Nat) :
    ∃ r, readPayload ⟨offset, payloadOf b.shim entries b.root⟩ = (.ok b, r) := by
  have hsize : entries.length < UInt32.size := hperm.length_eq ▸ h.count
  have hcount : (UInt32.ofNat entries.length).toNat = entries.length :=
    UInt32.toNat_ofNat_of_lt' hsize
  have hmodules := reads_modules entries .empty b.modules hperm fun entry he =>
    ⟨h.names entry (hperm.mem_iff.1 he), h.blobs entry (hperm.mem_iff.1 he)⟩
  have hroot := reads_blob h.root
  simp only [readPayload, payloadOf, List.append_assoc]
  rw [bind_of_ok (reads_text h.shim offset _), bind_of_ok (reads_u32 hsize _ _), hcount,
    bind_of_ok (hmodules _ _), ← List.append_nil (Field.blob b.root), bind_of_ok (hroot _ [])]
  exact ⟨_, rfl⟩

/-- Writing and reading agree whatever the checksum is. -/
theorem decodeWith_encodeWith (sum : Bytes → UInt32) {b : Bundle} (h : Fits b) :
    encodeWith sum b = .ok (withHeader sum (payloadBytes b)) ∧
      decodeWith sum (withHeader sum (payloadBytes b)) = .ok b := by
  constructor
  · rw [encodeWith, payload_eq h.sizes]
    rfl
  · obtain ⟨r, hr⟩ := readPayload_payloadOf h (List.Perm.refl _) headerSize
    rw [decodeWith, readBundle, bind_of_ok (readHeader_withHeader sum (payloadBytes b))]
    exact congrArg Prod.fst hr

/-- What was written is a header and the fields of the bundle. -/
lemma eq_of_encodeWith {sum : Bytes → UInt32} {b : Bundle} {d : Bytes}
    (h : encodeWith sum b = .ok d) : FitsSizes b ∧ d = withHeader sum (payloadBytes b) := by
  cases hp : payload b with
  | error e =>
    rw [encodeWith, hp] at h
    cases h
  | ok bytes =>
    have hfits := sizes_of_payload hp
    rw [encodeWith, payload_eq hfits] at h
    exact ⟨hfits, (Except.ok.inj h).symm⟩

/-- A bundle whose lengths fit their fields can be written, and reading the container gives back
the same bundle. -/
theorem container_round_trip (b : Bundle) (h : Fits b) :
    ∃ d, encode b = .ok d ∧ decode d = .ok b :=
  ⟨_, decodeWith_encodeWith checksum h⟩

/-- A bundle with an empty name, an empty module and an empty root. -/
def sparseBundle : Bundle := ⟨"é", .ofList [("b", [0xff, 0]), ("", [])], []⟩

theorem container_round_trip_sparse :
    Fits sparseBundle ∧ ∃ d, encode sparseBundle = .ok d ∧ decode d = .ok sparseBundle := by
  have h : Fits sparseBundle := ⟨by decide, by decide, by decide, by decide, by decide⟩
  exact ⟨h, container_round_trip sparseBundle h⟩

end WasmBundle.Proofs
