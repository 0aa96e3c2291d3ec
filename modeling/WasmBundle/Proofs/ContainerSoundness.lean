import Mathlib
import WasmBundle.Proofs.ContainerRoundTrip
import WasmBundle.Proofs.Utf8Order

/-!
# What a container that can be read looks like

Whatever bytes are read as a bundle, they are a header and a payload that list its shim, its modules
in some order and its root, each under its length, and nothing else. `Lists` says so; a container
lists a bundle in one way only. Reading forgets the order of the modules, so the bytes are those
that writing the bundle gives exactly when they list the names in increasing order.
-/

namespace WasmBundle.Proofs
open Container

lemma ok_of_bind {α β : Type} {m : Reading α} {f : α → Reading β} {r r' : FieldReader} {y : β}
    (h : (m >>= f) r = (.ok y, r')) : ∃ x q, m r = (.ok x, q) ∧ f x q = (.ok y, r') := by
  simp only [bind] at h
  split at h
  · cases h
  · rename_i x q hm
    exact ⟨x, q, hm, h⟩

lemma rest_of_slice {n : Nat} {r r' : FieldReader} {b : Bytes}
    (h : Reading.slice n r = (.ok b, r')) : b.length = n ∧ r.rest = b ++ r'.rest := by
  simp only [Reading.slice] at h
  split at h
  · rename_i hn
    cases h
    exact ⟨List.length_take_of_le hn, (List.take_append_drop n r.rest).symm⟩
  · cases h

lemma rest_of_digits {n : Nat} {r r' : FieldReader} {b : Bytes}
    (h : Reading.slice n r = (.ok b, r')) :
    ofLittleEndian b < 256 ^ n ∧ r.rest = littleEndian n (ofLittleEndian b) ++ r'.rest := by
  obtain ⟨rfl, hrest⟩ := rest_of_slice h
  obtain ⟨hbytes, hlt⟩ := littleEndian_ofLittleEndian b
  exact ⟨hlt, by rw [hbytes, hrest]⟩

lemma rest_of_u32 {r r' : FieldReader} {n : UInt32} (h : Reading.u32 r = (.ok n, r')) :
    r.rest = littleEndian 4 n.toNat ++ r'.rest := by
  obtain ⟨b, q, hb, h⟩ := ok_of_bind h
  cases h
  obtain ⟨hlt, hrest⟩ := rest_of_digits hb
  rw [UInt32.toNat_ofNat_of_lt' hlt, hrest]

lemma rest_of_u64 {r r' : FieldReader} {n : UInt64} (h : Reading.u64 r = (.ok n, r')) :
    r.rest = littleEndian 8 n.toNat ++ r'.rest := by
  obtain ⟨b, q, hb, h⟩ := ok_of_bind h
  cases h
  obtain ⟨hlt, hrest⟩ := rest_of_digits hb
  rw [UInt64.toNat_ofNat_of_lt' hlt, hrest]

/-- A text that is read stands in the input under its length, which fits its field. -/
theorem rest_of_text {r r' : FieldReader} {s : String} (h : Reading.text r = (.ok s, r')) :
    (Bytes.utf8 s).length < UInt32.size ∧ r.rest = textBytes s ++ r'.rest := by
  obtain ⟨n, q, hn, h⟩ := ok_of_bind h
  obtain ⟨start, q', hstart, h⟩ := ok_of_bind h
  cases hstart
  obtain ⟨b, q'', hb, h⟩ := ok_of_bind h
  obtain ⟨hlen, hrest⟩ := rest_of_slice hb
  cases hs : Bytes.text? b with
  | none =>
    rw [hs] at h
    cases h
  | some s' =>
    rw [hs] at h
    cases h
    rw [Bytes.text?_eq_some_iff.1 hs] at hlen hrest
    rw [rest_of_u32 hn, hrest, textBytes, hlen, List.append_assoc]
    exact ⟨n.toNat_lt, rfl⟩

/-- A blob that is read stands in the input under its length, which fits its field. -/
theorem rest_of_blob {r r' : FieldReader} {b : Bytes} (h : Reading.blob r = (.ok b, r')) :
    b.length < UInt64.size ∧ r.rest = Field.blob b ++ r'.rest := by
  obtain ⟨n, q, hn, h⟩ := ok_of_bind h
  obtain ⟨hlen, hrest⟩ := rest_of_slice h
  rw [rest_of_u64 hn, hrest, Field.blob, hlen, List.append_assoc]
  exact ⟨n.toNat_lt, rfl⟩

/-- The modules that are read stand in the input one after another and are added to the table. -/
theorem rest_of_readModules {n : Nat} {t u : ModuleTable} {r r' : FieldReader}
    (h : readModules n t r = (.ok u, r')) : ∃ entries, entries.length = n ∧
      (∀ entry ∈ entries, FitsEntry entry) ∧ (t.entries ++ entries).Perm u.entries ∧
      r.rest = (entries.map entryBytes).flatten ++ r'.rest := by
  induction n generalizing t r with
  | zero =>
    cases h
    exact ⟨[], rfl, fun entry he => absurd he List.not_mem_nil, by rw [List.append_nil], rfl⟩
  | succ n ih =>
    obtain ⟨name, q, hname, h⟩ := ok_of_bind h
    obtain ⟨bytes, q', hbytes, h⟩ := ok_of_bind h
    split at h
    · cases h
    · rename_i hnew
      obtain ⟨entries, hlen, hfits, hperm, hrest⟩ := ih h
      obtain ⟨hfname, hrname⟩ := rest_of_text hname
      obtain ⟨hfbytes, hrbytes⟩ := rest_of_blob hbytes
      have hinsert := perm_entries_insert bytes (Bool.not_eq_true _ ▸ hnew)
      refine ⟨(name, bytes) :: entries, by rw [List.length_cons, hlen], ?_, ?_, ?_⟩
      · intro entry he
        rcases List.mem_cons.1 he with rfl | he
        · exact ⟨hfname, hfbytes⟩
        · exact hfits entry he
      · have hshift : t.entries ++ (name, bytes) :: entries =
            t.entries ++ [(name, bytes)] ++ entries := by simp
        rw [hshift]
        exact (hinsert.symm.append_right entries).trans hperm
      · rw [hrname, hrbytes, hrest, List.map_cons, List.flatten_cons, entryBytes]
        simp only [List.append_assoc]

/-- The bytes are the magic bytes, the version, the checksum of the rest, and the payload of the
bundle with its modules in the given order, every length in a field that holds it. -/
structure Lists (sum : Bytes → UInt32) (d : Bytes) (b : Bundle)
    (entries : List (String × Bytes)) : Prop where
  bytes : d = magic ++ littleEndian 4 1 ++
    littleEndian 4 (sum (payloadOf b.shim entries b.root)).toNat ++
    payloadOf b.shim entries b.root
  perm : entries.Perm b.modules.entries
  nodup : (entries.map Prod.fst).Nodup
  fits : Fits b

lemma rest_of_readHeader {sum : Bytes → UInt32} {r r' : FieldReader}
    (h : readHeader sum r = (.ok (), r')) :
    r.rest = magic ++ littleEndian 4 1 ++ littleEndian 4 (sum r'.rest).toNat ++ r'.rest := by
  obtain ⟨found, q, hfound, h⟩ := ok_of_bind h
  split at h
  · cases h
  · rename_i hmagic
    obtain ⟨version, q', hversion, h⟩ := ok_of_bind h
    split at h
    · cases h
    · rename_i hcurrent
      obtain ⟨stored, q'', hstored, h⟩ := ok_of_bind h
      obtain ⟨computed, q''', hcomputed, h⟩ := ok_of_bind h
      cases hcomputed
      split at h
      · cases h
      · rename_i hsum
        cases h
        rw [(rest_of_slice hfound).2, rest_of_u32 hversion, rest_of_u32 hstored, not_not.1 hmagic,
          not_not.1 hcurrent, not_not.1 hsum]
        simp only [List.append_assoc]
        rfl

lemma rest_of_readPayload {r r' : FieldReader} {b : Bundle} (h : readPayload r = (.ok b, r')) :
    ∃ entries, entries.Perm b.modules.entries ∧ Fits b ∧
      r.rest = payloadOf b.shim entries b.root := by
  obtain ⟨shim, q₁, hshim, h⟩ := ok_of_bind h
  obtain ⟨count, q₂, hcount, h⟩ := ok_of_bind h
  obtain ⟨modules, q₃, hmodules, h⟩ := ok_of_bind h
  obtain ⟨root, q₄, hroot, h⟩ := ok_of_bind h
  obtain ⟨left, q₅, hleft, h⟩ := ok_of_bind h
  cases hleft
  split at h
  · cases h
  · rename_i hleft
    cases h
    obtain ⟨hfshim, hrshim⟩ := rest_of_text hshim
    obtain ⟨hfroot, hrroot⟩ := rest_of_blob hroot
    obtain ⟨entries, hlen, hfits, hperm, hrest⟩ := rest_of_readModules hmodules
    have hperm : entries.Perm modules.entries := hperm
    have hnothing : r'.rest = [] := List.eq_nil_of_length_eq_zero (Nat.eq_zero_of_not_pos hleft)
    refine ⟨entries, hperm, ⟨hfshim, ?_, fun entry he => (hfits entry (hperm.mem_iff.2 he)).1,
      fun entry he => (hfits entry (hperm.mem_iff.2 he)).2, hfroot⟩, ?_⟩
    · rw [ModuleTable.size, ← hperm.length_eq, hlen]
      exact count.toNat_lt
    · rw [hrshim, rest_of_u32 hcount, hrest, hrroot, hnothing, payloadOf, hlen]
      simp only [List.append_assoc, List.append_nil]

/-- What can be read lists its bundle, whatever the checksum is. -/
theorem exists_lists {sum : Bytes → UInt32} {d : Bytes} {b : Bundle}
    (h : decodeWith sum d = .ok b) : ∃ entries, Lists sum d b entries := by
  have hread : readBundle sum (.start d) = (.ok b, (readBundle sum (.start d)).2) :=
    Prod.ext h rfl
  obtain ⟨_, q, hheader, hpayload⟩ := ok_of_bind hread
  obtain ⟨entries, hperm, hfits, hrest⟩ := rest_of_readPayload hpayload
  have hd := rest_of_readHeader hheader
  rw [hrest] at hd
  exact ⟨entries, hd, hperm, (hperm.map Prod.fst).nodup_iff.2 (names_nodup b.modules), hfits⟩

/-- Bytes can be read as a bundle exactly when they list it. -/
theorem decodeWith_eq_ok_iff {sum : Bytes → UInt32} {d : Bytes} {b : Bundle} :
    decodeWith sum d = .ok b ↔ ∃ entries, Lists sum d b entries := by
  refine ⟨exists_lists, ?_⟩
  rintro ⟨entries, h⟩
  obtain ⟨r, hr⟩ := readPayload_payloadOf h.fits h.perm headerSize
  have hd : d = withHeader sum (payloadOf b.shim entries b.root) := h.bytes
  rw [hd, decodeWith, readBundle, bind_of_ok (readHeader_withHeader sum _), hr]

lemma reads_unique {α : Type} {m : Reading α} {b c rest rest' : Bytes} {x y : α}
    (hb : Reads m b x) (hc : Reads m c y) (h : b ++ rest = c ++ rest') :
    x = y ∧ rest = rest' := by
  have hread := hb 0 rest
  rw [h, hc 0 rest'] at hread
  simp only [Prod.mk.injEq, Except.ok.injEq, FieldReader.mk.injEq] at hread
  exact ⟨hread.1.symm, hread.2.2.symm⟩

/-- Reads the name and the bytes of a module. -/
def readEntry : Reading (String × Bytes) := do
  let name ← Reading.text
  let bytes ← Reading.blob
  pure (name, bytes)

lemma reads_entry {entry : String × Bytes} (h : FitsEntry entry) :
    Reads readEntry (entryBytes entry) entry :=
  reads_bind (reads_text h.1) (reads_bind_last (reads_blob h.2) (reads_pure entry))

lemma entries_unique {entries entries' : List (String × Bytes)} {rest rest' : Bytes}
    (hlen : entries.length = entries'.length) (hfits : ∀ entry ∈ entries, FitsEntry entry)
    (hfits' : ∀ entry ∈ entries', FitsEntry entry)
    (h : (entries.map entryBytes).flatten ++ rest = (entries'.map entryBytes).flatten ++ rest') :
    entries = entries' := by
  induction entries generalizing entries' with
  | nil => exact (List.eq_nil_of_length_eq_zero hlen.symm).symm
  | cons entry entries ih =>
    cases entries' with
    | nil => cases hlen
    | cons entry' entries' =>
      simp only [List.map_cons, List.flatten_cons, List.append_assoc] at h
      obtain ⟨heq, hrest⟩ := reads_unique (reads_entry (hfits entry List.mem_cons_self))
        (reads_entry (hfits' entry' List.mem_cons_self)) h
      rw [heq, ih (Nat.succ.inj hlen) (fun e he => hfits e (List.mem_cons_of_mem _ he))
        (fun e he => hfits' e (List.mem_cons_of_mem _ he)) hrest]

lemma Lists.fits_entries {sum : Bytes → UInt32} {d : Bytes} {b : Bundle}
    {entries : List (String × Bytes)} (h : Lists sum d b entries) :
    ∀ entry ∈ entries, FitsEntry entry :=
  fun entry he =>
    ⟨h.fits.names entry (h.perm.mem_iff.1 he), h.fits.blobs entry (h.perm.mem_iff.1 he)⟩

/-- Bytes list a bundle in one way. -/
theorem lists_unique {sum : Bytes → UInt32} {d : Bytes} {b : Bundle}
    {entries entries' : List (String × Bytes)} (h : Lists sum d b entries)
    (h' : Lists sum d b entries') : entries = entries' := by
  have hlen : entries.length = entries'.length := h.perm.length_eq.trans h'.perm.length_eq.symm
  have hbytes := h.bytes.symm.trans h'.bytes
  simp only [List.append_assoc, payloadOf, hlen, List.append_cancel_left_eq] at hbytes
  have hrest := (List.append_inj hbytes (by simp only [length_littleEndian])).2
  simp only [List.append_cancel_left_eq] at hrest
  exact entries_unique hlen h.fits_entries h'.fits_entries hrest

lemma lists_encoded (sum : Bytes → UInt32) {b : Bundle} (h : Fits b) :
    Lists sum (withHeader sum (payloadBytes b)) b b.modules.entries where
  bytes := rfl
  perm := List.Perm.refl _
  nodup := names_nodup b.modules
  fits := h

lemma eq_entries_of_increasing {t : ModuleTable} {entries : List (String × Bytes)}
    (hperm : entries.Perm t.entries)
    (h : entries.Pairwise fun x y => Bytes.utf8 x.1 < Bytes.utf8 y.1) : entries = t.entries := by
  have hinc : entries.Pairwise fun x y => x.1 < y.1 := h.imp fun hlt => (utf8_lt_utf8_iff _ _).1 hlt
  exact hperm.eq_of_pairwise (fun _ _ _ _ hlt hgt => absurd hgt (String.lt_asymm hlt)) hinc
    t.increasing

/-- The length of a module in a container. -/
def entrySize (entry : String × Bytes) : Nat :=
  4 + (Bytes.utf8 entry.1).length + 8 + entry.2.length

lemma length_entryBytes (entry : String × Bytes) : (entryBytes entry).length = entrySize entry := by
  simp only [entryBytes, textBytes, Field.blob, entrySize, List.length_append, length_littleEndian]
  omega

lemma Lists.length_eq {sum : Bytes → UInt32} {d : Bytes} {b : Bundle}
    {entries : List (String × Bytes)} (h : Lists sum d b entries) :
    d.length = 12 + (4 + (Bytes.utf8 b.shim).length) + 4 + (b.modules.entries.map entrySize).sum +
      (8 + b.root.length) := by
  have hentries : ((entries.map entryBytes).flatten).length =
      (b.modules.entries.map entrySize).sum := by
    rw [List.length_flatten, List.map_map, ← (h.perm.map entrySize).sum_nat]
    exact congrArg List.sum (List.map_congr_left fun entry _ => length_entryBytes entry)
  rw [h.bytes]
  simp only [payloadOf, textBytes, Field.blob, List.length_append, length_littleEndian, hentries,
    show magic.length = 4 from rfl]
  omega

/-- Bytes that are read as a bundle list it, its modules in one order that is a permutation of the
table's. They are as long as what writing the bundle gives, which is read back as the bundle, and
they are the same exactly when their modules stand in strictly increasing order of the bytes of
their names. -/
theorem decoded_container_lists (d : Bytes) (b : Bundle) (h : decode d = .ok b) :
    ∃ entries, Lists checksum d b entries ∧
      (∀ entries', Lists checksum d b entries' → entries' = entries) ∧
      d.length = 12 + (4 + (Bytes.utf8 b.shim).length) + 4 +
        (b.modules.entries.map entrySize).sum + (8 + b.root.length) ∧
      (∃ e, encode b = .ok e ∧ e.length = d.length ∧ decode e = .ok b) ∧
      (encode b = .ok d ↔
        entries.Pairwise fun x y => Bytes.utf8 x.1 < Bytes.utf8 y.1) := by
  obtain ⟨entries, hlists⟩ := exists_lists h
  obtain ⟨hencode, hdecode⟩ := decodeWith_encodeWith checksum hlists.fits
  have hencoded := lists_encoded checksum hlists.fits
  refine ⟨entries, hlists, fun _ h' => lists_unique h' hlists, hlists.length_eq,
    ⟨_, hencode, hencoded.length_eq.trans hlists.length_eq.symm, hdecode⟩, fun hd => ?_,
    fun hinc => ?_⟩
  · have hsame : withHeader checksum (payloadBytes b) = d :=
      Except.ok.inj (hencode.symm.trans hd)
    rw [hsame] at hencoded
    rw [lists_unique hlists hencoded]
    exact b.modules.increasing.imp fun hlt => (utf8_lt_utf8_iff _ _).2 hlt
  · have hd : d = withHeader checksum (payloadBytes b) := by
      rw [hlists.bytes, eq_entries_of_increasing hlists.perm hinc]
      rfl
    rw [hd]
    exact hencode

/-- The modules of the sparse bundle in decreasing order. -/
def decreasingEntries : List (String × Bytes) := [("b", [0xff, 0]), ("", [])]

/-- A container of the sparse bundle with the modules in decreasing order. -/
def decreasingContainer : Bytes :=
  withHeader checksum (payloadOf sparseBundle.shim decreasingEntries sparseBundle.root)

theorem decoded_container_lists_decreasing : decode decreasingContainer = .ok sparseBundle ∧
    decreasingContainer.length = 57 ∧ encode sparseBundle ≠ .ok decreasingContainer := by
  have hlists : Lists checksum decreasingContainer sparseBundle decreasingEntries :=
    ⟨rfl, by decide, by decide, ⟨by decide, by decide, by decide, by decide, by decide⟩⟩
  have hdecode : decode decreasingContainer = .ok sparseBundle :=
    decodeWith_eq_ok_iff.2 ⟨_, hlists⟩
  obtain ⟨entries, -, hunique, hlen, -, hiff⟩ :=
    decoded_container_lists decreasingContainer sparseBundle hdecode
  refine ⟨hdecode, hlen.trans (by decide), fun hencode => ?_⟩
  have hinc := hiff.1 hencode
  rw [← hunique _ hlists] at hinc
  exact absurd hinc (by decide)

end WasmBundle.Proofs
