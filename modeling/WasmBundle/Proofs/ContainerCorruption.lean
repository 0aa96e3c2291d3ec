import WasmBundle.Proofs.ChecksumWindows
import WasmBundle.Proofs.ContainerSoundness

/-!
# Corrupted containers

A container that can be read is no longer read once some of its bytes are replaced, as long as all
of these stand in the header, or at most four adjacent ones behind it. Which part of the header is
hit tells the error; behind the header it is always the checksum that no longer fits.
-/

namespace WasmBundle.Proofs
open Container

/-- The number in the four bytes from a position on. -/
def wordAt (d : Bytes) (position : Nat) : UInt32 :=
  UInt32.ofNat (ofLittleEndian ((d.drop position).take 4))

/-- The byte strings differ at a position from `i` up to before `j`. -/
def DifferIn (i j : Nat) (d d' : Bytes) : Prop := ∃ k, i ≤ k ∧ k < j ∧ d'[k]? ≠ d[k]?

/-- The byte strings are equally long and differ at no other positions. -/
structure DifferWithin (i j : Nat) (d d' : Bytes) : Prop where
  length_eq : d'.length = d.length
  within : ∀ k, d'[k]? ≠ d[k]? → i ≤ k ∧ k < j

lemma slice_eq {n : Nat} {r : FieldReader} (h : n ≤ r.rest.length) :
    Reading.slice n r = (.ok (r.rest.take n), ⟨r.offset + n, r.rest.drop n⟩) := by
  rw [Reading.slice, if_pos h]

lemma u32_eq {d : Bytes} {position : Nat} (h : position + 4 ≤ d.length) :
    Reading.u32 ⟨position, d.drop position⟩ =
      (.ok (wordAt d position), ⟨position + 4, d.drop (position + 4)⟩) := by
  have hlen : 4 ≤ (d.drop position).length := by
    rw [List.length_drop]
    omega
  have hslice := slice_eq (r := ⟨position, d.drop position⟩) hlen
  rw [List.drop_drop] at hslice
  rw [Reading.u32, bind_of_ok hslice]
  rfl

/-- The header is checked from the front: the magic bytes, the version, then the checksum. -/
lemma readHeader_eq {sum : Bytes → UInt32} {d : Bytes} (h : headerSize ≤ d.length) :
    readHeader sum (.start d) =
      if d.take 4 ≠ magic then (.error (.invalidMagic (d.take 4)), ⟨4, d.drop 4⟩)
      else if wordAt d 4 ≠ currentVersion then
        (.error (.unsupportedVersion (wordAt d 4)), ⟨8, d.drop 8⟩)
      else if wordAt d 8 ≠ sum (d.drop 12) then
        (.error (.checksumMismatch (wordAt d 8) (sum (d.drop 12))), ⟨12, d.drop 12⟩)
      else (.ok (), ⟨12, d.drop 12⟩) := by
  have hlen : 12 ≤ d.length := h
  have hmagic : Reading.slice 4 (.start d) = (.ok (d.take 4), ⟨4, d.drop 4⟩) :=
    slice_eq (r := .start d) (Nat.le_trans (by decide) hlen)
  have hversion : Reading.u32 ⟨4, d.drop 4⟩ = _ := u32_eq (by omega)
  have hstored : Reading.u32 ⟨8, d.drop 8⟩ = _ := u32_eq (by omega)
  rw [readHeader, bind_of_ok hmagic]
  by_cases hm : d.take 4 ≠ magic
  · rw [if_pos hm, if_pos hm]
    rfl
  · rw [if_neg hm, if_neg hm, bind_of_ok hversion]
    by_cases hv : wordAt d 4 ≠ currentVersion
    · rw [if_pos hv, if_pos hv]
      rfl
    · rw [if_neg hv, if_neg hv, bind_of_ok hstored,
        bind_of_ok (m := fun r => (.ok (sum r.rest), r)) (x := sum (d.drop 12)) rfl]
      by_cases hs : wordAt d 8 ≠ sum (d.drop 12)
      · rw [if_pos hs, if_pos hs]
        rfl
      · rw [if_neg hs, if_neg hs]
        rfl

/-- What is read of bytes that are long enough for a header. -/
theorem decodeWith_eq {sum : Bytes → UInt32} {d : Bytes} (h : headerSize ≤ d.length) :
    decodeWith sum d =
      if d.take 4 ≠ magic then .error (.invalidMagic (d.take 4))
      else if wordAt d 4 ≠ currentVersion then .error (.unsupportedVersion (wordAt d 4))
      else if wordAt d 8 ≠ sum (d.drop 12) then
        .error (.checksumMismatch (wordAt d 8) (sum (d.drop 12)))
      else (readPayload ⟨headerSize, d.drop 12⟩).1 := by
  simp only [decodeWith, readBundle, bind, readHeader_eq h]
  split_ifs <;> rfl

/-- A container that can be read has the magic bytes, the version and the checksum of the rest. -/
lemma header_of_decode {d : Bytes} {b : Bundle} (h : decode d = .ok b) :
    headerSize ≤ d.length ∧ d.take 4 = magic ∧ wordAt d 4 = currentVersion ∧
      wordAt d 8 = checksum (d.drop 12) := by
  obtain ⟨entries, hlists⟩ := exists_lists h
  have hlen : headerSize ≤ d.length := by
    rw [hlists.length_eq, headerSize]
    omega
  rw [decode, decodeWith_eq hlen] at h
  split_ifs at h with hmagic hversion hsum
  exact ⟨hlen, not_not.1 hmagic, not_not.1 hversion, not_not.1 hsum⟩

section Differences

variable {i j : Nat} {d d' : Bytes}

lemma slice_eq_slice_iff {n : Nat} :
    (d'.drop i).take n = (d.drop i).take n ↔ ¬DifferIn i (i + n) d d' := by
  constructor
  · rintro h ⟨k, hi, hj, hne⟩
    refine hne ?_
    have hk := congrArg (·[k - i]?) h
    simp only [List.getElem?_take, List.getElem?_drop, Nat.add_sub_cancel' hi] at hk
    rwa [if_pos (by omega), if_pos (by omega)] at hk
  · intro h
    refine List.ext_getElem? fun k => ?_
    rw [List.getElem?_take, List.getElem?_take]
    by_cases hk : k < n
    · rw [if_pos hk, if_pos hk, List.getElem?_drop, List.getElem?_drop]
      by_contra hne
      exact h ⟨i + k, by omega, by omega, hne⟩
    · rw [if_neg hk, if_neg hk]

lemma take_eq_take_iff {n : Nat} : d'.take n = d.take n ↔ ¬DifferIn 0 n d d' := by
  have h : (d'.drop 0).take n = (d.drop 0).take n ↔ ¬DifferIn 0 (0 + n) d d' := slice_eq_slice_iff
  rwa [List.drop_zero, List.drop_zero, Nat.zero_add] at h

lemma wordAt_eq_iff (hlen : d'.length = d.length) :
    wordAt d' i = wordAt d i ↔ ¬DifferIn i (i + 4) d d' := by
  rw [← slice_eq_slice_iff]
  refine ⟨fun h => ?_, fun h => congrArg (fun b => UInt32.ofNat (ofLittleEndian b)) h⟩
  refine eq_of_ofNat_ofLittleEndian ?_ (List.length_take_le 4 _) h
  rw [List.length_take, List.length_take, List.length_drop, List.length_drop, hlen]

lemma DifferWithin.not_differIn (h : DifferWithin i j d d') {k l : Nat} (hl : l ≤ i ∨ j ≤ k) :
    ¬DifferIn k l d d' := by
  rintro ⟨m, hk, hm, hne⟩
  have hwithin := h.within m hne
  omega

lemma DifferWithin.drop_eq (h : DifferWithin i j d d') : d'.drop j = d.drop j := by
  refine List.ext_getElem? fun k => ?_
  rw [List.getElem?_drop, List.getElem?_drop]
  by_contra hne
  have hwithin := h.within (j + k) hne
  omega

lemma DifferWithin.differIn (h : DifferWithin i j d d') (hne : d' ≠ d) : DifferIn i j d d' := by
  by_contra hsame
  refine hne (List.ext_getElem? fun k => ?_)
  by_contra hk
  exact hsame ⟨k, (h.within k hk).1, (h.within k hk).2, hk⟩

lemma drop_eq_window (d : Bytes) {k : Nat} (h : k ≤ i) (n : Nat) :
    d.drop k = (d.drop k).take (i - k) ++ (d.drop i).take n ++ d.drop (i + n) := by
  have hrest : (d.drop k).drop (i - k) = d.drop i := by
    rw [List.drop_drop, Nat.add_sub_cancel' h]
  rw [List.append_assoc, ← List.drop_drop, List.take_append_drop, ← hrest, List.take_append_drop]

lemma checksum_ne_of_differWithin {k : Nat} (hk : k ≤ i) (h : DifferWithin i (i + 4) d d')
    (hne : d' ≠ d) : checksum (d'.drop k) ≠ checksum (d.drop k) := by
  have hfront : (d'.drop k).take (i - k) = (d.drop k).take (i - k) :=
    slice_eq_slice_iff.2 (h.not_differIn (.inl (by omega)))
  have hwindow : (d'.drop i).take 4 ≠ (d.drop i).take 4 :=
    fun heq => slice_eq_slice_iff.1 heq (h.differIn hne)
  have hlen : ((d'.drop i).take 4).length = ((d.drop i).take 4).length := by
    rw [List.length_take, List.length_take, List.length_drop, List.length_drop, h.length_eq]
  rw [drop_eq_window d' hk 4, drop_eq_window d hk 4, hfront, h.drop_eq]
  exact checksum_ne_of_window hlen (List.length_take_le 4 _) hwindow

open Classical in
/-- Bytes as long as a container that can be read pass the checks of the magic bytes and of the
version where they do not differ from it. -/
lemma decode_eq_of_read {b : Bundle} (hread : decode d = .ok b) (hlen : d'.length = d.length) :
    decode d' =
      if DifferIn 0 4 d d' then .error (.invalidMagic (d'.take 4))
      else if DifferIn 4 8 d d' then .error (.unsupportedVersion (wordAt d' 4))
      else if wordAt d' 8 ≠ checksum (d'.drop 12) then
        .error (.checksumMismatch (wordAt d' 8) (checksum (d'.drop 12)))
      else (readPayload ⟨headerSize, d'.drop 12⟩).1 := by
  obtain ⟨hheader, hmagic, hversion, -⟩ := header_of_decode hread
  have hfirst : d'.take 4 ≠ magic ↔ DifferIn 0 4 d d' := by
    rw [← hmagic, ne_eq, take_eq_take_iff, not_not]
  have hsecond : wordAt d' 4 ≠ currentVersion ↔ DifferIn 4 8 d d' := by
    rw [← hversion, ne_eq, wordAt_eq_iff hlen, not_not]
  rw [decode, decodeWith_eq (hlen ▸ hheader)]
  simp only [hfirst, hsecond]

end Differences

/-- Where a container that can be read and other bytes differ in the header alone, these are refused
for the first part of the header that differs; where they differ in at most four adjacent bytes
behind the header, they are refused for the checksum. -/
theorem corruption_detected (d d' : Bytes) (b : Bundle) (hread : decode d = .ok b) (hne : d' ≠ d) :
    (DifferWithin 0 12 d d' →
      (DifferIn 0 4 d d' → decode d' = .error (.invalidMagic (d'.take 4))) ∧
      (¬DifferIn 0 4 d d' → DifferIn 4 8 d d' →
        decode d' = .error (.unsupportedVersion (wordAt d' 4))) ∧
      (¬DifferIn 0 4 d d' → ¬DifferIn 4 8 d d' →
        decode d' = .error (.checksumMismatch (wordAt d' 8) (checksum (d'.drop 12))))) ∧
    ∀ i, 12 ≤ i → DifferWithin i (i + 4) d d' →
      decode d' = .error (.checksumMismatch (wordAt d' 8) (checksum (d'.drop 12))) := by
  obtain ⟨-, -, -, hsum⟩ := header_of_decode hread
  refine ⟨fun h => ⟨fun hfirst => ?_, fun hfirst hsecond => ?_, fun hfirst hsecond => ?_⟩,
    fun i hi h => ?_⟩
  · rw [decode_eq_of_read hread h.length_eq, if_pos hfirst]
  · rw [decode_eq_of_read hread h.length_eq, if_neg hfirst, if_pos hsecond]
  · have hstored : wordAt d' 8 ≠ checksum (d'.drop 12) := by
      rw [h.drop_eq, ← hsum, ne_eq, wordAt_eq_iff h.length_eq, not_not]
      -- The bytes differ somewhere in the header, and only its checksum is left.
      obtain ⟨k, -, hk, hdiff⟩ := h.differIn hne
      by_cases h4 : k < 4
      · exact absurd ⟨k, Nat.zero_le k, h4, hdiff⟩ hfirst
      · by_cases h8 : k < 8
        · exact absurd ⟨k, Nat.le_of_not_lt h4, h8, hdiff⟩ hsecond
        · exact ⟨k, Nat.le_of_not_lt h8, hk, hdiff⟩
    rw [decode_eq_of_read hread h.length_eq, if_neg hfirst, if_neg hsecond, if_pos hstored]
  · have hfirst : ¬DifferIn 0 4 d d' := h.not_differIn (.inl (by omega))
    have hsecond : ¬DifferIn 4 8 d d' := h.not_differIn (.inl (by omega))
    have hstored : wordAt d' 8 ≠ checksum (d'.drop 12) := by
      rw [(wordAt_eq_iff h.length_eq).2 (h.not_differIn (.inl hi)), hsum]
      exact (checksum_ne_of_differWithin hi h hne).symm
    rw [decode_eq_of_read hread h.length_eq, if_neg hfirst, if_neg hsecond, if_pos hstored]

/-- The container of the sparse bundle. -/
def sparseContainer : Bytes := withHeader checksum (payloadBytes sparseBundle)

/-- The container with two bytes of the length of its shim replaced. -/
def lengthened : Bytes := (sparseContainer.set 12 0).set 15 1

lemma differWithin_set {d d' : Bytes} {i j k : Nat} {x : UInt8} (h : DifferWithin i j d d')
    (hi : i ≤ k) (hj : k < j) : DifferWithin i j d (d'.set k x) where
  length_eq := List.length_set.trans h.length_eq
  within m hm := by
    by_cases hk : k = m
    · omega
    · rw [List.getElem?_set_ne hk] at hm
      exact h.within m hm

theorem corruption_detected_sparse :
    decode sparseContainer = .ok sparseBundle ∧
      decode (sparseContainer.set 5 1) = .error (.unsupportedVersion 257) ∧
      ∃ stored computed, decode lengthened = .error (.checksumMismatch stored computed) := by
  have hread : decode sparseContainer = .ok sparseBundle :=
    (decodeWith_encodeWith checksum ⟨by decide, by decide, by decide, by decide, by decide⟩).2
  have hsame : ∀ i j, DifferWithin i j sparseContainer sparseContainer :=
    fun i j => ⟨rfl, fun _ h => absurd rfl h⟩
  have hdiffer : ∀ (d : Bytes) (k : Nat), d[k]? ≠ sparseContainer[k]? → d ≠ sparseContainer :=
    fun d k hk h => hk (by rw [h])
  refine ⟨hread, ?_, ?_⟩
  · have hin : DifferIn 4 8 sparseContainer (sparseContainer.set 5 1) :=
      ⟨5, by decide, by decide, by decide⟩
    have hnot : ¬DifferIn 0 4 sparseContainer (sparseContainer.set 5 1) :=
      take_eq_take_iff.1 (by decide)
    have hversion : wordAt (sparseContainer.set 5 1) 4 = 257 := by decide
    have hdetected := (corruption_detected sparseContainer (sparseContainer.set 5 1) sparseBundle
      hread (hdiffer _ 5 (by decide))).1
      (differWithin_set (hsame 0 12) (by decide) (by decide))
    rw [hdetected.2.1 hnot hin, hversion]
  · exact ⟨_, _, (corruption_detected sparseContainer lengthened sparseBundle hread
      (hdiffer _ 12 (by decide))).2 12 (Nat.le_refl 12)
      (differWithin_set (differWithin_set (hsame 12 16) (by decide) (by decide)) (by decide)
        (by decide))⟩

end WasmBundle.Proofs
