import WasmBundle.Proofs.ContainerSoundness

/-!
# Containers that are cut off or go on

No field of a container looks behind its end: a reading that does not run out of bytes gives the
same when more bytes follow, and leaves these. `Steady` says so, and it is kept when readings are
put one behind the other. What is cut off a container that can be read is therefore missed, and what
is put behind it is left over, unless the checksum refuses the bytes before.
-/

namespace WasmBundle.Proofs
open Container

/-- The reader with further bytes behind those it has. -/
def followedBy (r : FieldReader) (more : Bytes) : FieldReader := ⟨r.offset, r.rest ++ more⟩

/-- The reading ended for want of bytes. -/
def RanOut {α : Type} (result : Except DecodeError α × FieldReader) : Prop :=
  ∃ position, result.1 = .error (.unexpectedEnd position)

/-- Where the reading does not run out of bytes, it does the same in front of further ones. -/
def Steady {α : Type} (m : Reading α) : Prop :=
  ∀ r more, RanOut (m r) ∨ m (followedBy r more) = ((m r).1, followedBy (m r).2 more)

variable {α β : Type}

lemma steady_pure (x : α) : Steady (pure x) :=
  fun _ _ => .inr rfl

lemma steady_fail (e : DecodeError) : Steady (Reading.fail e : Reading α) :=
  fun _ _ => .inr rfl

lemma steady_offset : Steady Reading.offset :=
  fun _ _ => .inr rfl

lemma steady_slice (n : Nat) : Steady (Reading.slice n) := by
  intro r more
  by_cases hn : n ≤ r.rest.length
  · right
    have hlonger : n ≤ (r.rest ++ more).length := by
      rw [List.length_append]
      omega
    unfold Reading.slice followedBy
    rw [if_pos hn, if_pos hlonger, List.take_append_of_le_length hn,
      List.drop_append_of_le_length hn]
  · left
    refine ⟨r.offset, ?_⟩
    unfold Reading.slice
    rw [if_neg hn]

lemma steady_bind {m : Reading α} {f : α → Reading β} (hm : Steady m) (hf : ∀ x, Steady (f x)) :
    Steady (m >>= f) := by
  intro r more
  have hfirst := hm r more
  simp only [bind]
  cases hread : m r with
  | mk result q =>
    rw [hread] at hfirst
    cases result with
    | error e =>
      rcases hfirst with ⟨position, hout⟩ | hsame
      · cases hout
        exact .inl ⟨position, rfl⟩
      · right
        rw [hsame]
    | ok x =>
      rcases hfirst with ⟨position, hout⟩ | hsame
      · cases hout
      · rw [hsame]
        exact hf x q more

lemma steady_u32 : Steady Reading.u32 :=
  steady_bind (steady_slice 4) fun _ => steady_pure _

lemma steady_u64 : Steady Reading.u64 :=
  steady_bind (steady_slice 8) fun _ => steady_pure _

lemma steady_text : Steady Reading.text := by
  refine steady_bind steady_u32 fun n => steady_bind steady_offset fun start => ?_
  refine steady_bind (steady_slice n.toNat) fun b => ?_
  cases Bytes.text? b with
  | none => exact steady_fail _
  | some s => exact steady_pure s

lemma steady_blob : Steady Reading.blob :=
  steady_bind steady_u64 fun n => steady_slice n.toNat

lemma steady_readModules (n : Nat) (t : ModuleTable) : Steady (readModules n t) := by
  induction n generalizing t with
  | zero => exact steady_pure t
  | succ n ih =>
    refine steady_bind steady_text fun name => steady_bind steady_blob fun bytes => ?_
    by_cases hknown : t.contains name = true
    · rw [if_pos hknown]
      exact steady_fail _
    · rw [if_neg hknown]
      exact ih _

lemma bind_bind {γ : Type} (m : Reading α) (f : α → Reading β) (g : β → Reading γ) :
    (m >>= f) >>= g = m >>= fun x => f x >>= g := by
  funext r
  simp only [bind]
  rcases m r with ⟨_ | x, q⟩ <;> rfl

lemma bind_of_error {m : Reading α} {f : α → Reading β} {r : FieldReader} {e : DecodeError}
    (h : (m r).1 = .error e) : ((m >>= f) r).1 = .error e := by
  simp only [bind]
  rcases hread : m r with ⟨result, q⟩
  rw [hread] at h
  subst h
  rfl

/-- The magic bytes, the version and the checksum, which is not compared with anything yet. -/
def readSignature : Reading UInt32 := do
  let found ← Reading.slice 4
  if found ≠ magic then Reading.fail (.invalidMagic found)
  else
    let version ← Reading.u32
    if version ≠ currentVersion then Reading.fail (.unsupportedVersion version) else Reading.u32

/-- The parts of a payload, whatever follows them. -/
def readParts : Reading Bundle := do
  let shim ← Reading.text
  let count ← Reading.u32
  let modules ← readModules count.toNat .empty
  let root ← Reading.blob
  pure ⟨shim, modules, root⟩

lemma steady_readSignature : Steady readSignature := by
  refine steady_bind (steady_slice 4) fun found => ?_
  split_ifs
  · exact steady_fail _
  · refine steady_bind steady_u32 fun version => ?_
    split_ifs
    · exact steady_fail _
    · exact steady_u32

lemma steady_readParts : Steady readParts :=
  steady_bind steady_text fun _ => steady_bind steady_u32 fun _ =>
    steady_bind (steady_readModules _ _) fun _ => steady_bind steady_blob fun _ => steady_pure _

/-- Compares the checksum with that of the bytes behind it. -/
def compareSum (sum : Bytes → UInt32) (stored : UInt32) : Reading Unit := fun r =>
  if stored ≠ sum r.rest then (.error (.checksumMismatch stored (sum r.rest)), r) else (.ok (), r)

/-- Refuses a bundle that bytes follow. -/
def nothingBehind (b : Bundle) : Reading Bundle := fun r =>
  if 0 < r.rest.length then (.error (.trailingBytes r.rest.length), r) else (.ok b, r)

lemma readHeader_eq_bind (sum : Bytes → UInt32) :
    readHeader sum = readSignature >>= compareSum sum := by
  have hcompare : ∀ stored : UInt32, compareSum sum stored = (do
      let computed ← fun r => (.ok (sum r.rest), r)
      if stored ≠ computed then Reading.fail (.checksumMismatch stored computed) else pure ()) := by
    intro stored
    funext r
    simp only [compareSum, bind]
    split_ifs <;> rfl
  unfold readHeader readSignature
  rw [bind_bind]
  congr 1
  funext found
  split_ifs
  · rfl
  · rw [bind_bind]
    congr 1
    funext version
    split_ifs
    · rfl
    · congr 1
      funext stored
      exact (hcompare stored).symm

lemma readPayload_eq_bind : readPayload = readParts >>= nothingBehind := by
  have hbehind : ∀ b : Bundle, nothingBehind b = (do
      let left ← Reading.remaining
      if 0 < left then Reading.fail (.trailingBytes left) else pure b) := by
    intro b
    funext r
    simp only [nothingBehind, bind, Reading.remaining, FieldReader.remaining]
    split_ifs <;> rfl
  simp only [readPayload, readParts, bind_bind, funext hbehind]
  rfl

section Decoding

variable {sum : Bytes → UInt32} {d : Bytes}

lemma decodeWith_eq_bind (sum : Bytes → UInt32) (d : Bytes) :
    decodeWith sum d = ((readSignature >>= fun stored => compareSum sum stored >>= fun _ =>
      readParts >>= nothingBehind) (.start d)).1 := by
  rw [decodeWith, readBundle, readHeader_eq_bind, readPayload_eq_bind, bind_bind]

lemma decodeWith_of_signature_error {e : DecodeError}
    (h : (readSignature (.start d)).1 = .error e) : decodeWith sum d = .error e := by
  rw [decodeWith_eq_bind]
  exact bind_of_error h

/-- Behind the signature, the checksum is compared before anything is read. -/
lemma decodeWith_of_signature (sum : Bytes → UInt32) {stored : UInt32} {q : FieldReader}
    (h : readSignature (.start d) = (.ok stored, q)) :
    decodeWith sum d = .error (.checksumMismatch stored (sum q.rest)) ∨
      stored = sum q.rest ∧ decodeWith sum d = ((readParts >>= nothingBehind) q).1 := by
  rw [decodeWith_eq_bind, bind_of_ok h]
  by_cases hsum : stored = sum q.rest
  · right
    have hpass : compareSum sum stored q = (.ok (), q) := by
      unfold compareSum
      rw [if_neg (not_not.2 hsum)]
    refine ⟨hsum, ?_⟩
    rw [bind_of_ok hpass]
  · left
    refine bind_of_error ?_
    unfold compareSum
    rw [if_pos hsum]

lemma exists_reader {m : Reading α} {r : FieldReader} {x : α} (h : (m r).1 = .ok x) :
    ∃ q, m r = (.ok x, q) :=
  ⟨(m r).2, Prod.ext h rfl⟩

/-- Of a container that can be read, the signature and the parts are read to the last byte. -/
lemma exists_parts_of_decodeWith {b : Bundle} (h : decodeWith sum d = .ok b) :
    ∃ stored q q', readSignature (.start d) = (.ok stored, q) ∧ readParts q = (.ok b, q') ∧
      q'.rest = [] := by
  rw [decodeWith_eq_bind] at h
  obtain ⟨r, h⟩ := exists_reader h
  obtain ⟨stored, q, hsignature, h⟩ := ok_of_bind h
  obtain ⟨_, q₁, hcompare, h⟩ := ok_of_bind h
  obtain ⟨b', q₂, hparts, h⟩ := ok_of_bind h
  have hsame : q₁ = q := by
    unfold compareSum at hcompare
    split_ifs at hcompare
    · cases hcompare
    · exact (Prod.mk.inj hcompare).2.symm
  have hlast : b' = b ∧ q₂.rest = [] := by
    unfold nothingBehind at h
    split_ifs at h with hbehind
    · cases h
    · exact ⟨Except.ok.inj (Prod.mk.inj h).1,
        List.length_eq_zero_iff.1 (Nat.eq_zero_of_not_pos hbehind)⟩
  obtain ⟨rfl, hend⟩ := hlast
  exact ⟨stored, q, q₂, hsignature, hsame ▸ hparts, hend⟩

lemma length_of_readSignature {r q : FieldReader} {stored : UInt32}
    (h : readSignature r = (.ok stored, q)) : headerSize ≤ r.rest.length := by
  obtain ⟨found, q₁, hmagic, h⟩ := ok_of_bind h
  split_ifs at h
  · cases h
  · obtain ⟨version, q₂, hversion, h⟩ := ok_of_bind h
    split_ifs at h
    · cases h
    · have hfirst := (rest_of_slice hmagic).2
      have hfour := (rest_of_slice hmagic).1
      rw [hfirst, rest_of_u32 hversion, rest_of_u32 h, headerSize]
      simp only [List.length_append, length_littleEndian]
      omega

/-- A part of a container that ends early is refused for the bytes that are missing, unless it is
refused for its checksum; only a part with a whole header has one. -/
theorem decodeWith_of_append {b : Bundle} {p more : Bytes} (hmore : more ≠ [])
    (h : decodeWith sum (p ++ more) = .ok b) :
    (∃ position, decodeWith sum p = .error (.unexpectedEnd position)) ∨
      headerSize ≤ p.length ∧
        ∃ stored computed, decodeWith sum p = .error (.checksumMismatch stored computed) := by
  obtain ⟨stored, q, q', hsignature, hparts, hend⟩ := exists_parts_of_decodeWith h
  rcases steady_readSignature (.start p) more with ⟨position, hout⟩ | hsame
  · exact .inl ⟨position, decodeWith_of_signature_error hout⟩
  · change readSignature (.start (p ++ more)) = _ at hsame
    rw [hsignature] at hsame
    obtain ⟨hstored, hq⟩ := Prod.mk.inj hsame
    obtain ⟨q₀, hread⟩ := exists_reader hstored.symm
    rcases decodeWith_of_signature sum hread with hrefused | ⟨-, hdecode⟩
    · exact .inr ⟨length_of_readSignature hread, _, _, hrefused⟩
    · left
      rcases steady_readParts q₀ more with ⟨position, hout⟩ | hsame'
      · exact ⟨position, hdecode.trans (bind_of_error hout)⟩
      · -- The parts would be complete before the end of the container, which they are not.
        rw [hread] at hq
        change q = followedBy q₀ more at hq
        rw [← hq, hparts] at hsame'
        have hleft := congrArg FieldReader.rest (Prod.mk.inj hsame').2
        rw [hend] at hleft
        exact absurd (List.append_eq_nil_iff.1 hleft.symm).2 hmore

theorem decodeWith_append {b : Bundle} {more : Bytes} (hmore : more ≠ [])
    (h : decodeWith sum d = .ok b) :
    (∃ stored computed, decodeWith sum (d ++ more) = .error (.checksumMismatch stored computed)) ∨
      decodeWith sum (d ++ more) = .error (.trailingBytes more.length) := by
  obtain ⟨stored, q, q', hsignature, hparts, hend⟩ := exists_parts_of_decodeWith h
  have hlonger : readSignature (.start (d ++ more)) = (.ok stored, followedBy q more) := by
    rcases steady_readSignature (.start d) more with ⟨position, hout⟩ | hsame
    · rw [hsignature] at hout
      cases hout
    · rw [hsignature] at hsame
      exact hsame
  have hparts' : readParts (followedBy q more) = (.ok b, followedBy q' more) := by
    rcases steady_readParts q more with ⟨position, hout⟩ | hsame
    · rw [hparts] at hout
      cases hout
    · rw [hparts] at hsame
      exact hsame
  rcases decodeWith_of_signature sum hlonger with hrefused | ⟨-, hdecode⟩
  · exact .inl ⟨_, _, hrefused⟩
  · right
    have hbehind : (followedBy q' more).rest = more := by
      rw [followedBy, hend, List.nil_append]
    rw [hdecode, bind_of_ok hparts']
    unfold nothingBehind
    rw [hbehind, if_pos (List.length_pos_iff.2 hmore)]

end Decoding

/-- Whatever the checksum is: of a container that can be read, every proper beginning is refused,
because bytes are missing or for its checksum, and because bytes are missing if it is shorter than a
header; and with any bytes put behind it the container is refused, for its checksum or for exactly
these bytes. -/
theorem other_lengths_refused (sum : Bytes → UInt32) (d : Bytes) (b : Bundle)
    (hread : decodeWith sum d = .ok b) :
    (∀ p, p <+: d → p ≠ d →
      ((∃ position, decodeWith sum p = .error (.unexpectedEnd position)) ∨
        ∃ stored computed, decodeWith sum p = .error (.checksumMismatch stored computed)) ∧
      (p.length < 12 → ∃ position, decodeWith sum p = .error (.unexpectedEnd position))) ∧
    ∀ more, more ≠ [] →
      (∃ stored computed, decodeWith sum (d ++ more) = .error (.checksumMismatch stored computed)) ∨
        decodeWith sum (d ++ more) = .error (.trailingBytes more.length) := by
  refine ⟨?_, fun more hmore => decodeWith_append hmore hread⟩
  rintro p ⟨more, rfl⟩ hproper
  have hmore : more ≠ [] := by
    rintro rfl
    exact hproper (List.append_nil p).symm
  rcases decodeWith_of_append hmore hread with hout | ⟨hlong, hrefused⟩
  · exact ⟨.inl hout, fun _ => hout⟩
  · refine ⟨.inr hrefused, fun hshort => ?_⟩
    have hheader : 12 ≤ p.length := hlong
    omega

/-- A checksum that tells no bytes apart. -/
def blindSum : Bytes → UInt32 := fun _ => 7

/-- The container of the sparse bundle under that checksum. -/
def blindContainer : Bytes := withHeader blindSum (payloadBytes sparseBundle)

/-- The container is cut in its header and in the name of a module, and a byte is put behind it. -/
theorem other_lengths_refused_sparse :
    decodeWith blindSum blindContainer = .ok sparseBundle ∧
    (∃ position, decodeWith blindSum (blindContainer.take 11) =
      .error (.unexpectedEnd position)) ∧
    ((∃ position, decodeWith blindSum (blindContainer.take 26) =
        .error (.unexpectedEnd position)) ∨
      ∃ stored computed, decodeWith blindSum (blindContainer.take 26) =
        .error (.checksumMismatch stored computed)) ∧
    ((∃ stored computed, decodeWith blindSum (blindContainer ++ [0]) =
        .error (.checksumMismatch stored computed)) ∨
      decodeWith blindSum (blindContainer ++ [0]) = .error (.trailingBytes 1)) := by
  have hread : decodeWith blindSum blindContainer = .ok sparseBundle :=
    (decodeWith_encodeWith blindSum
      ⟨by decide, by decide, by decide, by decide, by decide⟩).2
  obtain ⟨hcut, hbehind⟩ := other_lengths_refused blindSum blindContainer sparseBundle hread
  have hheader := hcut (blindContainer.take 11) (List.take_prefix _ _) (by decide)
  have hname := hcut (blindContainer.take 26) (List.take_prefix _ _) (by decide)
  exact ⟨hread, hheader.2 (by decide), hname.1, hbehind [0] (by decide)⟩

end WasmBundle.Proofs
