import Mathlib.Tactic.Lemma
import Mathlib.Tactic.SplitIfs
import WasmBundle.Script

/-!
# String literals

Literals are read in the notation of JSON: short escapes, escaped code units with pairs of
surrogates, and no raw control characters. A literal that was written for a name is read back as
the name, and what follows a literal does not matter to how it is read.
-/

namespace WasmBundle.Proofs

/-- The character that a letter behind a backslash stands for. -/
def shortEscape? : Char → Option Char
  | '"' => some '"'
  | '\\' => some '\\'
  | '/' => some '/'
  | 'b' => some '\x08'
  | 'f' => some '\x0c'
  | 'n' => some '\n'
  | 'r' => some '\r'
  | 't' => some '\t'
  | _ => none

/-- A code unit of four hexadecimal digits. -/
def codeUnit? : List Char → Option (Nat × List Char)
  | a :: b :: c :: d :: rest => do
    let a ← Bytes.hexValue? a
    let b ← Bytes.hexValue? b
    let c ← Bytes.hexValue? c
    let d ← Bytes.hexValue? d
    return (((a * 16 + b) * 16 + c) * 16 + d, rest)
  | _ => none

/-- The character of a pair of surrogates, the second of which is still to be read. -/
def paired? (high : Nat) : List Char → Option (Char × List Char)
  | '\\' :: 'u' :: rest => do
    let (low, rest) ← codeUnit? rest
    if high < 0xdc00 ∧ 0xdc00 ≤ low ∧ low < 0xe000 then
      return (Char.ofNat (0x10000 + 0x400 * (high - 0xd800) + (low - 0xdc00)), rest)
    else none
  | _ => none

/-- A character behind a backslash. -/
def escaped? : List Char → Option (Char × List Char)
  | [] => none
  | 'u' :: rest => do
    let (code, rest) ← codeUnit? rest
    if code < 0xd800 ∨ 0xe000 ≤ code then return (Char.ofNat code, rest) else paired? code rest
  | c :: rest => (shortEscape? c).map fun x => (x, rest)

/-- The next character of a literal and what follows it. -/
def literalChar? : List Char → Option (Char × List Char)
  | [] => none
  | c :: rest =>
    if c = '\\' then escaped? rest
    else if c = '"' ∨ c.toNat < 32 then none
    else some (c, rest)

/-- The reader uses some of the text, and it reads the same in front of any other rest. -/
def Local (read : List Char → Option (Char × List Char)) : Prop :=
  ∀ ⦃cs c rest⦄, read cs = some (c, rest) →
    ∃ used, used ≠ [] ∧ cs = used ++ rest ∧ ∀ more, read (used ++ more) = some (c, more)

lemma codeUnit?_eq_some {cs rest : List Char} {n : Nat} (h : codeUnit? cs = some (n, rest)) :
    ∃ used, cs = used ++ rest ∧ ∀ more, codeUnit? (used ++ more) = some (n, more) := by
  match cs, h with
  | a :: b :: c :: d :: r, h =>
    simp only [codeUnit?, Option.bind_eq_bind, Option.bind_eq_some_iff, Option.pure_def,
      Option.some.injEq, Prod.mk.injEq] at h
    obtain ⟨w, hw, x, hx, y, hy, z, hz, rfl, rfl⟩ := h
    exact ⟨[a, b, c, d], rfl, fun more => by simp [codeUnit?, hw, hx, hy, hz]⟩

lemma local_paired? (high : Nat) : Local (paired? high) := by
  intro cs c rest h
  unfold paired? at h
  split at h
  · obtain ⟨⟨low, r⟩, hlow, hc⟩ := Option.bind_eq_some_iff.1 h
    obtain ⟨used, rfl, hused⟩ := codeUnit?_eq_some hlow
    dsimp only at hc
    split at hc
    · rename_i hrange
      obtain ⟨rfl, rfl⟩ := Prod.mk.inj (Option.some.inj hc)
      exact ⟨'\\' :: 'u' :: used, by simp, rfl, fun more => by simp [paired?, hused, hrange]⟩
    · cases hc
  · cases h

lemma local_escaped? : Local escaped? := by
  intro cs c rest h
  unfold escaped? at h
  split at h
  · cases h
  · obtain ⟨⟨code, r⟩, hcode, hc⟩ := Option.bind_eq_some_iff.1 h
    obtain ⟨used, rfl, hused⟩ := codeUnit?_eq_some hcode
    dsimp only at hc
    split at hc
    · rename_i hrange
      obtain ⟨rfl, rfl⟩ := Prod.mk.inj (Option.some.inj hc)
      exact ⟨'u' :: used, by simp, rfl, fun more => by simp [escaped?, hused, hrange]⟩
    · rename_i hrange
      obtain ⟨second, -, rfl, hsecond⟩ := local_paired? code hc
      exact ⟨'u' :: used ++ second, by simp, by simp, fun more => by
        simp [escaped?, hused, hrange, hsecond]⟩
  · rename_i x r _
    obtain ⟨y, hy, hc⟩ := Option.map_eq_some_iff.1 h
    cases hc
    exact ⟨[x], by simp, rfl, fun more => by simp [escaped?, hy]⟩

lemma local_literalChar? : Local literalChar? := by
  intro cs c rest h
  unfold literalChar? at h
  split at h
  · cases h
  · rename_i x r
    by_cases hx : x = '\\'
    · rw [if_pos hx] at h
      obtain ⟨used, -, rfl, hused⟩ := local_escaped? h
      exact ⟨x :: used, by simp, rfl, fun more => by simp [literalChar?, hx, hused]⟩
    · rw [if_neg hx] at h
      split at h
      · cases h
      · rename_i hraw
        cases h
        exact ⟨[c], by simp, rfl, fun more => by simp only [literalChar?, List.cons_append,
          List.nil_append, if_neg hx, if_neg hraw]⟩

lemma length_lt_of_literalChar? {cs rest : List Char} {c : Char}
    (h : literalChar? cs = some (c, rest)) : rest.length < cs.length := by
  obtain ⟨used, hne, rfl, -⟩ := local_literalChar? h
  have := List.length_pos_iff.2 hne
  rw [List.length_append]
  omega

/-- The characters up to the closing quote and what follows it. -/
def contents? (cs : List Char) : Option (List Char × List Char) :=
  if cs.head? = some '"' then some ([], cs.tail)
  else
    match _h : literalChar? cs with
    | none => none
    | some (c, rest) => (contents? rest).map fun (s, after) => (c :: s, after)
termination_by cs.length
decreasing_by exact length_lt_of_literalChar? (by assumption)

/-- The text of the literal at the front and what follows the literal. -/
def literal? : List Char → Option (String × List Char)
  | '"' :: rest => (contents? rest).map fun (s, after) => (String.ofList s, after)
  | _ => none

lemma contents?_quote (rest : List Char) : contents? ('"' :: rest) = some ([], rest) := by
  rw [contents?, if_pos List.head?_cons]
  rfl

lemma contents?_of_literalChar? {cs rest : List Char} {c : Char}
    (hc : literalChar? cs = some (c, rest)) :
    contents? cs = (contents? rest).map fun (s, after) => (c :: s, after) := by
  have hquote : cs.head? ≠ some '"' := by
    intro h
    obtain ⟨r, rfl⟩ := List.head?_eq_some_iff.1 h
    simp [literalChar?] at hc
  rw [contents?, if_neg hquote]
  split
  · rename_i hnone
    cases hc.symm.trans hnone
  · rename_i hsome
    cases hc.symm.trans hsome
    rfl

/-- What follows a literal does not matter to how it is read. -/
theorem contents?_append {cs s after : List Char} (h : contents? cs = some (s, after))
    (more : List Char) : contents? (cs ++ more) = some (s, after ++ more) := by
  induction cs using contents?.induct generalizing s with
  | case1 cs hquote =>
    obtain ⟨r, rfl⟩ := List.head?_eq_some_iff.1 hquote
    rw [contents?_quote] at h
    obtain ⟨rfl, rfl⟩ := Prod.mk.inj (Option.some.inj h)
    exact contents?_quote _
  | case2 cs hquote hc =>
    rw [contents?, if_neg hquote] at h
    split at h
    · cases h
    · rename_i hsome
      cases hc.symm.trans hsome
  | case3 cs hquote c rest hc ih =>
    -- the next character is read alike in front of the longer rest
    rw [contents?_of_literalChar? hc] at h
    obtain ⟨⟨t, a⟩, ht, hs⟩ := Option.map_eq_some_iff.1 h
    obtain ⟨rfl, rfl⟩ := Prod.mk.inj hs
    obtain ⟨used, -, rfl, hused⟩ := local_literalChar? hc
    rw [List.append_assoc, contents?_of_literalChar? (hused _), ih ht]
    rfl

theorem literal?_append {cs after : List Char} {name : String}
    (h : literal? cs = some (name, after)) (more : List Char) :
    literal? (cs ++ more) = some (name, after ++ more) := by
  unfold literal? at h
  split at h
  · obtain ⟨⟨s, a⟩, hs, hname⟩ := Option.map_eq_some_iff.1 h
    obtain ⟨rfl, rfl⟩ := Prod.mk.inj hname
    rw [List.cons_append, literal?, contents?_append hs]
    rfl
  · cases h

lemma hexValue?_digitChar {n : Nat} (h : n < 16) : Bytes.hexValue? (Nat.digitChar n) = some n := by
  revert n
  decide

lemma codeUnit?_digits {n : Nat} (h : n < 256) (rest : List Char) :
    codeUnit? ('0' :: '0' :: Nat.digitChar (n / 16) :: Nat.digitChar (n % 16) :: rest) =
      some (n, rest) := by
  have hzero : Bytes.hexValue? '0' = some 0 := rfl
  simp only [codeUnit?, hzero, hexValue?_digitChar (show n / 16 < 16 by omega),
    hexValue?_digitChar (show n % 16 < 16 by omega), Option.bind_eq_bind, Option.bind_some,
    Option.pure_def, Option.some.injEq, Prod.mk.injEq, and_true]
  omega

/-- The next character of a literal is the one that was escaped. -/
theorem literalChar?_escapeChar (c : Char) (rest : List Char) :
    literalChar? (Script.escapeChar c ++ rest) = some (c, rest) := by
  unfold Script.escapeChar
  split_ifs with hquote hslash hline hreturn htab hback hfeed hcontrol
  · subst hquote; rfl
  · subst hslash; rfl
  · subst hline; rfl
  · subst hreturn; rfl
  · subst htab; rfl
  · rw [← Char.ofNat_toNat c, hback]; rfl
  · rw [← Char.ofNat_toNat c, hfeed]; rfl
  · have hcode := codeUnit?_digits (show c.toNat < 256 by omega) rest
    simp only [List.cons_append, List.nil_append, literalChar?, if_pos, escaped?, hcode,
      Option.bind_eq_bind, Option.bind_some]
    rw [if_pos (.inl (by omega)), Char.ofNat_toNat]
    rfl
  · simp [literalChar?, hslash, hquote, hcontrol]

theorem contents?_escaped (s rest : List Char) :
    contents? (s.flatMap Script.escapeChar ++ '"' :: rest) = some (s, rest) := by
  induction s with
  | nil => exact contents?_quote rest
  | cons c s ih =>
    rw [List.flatMap_cons, List.append_assoc,
      contents?_of_literalChar? (literalChar?_escapeChar c _), ih]
    rfl

/-- A name is read back from its literal. -/
theorem literal?_quote (name : String) : literal? (Script.quote name).toList = some (name, []) := by
  rw [Script.quote, String.toList_ofList, List.cons_append, literal?, contents?_escaped]
  simp

lemma not_mem_escapeChar (c : Char) : '\n' ∉ Script.escapeChar c := by
  have hdigit (n : Nat) : '\n' ≠ Nat.digitChar n := (Nat.digitChar_ne '\n' rfl).symm
  unfold Script.escapeChar
  split_ifs with _ _ hline
  case neg => simpa using Ne.symm hline
  all_goals simp [hdigit]

lemma not_mem_quote (name : String) : '\n' ∉ (Script.quote name).toList := by
  have hcontents : '\n' ∉ name.toList.flatMap Script.escapeChar := by
    intro h
    obtain ⟨c, -, hc⟩ := List.mem_flatMap.1 h
    exact not_mem_escapeChar c hc
  simp [Script.quote, hcontents]

end WasmBundle.Proofs
