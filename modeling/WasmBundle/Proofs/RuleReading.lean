import Mathlib.Data.List.Basic
import WasmBundle.DependencyRule
import WasmBundle.Proofs.PathTexts

/-!
# Dependency rules read back

A rule is read back by cutting it behind its first colon with a space and then at every space that
no backslash precedes. Inside a path a backslash precedes every space, so no path is ever cut; but
where a path ends in a backslash, that of its end takes the space behind it into the path. So a rule
reads back exactly when no path that another one follows ends in a backslash.
-/

namespace WasmBundle.Proofs
open DependencyRule

/-- The texts before and behind the first colon that a space follows. -/
def cutAtColon? : List Char → Option (List Char × List Char)
  | [] => none
  | ':' :: ' ' :: r => some ([], r)
  | c :: r => (cutAtColon? r).map (Prod.map (c :: ·) id)

def intoFirst (c : Char) : List (List Char) → List (List Char)
  | [] => [[c]]
  | part :: parts => (c :: part) :: parts

/-- The parts of a text between the spaces that no backslash precedes. The character in front of the
text is given. -/
def plainParts : Char → List Char → List (List Char)
  | _, [] => [[]]
  | before, c :: r =>
    if c = ' ' ∧ before ≠ '\\' then [] :: plainParts c r else intoFirst c (plainParts c r)

/-- The text with a space for every backslash that a space follows. -/
def unescape : List Char → List Char
  | [] => []
  | '\\' :: ' ' :: r => ' ' :: unescape r
  | c :: r => c :: unescape r

def unescapedPath (part : List Char) : Path := .ofText (String.ofList (unescape part))

/-- The target and the sources of a rule, read from its line. -/
def readRule? (rule : String) : Option (Path × List Path) :=
  (cutAtColon? rule.toList.dropLast).map
    (Prod.map unescapedPath fun sources => (plainParts ' ' sources).map unescapedPath)

def EndsInBackslash (p : Path) : Prop := p.text.toList.getLast? = some '\\'

instance : DecidablePred EndsInBackslash := fun p =>
  inferInstanceAs (Decidable (p.text.toList.getLast? = some '\\'))

/-- The paths are texts. -/
def Texts (paths : List Path) : Prop := ∀ p ∈ paths, p.bytes.isText = true

instance (paths : List Path) : Decidable (Texts paths) :=
  inferInstanceAs (Decidable (∀ p ∈ paths, p.bytes.isText = true))

/-- No path that another one follows ends in a backslash. -/
def Separable (paths : List Path) : Prop := ∀ p ∈ paths.dropLast, ¬EndsInBackslash p

instance (paths : List Path) : Decidable (Separable paths) :=
  inferInstanceAs (Decidable (∀ p ∈ paths.dropLast, ¬EndsInBackslash p))

/-- The text of a rule behind the colon and its space. -/
def sourcesText (p : Path) (ps : List Path) : List Char :=
  escape p ++ ps.flatMap fun q => ' ' :: escape q

variable {c : Char} {cs r : List Char}

lemma escapeChar_of_ne (h : c ≠ ' ') : escapeChar c = [c] := if_neg h

lemma head?_escaped (cs : List Char) (h : r.head? ≠ some ' ') :
    (cs.flatMap escapeChar ++ r).head? ≠ some ' ' := by
  cases cs with
  | nil => exact h
  | cons c cs =>
    by_cases hc : c = ' '
    · simp [hc, escapeChar]
    · simp [escapeChar_of_ne hc, hc]

lemma unescape_cons (h : r.head? ≠ some ' ') : unescape (c :: r) = c :: unescape r := by
  conv_lhs => unfold unescape
  split <;> simp_all

lemma cutAtColon?_cons (h : c ≠ ':' ∨ r.head? ≠ some ' ') :
    cutAtColon? (c :: r) = (cutAtColon? r).map (Prod.map (c :: ·) id) := by
  conv_lhs => unfold cutAtColon?
  split <;> simp_all

theorem unescape_escaped (cs : List Char) : unescape (cs.flatMap escapeChar) = cs := by
  induction cs with
  | nil => rfl
  | cons c cs ih =>
    by_cases hc : c = ' '
    · subst hc
      simp [escapeChar, unescape, ih]
    · have hhead : (cs.flatMap escapeChar).head? ≠ some ' ' := by
        have hnil := head?_escaped (r := []) cs (by simp)
        rwa [List.append_nil] at hnil
      rw [List.flatMap_cons, escapeChar_of_ne hc, List.singleton_append, unescape_cons hhead, ih]

/-- A colon in an escaped text is followed by no space. -/
theorem cutAtColon?_escaped (cs r : List Char) :
    cutAtColon? (cs.flatMap escapeChar ++ ':' :: ' ' :: r) = some (cs.flatMap escapeChar, r) := by
  induction cs with
  | nil => rfl
  | cons c cs ih =>
    by_cases hc : c = ' '
    · subst hc
      have hspace : cutAtColon? (' ' :: (cs.flatMap escapeChar ++ ':' :: ' ' :: r)) =
          some (' ' :: cs.flatMap escapeChar, r) := by
        rw [cutAtColon?_cons (.inl (by decide)), ih]
        rfl
      have htext : (' ' :: cs).flatMap escapeChar ++ ':' :: ' ' :: r =
          '\\' :: ' ' :: (cs.flatMap escapeChar ++ ':' :: ' ' :: r) := rfl
      rw [htext, cutAtColon?_cons (.inl (by decide)), hspace]
      rfl
    · have hhead := head?_escaped (r := ':' :: ' ' :: r) cs (by simp)
      rw [List.flatMap_cons, escapeChar_of_ne hc, List.singleton_append, List.cons_append,
        cutAtColon?_cons (.inr hhead), ih]
      rfl

lemma plainParts_cons_of_ne {before : Char} (h : c ≠ ' ' ∨ before = '\\') {part : List Char}
    {parts : List (List Char)} (hr : plainParts c r = part :: parts) :
    plainParts before (c :: r) = (c :: part) :: parts := by
  have hnot : ¬(c = ' ' ∧ before ≠ '\\') := by
    rintro ⟨hc, hb⟩
    exact h.elim (absurd hc) hb
  rw [plainParts, if_neg hnot, hr, intoFirst]

lemma plainParts_ne_nil (before : Char) (cs : List Char) : plainParts before cs ≠ [] := by
  cases cs with
  | nil => simp [plainParts]
  | cons c r =>
    rw [plainParts]
    split
    · simp
    · cases plainParts c r <;> simp [intoFirst]

/-- No escaped text is cut. What follows it is read behind its last character. -/
lemma plainParts_escaped {before : Char} {part : List Char} {parts : List (List Char)}
    (h : plainParts (cs.getLastD before) r = part :: parts) :
    plainParts before (cs.flatMap escapeChar ++ r) = (cs.flatMap escapeChar ++ part) :: parts := by
  induction cs generalizing before with
  | nil => exact h
  | cons c cs ih =>
    rw [List.getLastD_cons] at h
    have hrest := ih h
    by_cases hc : c = ' '
    · -- The space is read behind the backslash that was put in front of it.
      subst hc
      exact plainParts_cons_of_ne (.inl (by decide)) (plainParts_cons_of_ne (.inr rfl) hrest)
    · rw [List.flatMap_cons, escapeChar_of_ne hc]
      exact plainParts_cons_of_ne (.inl hc) hrest

lemma getLastD_eq_backslash_iff (p : Path) :
    p.text.toList.getLastD ' ' = '\\' ↔ EndsInBackslash p := by
  rw [EndsInBackslash, List.getLastD_eq_getLast?]
  cases p.text.toList.getLast? <;> simp

/-- A path is the first part, unless it ends in a backslash: then what follows is joined to it. -/
lemma plainParts_sourcesText_cons (p q : Path) (qs : List Path) :
    ∃ part parts, plainParts ' ' (sourcesText q qs) = part :: parts ∧
      plainParts ' ' (sourcesText p (q :: qs)) =
        if EndsInBackslash p then (escape p ++ ' ' :: part) :: parts
        else escape p :: part :: parts := by
  obtain ⟨part, parts, hparts⟩ :=
    List.exists_cons_of_ne_nil (plainParts_ne_nil ' ' (sourcesText q qs))
  refine ⟨part, parts, hparts, ?_⟩
  have htext : sourcesText p (q :: qs) =
      p.text.toList.flatMap escapeChar ++ ' ' :: sourcesText q qs := rfl
  rw [htext]
  by_cases hp : EndsInBackslash p
  · rw [if_pos hp]
    exact plainParts_escaped
      (plainParts_cons_of_ne (.inr ((getLastD_eq_backslash_iff p).2 hp)) hparts)
  · have hlast : p.text.toList.getLastD ' ' ≠ '\\' := fun h =>
      hp ((getLastD_eq_backslash_iff p).1 h)
    have hcut : plainParts (p.text.toList.getLastD ' ') (' ' :: sourcesText q qs) =
        [] :: part :: parts := by
      rw [plainParts, if_pos ⟨rfl, hlast⟩, hparts]
    rw [if_neg hp, plainParts_escaped hcut, List.append_nil]
    rfl

lemma plainParts_sourcesText_nil (p : Path) : plainParts ' ' (sourcesText p []) = [escape p] := by
  have hend : plainParts (p.text.toList.getLastD ' ') [] = [] :: [] := rfl
  have hparts := plainParts_escaped hend
  rw [List.append_nil] at hparts
  rw [sourcesText, List.flatMap_nil, List.append_nil]
  exact hparts

theorem plainParts_of_separable (p : Path) (ps : List Path) (h : Separable (p :: ps)) :
    plainParts ' ' (sourcesText p ps) = (p :: ps).map escape := by
  induction ps generalizing p with
  | nil => exact plainParts_sourcesText_nil p
  | cons q qs ih =>
    obtain ⟨part, parts, hrest, hparts⟩ := plainParts_sourcesText_cons p q qs
    obtain ⟨hp, hqs⟩ := List.forall_mem_cons.1 h
    rw [hparts, if_neg hp, ← hrest, ih q hqs]
    rfl

/-- Every path that is joined with the next one makes one part less. -/
theorem length_plainParts (p : Path) (ps : List Path) :
    (plainParts ' ' (sourcesText p ps)).length + (p :: ps).dropLast.countP EndsInBackslash =
      ps.length + 1 := by
  induction ps generalizing p with
  | nil =>
    rw [plainParts_sourcesText_nil]
    rfl
  | cons q qs ih =>
    obtain ⟨part, parts, hrest, hparts⟩ := plainParts_sourcesText_cons p q qs
    have hlength := ih q
    rw [hrest, List.length_cons] at hlength
    rw [hparts, List.dropLast_cons_cons, List.countP_cons, List.length_cons]
    by_cases hp : EndsInBackslash p
    · simp only [hp, ite_true, decide_true, List.length_cons]
      omega
    · simp only [hp, ite_false, decide_false, List.length_cons, Bool.false_eq_true]
      omega

lemma dropLast_render (output shim : Path) (report : List Path) :
    (render output shim report).toList.dropLast =
      output.text.toList.flatMap escapeChar ++ ':' :: ' ' :: sourcesText shim report := by
  rw [render, String.toList_ofList, List.dropLast_concat]
  rfl

lemma unescapedPath_escape (p : Path) : unescapedPath (escape p) = .ofText p.text := by
  rw [unescapedPath, escape, unescape_escaped, String.ofList_toList]

lemma readRule?_render (output shim : Path) (report : List Path) :
    readRule? (render output shim report) = some (.ofText output.text,
      (plainParts ' ' (sourcesText shim report)).map unescapedPath) := by
  rw [readRule?, dropLast_render, cutAtColon?_escaped, Option.map_some, Prod.map_apply]
  exact congrArg (fun target => some (target, _)) (unescapedPath_escape output)

lemma map_unescapedPath_eq_iff (paths : List Path) :
    (paths.map escape).map unescapedPath = paths ↔ Texts paths := by
  induction paths with
  | nil => simp [Texts]
  | cons p ps ih =>
    rw [List.map_cons, List.map_cons, List.cons.injEq, unescapedPath_escape, ofText_text_iff, ih,
      Texts, Texts, List.forall_mem_cons]

/-- The paths of a rule are read back exactly when they are texts and the sources are separable. -/
theorem readRule?_eq_iff (output shim : Path) (report : List Path) :
    readRule? (render output shim report) = some (output, shim :: report) ↔
      Texts (output :: shim :: report) ∧ Separable (shim :: report) := by
  rw [readRule?_render, Option.some.injEq, Prod.mk.injEq, ofText_text_iff, Texts,
    List.forall_mem_cons, and_assoc]
  refine and_congr_right fun _ => ⟨fun h => ?_, fun ⟨htexts, hseparable⟩ => ?_⟩
  · -- As many parts as paths are left only if no two of these were joined.
    have hlength := congrArg List.length h
    have hcount := length_plainParts shim report
    rw [List.length_map, List.length_cons] at hlength
    have hnone : (shim :: report).dropLast.countP EndsInBackslash = 0 := by omega
    have hseparable : Separable (shim :: report) := by
      simpa [Separable] using List.countP_eq_zero.1 hnone
    rw [plainParts_of_separable shim report hseparable] at h
    exact ⟨(map_unescapedPath_eq_iff _).1 h, hseparable⟩
  · rw [plainParts_of_separable shim report hseparable]
    exact (map_unescapedPath_eq_iff _).2 htexts

/-- The target of a rule is read back if it is a text, whatever the sources are, and all paths
exactly when they are texts and none that another one follows ends in a backslash. Of outputs, shims
and reports of which this holds no two have the same rule. -/
theorem rule_reads_back (output shim : Path) (report : List Path) :
    (output.bytes.isText = true →
      ∃ sources, readRule? (render output shim report) = some (output, sources)) ∧
    (readRule? (render output shim report) = some (output, shim :: report) ↔
      Texts (output :: shim :: report) ∧ Separable (shim :: report)) ∧
    ∀ output' shim' report', Texts (output :: shim :: report) →
      Texts (output' :: shim' :: report') → Separable (shim :: report) →
      Separable (shim' :: report') →
      render output shim report = render output' shim' report' →
        output = output' ∧ shim = shim' ∧ report = report' := by
  refine ⟨fun htext => ?_, readRule?_eq_iff output shim report, ?_⟩
  · have hread := readRule?_render output shim report
    rw [ofText_text_iff.2 htext] at hread
    exact ⟨_, hread⟩
  intro output' shim' report' htexts htexts' hseparable hseparable' hrule
  have hread := (readRule?_eq_iff output shim report).2 ⟨htexts, hseparable⟩
  have hread' := (readRule?_eq_iff output' shim' report').2 ⟨htexts', hseparable'⟩
  rw [hrule, hread'] at hread
  cases hread
  exact ⟨rfl, rfl, rfl⟩

/-- There are backslashes before spaces and at the end of the last path, and colons before spaces.
-/
theorem rule_reads_back_spaced :
    (Path.ofText "my: out.js:").bytes.isText = true ∧
    Texts ["my: out.js:", "a\\ b", ": ", "end\\"] ∧ Separable ["a\\ b", ": ", "end\\"] ∧
    Texts ["my: out.js:", "a", "b", ": ", "end\\"] ∧ Separable ["a", "b", ": ", "end\\"] ∧
    (∃ sources, readRule? (render "my: out.js:" "a\\ b" [": ", "end\\"]) =
      some (.ofText "my: out.js:", sources)) ∧
    readRule? (render "my: out.js:" "a\\ b" [": ", "end\\"]) =
      some (.ofText "my: out.js:", [.ofText "a\\ b", .ofText ": ", .ofText "end\\"]) ∧
    render "my: out.js:" "a\\ b" [": ", "end\\"] ≠
      render "my: out.js:" "a" ["b", ": ", "end\\"] := by
  have htarget : (Path.ofText "my: out.js:").bytes.isText = true := Bytes.isText_utf8 _
  have htexts : Texts ["my: out.js:", "a\\ b", ": ", "end\\"] := by simp [Texts, Path.ofText]
  have hspaced : Separable ["a\\ b", ": ", "end\\"] := by simp [Separable, EndsInBackslash]
  have htexts' : Texts ["my: out.js:", "a", "b", ": ", "end\\"] := by simp [Texts, Path.ofText]
  have hparted : Separable ["a", "b", ": ", "end\\"] := by simp [Separable, EndsInBackslash]
  obtain ⟨houtput, hread, hdiffer⟩ := rule_reads_back "my: out.js:" "a\\ b" [": ", "end\\"]
  refine ⟨htarget, htexts, hspaced, htexts', hparted, houtput htarget, hread.2 ⟨htexts, hspaced⟩,
    fun hsame => ?_⟩
  obtain ⟨-, hshim, -⟩ := hdiffer _ _ _ htexts htexts' hspaced hparted hsame
  exact absurd hshim (by decide)

/-- A path that ends in a backslash is read as one with the next, as is a path with a space. -/
theorem rule_merges_sources :
    (∀ p ∈ (["out.js", "shim\\", "lib/a", "shim lib/a"] : List Path),
      p.isEmpty = false ∧ p.bytes.isText = true ∧ '\n' ∉ p.text.toList) ∧
    readRule? (render "out.js" "shim\\" ["lib/a"]) =
      some (.ofText "out.js", [.ofText "shim lib/a"]) ∧
    render "out.js" "shim\\" ["lib/a"] = render "out.js" "shim lib/a" [] := by
  have htexts : ∀ p ∈ (["out.js", "shim\\", "lib/a", "shim lib/a"] : List Path),
      p.bytes.isText = true := by simp [Path.ofText]
  simp only [render, escape, List.flatMap_cons, List.flatMap_nil, text_ofText]
  refine ⟨fun p hp => ⟨?_, htexts p hp, ?_⟩, ?_, ?_⟩
  · revert p
    decide
  · revert p
    simp
  · decide
  · decide

end WasmBundle.Proofs
