import Mathlib.Data.List.DropRight
import Mathlib.Data.List.Forall2
import Mathlib.Tactic.Lemma
import WasmBundle.Proofs.BufferExpressions
import WasmBundle.Proofs.StringLiterals
import WasmBundle.Proofs.Utf8Order

/-!
# The layout of scripts

A script is a shim, in front of lines of which all but the registrations and the call that runs the
root module are the same in every script. The shim can be any text, also that of a script, so a
script is read from its last line backwards. `readScript?_of_laid` says that a text is laid out for
one bundle at most; rendering lays a bundle out, so it loses nothing.
-/

namespace WasmBundle.Proofs
open WasmBundle.Script

/-- The text of lines, each with its end. -/
def unlines (lines : List String) : String := String.join (lines.map (· ++ "\n"))

/-- The lines of a text; behind the last end of a line there is one more. -/
def linesOf (text : String) : List String := (splitAtSeparator '\n' text.toList).map String.ofList

/-- The text with the given lines, the last of which has no end. -/
def joinLines (lines : List String) : String :=
  String.ofList (joinWithSeparator '\n' (lines.map String.toList))

lemma joinLines_linesOf (text : String) : joinLines (linesOf text) = text := by
  have h : (fun cs => (String.ofList cs).toList) = (id : List Char → List Char) :=
    funext fun cs => String.toList_ofList
  rw [joinLines, linesOf, List.map_map, Function.comp_def, h, List.map_id,
    joinWithSeparator_splitAtSeparator, String.ofList_toList]

lemma unlines_append (a b : List String) : unlines (a ++ b) = unlines a ++ unlines b := by
  rw [unlines, List.map_append, String.join_append]
  rfl

lemma splitAtSeparator_unlines {lines : List String} (h : ∀ line ∈ lines, '\n' ∉ line.toList) :
    splitAtSeparator '\n' (unlines lines).toList = lines.map String.toList ++ [[]] := by
  induction lines with
  | nil => rfl
  | cons line lines ih =>
    have hline : (unlines (line :: lines)).toList =
        line.toList ++ '\n' :: (unlines lines).toList := by
      simp [unlines]
    rw [hline, splitAtSeparator_append_sep, splitAtSeparator_of_not_mem (h line List.mem_cons_self),
      ih fun l hl => h l (List.mem_cons_of_mem _ hl)]
    rfl

lemma linesOf_append_unlines (text : String) {lines : List String}
    (h : ∀ line ∈ lines, '\n' ∉ line.toList) :
    linesOf (text ++ "\n" ++ unlines lines) = linesOf text ++ lines ++ [""] := by
  have htext : (text ++ "\n" ++ unlines lines).toList =
      text.toList ++ '\n' :: (unlines lines).toList := by
    simp
  rw [linesOf, htext, splitAtSeparator_append_sep, splitAtSeparator_unlines h]
  simp [linesOf]

/-- The lines between the shim and the registrations. -/
def openingLines : List String :=
  ["",
    "var grainModules = \x7b\x7d;",
    "var runner = Grain.buildGrainRunner(function(name) \x7b",
    "  return grainModules[name];",
    "\x7d);",
    ""]

/-- The lines between the registrations and the call that runs the root module. -/
def exportLines : List String :=
  ["",
    "module.exports = function(imports) \x7b",
    "  if (imports && runner.addJSImports) runner.addJSImports(imports);",
    "",
    "  return runner"]

def callOpening : String := "    .runBufferUnboxed("

/-- The call that runs the root module in a buffer. -/
def callLine (buffer : String) : String := callOpening ++ buffer ++ ")"

/-- The lines behind the call. -/
def answerLines : List String :=
  ["    .then(function(result) \x7b",
    "      return Grain.grainToString(runner, result);",
    "    \x7d);",
    "\x7d;"]

def nameOpening : String := "grainModules["

def loadOpening : String := "] = runner.loadBuffer("

/-- The line registers the bytes under the name: its literal is read as the name, and its buffer
holds the bytes. -/
def Registers (entry : String × Bytes) (line : String) : Prop :=
  ∃ literal buffer : String,
    line = nameOpening ++ literal ++ loadOpening ++ buffer ++ ");" ∧
    literal? literal.toList = some (entry.1, []) ∧ Fills buffer entry.2

/-- The lines behind a shim. -/
def linesBehind (registrations : List String) (buffer : String) : List String :=
  openingLines ++ registrations ++ exportLines ++ [callLine buffer] ++ answerLines

/-- The text is laid out for the bundle: the shim comes first, each module has one registration, in
the order of the names, and a call behind all of them has the bytes of the root module. -/
structure Laid (b : Bundle) (registrations : List String) (buffer text : String) : Prop where
  text_eq : text = b.shim ++ "\n" ++ unlines (linesBehind registrations buffer)
  oneLine : ∀ line ∈ linesBehind registrations buffer, '\n' ∉ line.toList
  registers : List.Forall₂ Registers b.modules.entries registrations
  fills : Fills buffer b.root

/-! ## Reading from the end -/

/-- The name and the bytes of a registration. -/
def registration? (line : String) : Option (String × Bytes) := do
  let cs ← between? nameOpening.toList ");".toList line.toList
  let (name, rest) ← literal? cs
  let buffer ← rest.dropPrefix? loadOpening.toList
  let bytes ← bytes? buffer
  return (name, bytes)

/-- The bytes in the call that runs the root module. -/
def callBytes? (line : String) : Option Bytes :=
  (between? callOpening.toList ")".toList line.toList).bind bytes?

instance (entries : List (String × Bytes)) : Decidable (Increasing Prod.fst entries) :=
  inferInstanceAs (Decidable (entries.Pairwise fun a b => a.1 < b.1))

/-- The bundle of a script. The registrations are the lines up to an empty one, counted from the
exported function backwards, and the shim is what is left in front of them. -/
def readScript? (text : String) : Option Bundle := do
  let lines ← (linesOf text).dropSuffix? (answerLines ++ [""])
  let root ← lines.getLast?.bind callBytes?
  let lines ← lines.dropLast.dropSuffix? exportLines
  let shim ← (lines.rdropWhile (· ≠ "")).dropSuffix? openingLines
  let entries ← (lines.rtakeWhile (· ≠ "")).mapM registration?
  if h : Increasing Prod.fst entries then
    some { shim := joinLines shim, modules := ⟨entries, h⟩, root }
  else none

lemma registration?_of_registers {entry : String × Bytes} {line : String}
    (h : Registers entry line) : registration? line = some entry := by
  obtain ⟨literal, buffer, rfl, hname, hbytes⟩ := h
  have hbetween := between?_append nameOpening.toList
    (literal.toList ++ (loadOpening.toList ++ buffer.toList)) ");".toList
  simp only [List.append_assoc] at hbetween
  simp only [registration?, String.toList_append, List.append_assoc, hbetween,
    Option.bind_eq_bind, Option.bind_some, literal?_append hname, List.nil_append,
    dropPrefix?_append, bytes?_of_fills hbytes, Option.pure_def]

lemma mapM_registration? {entries : List (String × Bytes)} {lines : List String}
    (h : List.Forall₂ Registers entries lines) : lines.mapM registration? = some entries := by
  induction h with
  | nil => rfl
  | cons hline _ ih =>
    rw [List.mapM_cons, registration?_of_registers hline, ih]
    rfl

lemma callBytes?_callLine {buffer : String} {bytes : Bytes} (h : Fills buffer bytes) :
    callBytes? (callLine buffer) = some bytes := by
  rw [callBytes?, callLine, String.toList_append, String.toList_append, between?_append,
    Option.bind_some, bytes?_of_fills h]

lemma ne_empty_of_registers {entry : String × Bytes} {line : String} (h : Registers entry line) :
    line ≠ "" := by
  obtain ⟨literal, buffer, rfl, -, -⟩ := h
  simp [nameOpening]

lemma forall_ne_empty {entries : List (String × Bytes)} {lines : List String}
    (h : List.Forall₂ Registers entries lines) : ∀ line ∈ lines, line ≠ "" := by
  induction h with
  | nil => exact fun line hline => absurd hline List.not_mem_nil
  | cons hline _ ih => exact List.forall_mem_cons.2 ⟨ne_empty_of_registers hline, ih⟩

lemma part_at_empty (front : List String) {lines : List String} (h : ∀ line ∈ lines, line ≠ "") :
    (front ++ [""] ++ lines).rdropWhile (· ≠ "") = front ++ [""] ∧
      (front ++ [""] ++ lines).rtakeWhile (· ≠ "") = lines := by
  have hlines : ∀ line ∈ lines.reverse, (decide (line ≠ "")) = true := fun line hline =>
    decide_eq_true (h line (List.mem_reverse.1 hline))
  rw [List.rdropWhile, List.rtakeWhile, List.reverse_append, List.reverse_append,
    List.dropWhile_append_of_pos hlines, List.takeWhile_append_of_pos hlines]
  simp

/-- A text is laid out for one bundle at most, the one that is read from it. -/
theorem readScript?_of_laid {b : Bundle} {registrations : List String} {buffer text : String}
    (h : Laid b registrations buffer text) : readScript? text = some b := by
  have hlines : linesOf text = linesOf b.shim ++ openingLines ++ registrations ++ exportLines ++
      [callLine buffer] ++ (answerLines ++ [""]) := by
    rw [h.text_eq, linesOf_append_unlines b.shim h.oneLine, linesBehind]
    simp only [List.append_assoc]
  have hopening : openingLines = openingLines.dropLast ++ [""] := rfl
  have hparts :=
    part_at_empty (linesOf b.shim ++ openingLines.dropLast) (forall_ne_empty h.registers)
  rw [List.append_assoc (linesOf b.shim), ← hopening] at hparts
  simp only [readScript?, hlines, dropSuffix?_append, Option.bind_eq_bind, Option.bind_some,
    List.getLast?_concat, callBytes?_callLine h.fills, List.dropLast_concat, hparts.1, hparts.2,
    mapM_registration? h.registers]
  rw [dif_pos b.modules.increasing, joinLines_linesOf]

/-! ## Rendering -/

/-- The line that registers a module, without its end. -/
def registrationLine (entry : String × Bytes) : String :=
  nameOpening ++ quote entry.1 ++ loadOpening ++ arrayBuffer entry.2 ++ ");"

lemma registers_registrationLine (entry : String × Bytes) :
    Registers entry (registrationLine entry) :=
  ⟨quote entry.1, arrayBuffer entry.2, rfl, literal?_quote entry.1, fills_arrayBuffer entry.2⟩

lemma not_mem_registrationLine (entry : String × Bytes) :
    '\n' ∉ (registrationLine entry).toList := by
  simp only [registrationLine, String.toList_append, List.mem_append, not_or]
  exact ⟨⟨⟨⟨by decide, not_mem_quote entry.1⟩, by decide⟩, not_mem_arrayBuffer entry.2⟩, by decide⟩

lemma not_mem_callLine (b : Bytes) : '\n' ∉ (callLine (arrayBuffer b)).toList := by
  simp only [callLine, String.toList_append, List.mem_append, not_or]
  exact ⟨⟨by decide, not_mem_arrayBuffer b⟩, by decide⟩

lemma registration_eq (entry : String × Bytes) :
    registration entry = registrationLine entry ++ "\n" :=
  calc registration entry
      = nameOpening ++ quote entry.1 ++ loadOpening ++ arrayBuffer entry.2 ++ (");" ++ "\n") := rfl
    _ = registrationLine entry ++ "\n" := String.append_assoc.symm

lemma preamble_eq : preamble = "\n" ++ unlines openingLines := by
  simp [preamble, unlines, openingLines]

lemma registrations_eq (entries : List (String × Bytes)) :
    String.join (entries.map registration) = unlines (entries.map registrationLine) := by
  rw [unlines, List.map_map]
  exact congrArg String.join (List.map_congr_left fun entry _ => registration_eq entry)

lemma entryPoint_eq (root : Bytes) :
    entryPoint root =
      unlines exportLines ++ unlines [callLine (arrayBuffer root)] ++ unlines answerLines := by
  have hexporting : unlines exportLines =
      "\nmodule.exports = function(imports) \x7b\n" ++
      "  if (imports && runner.addJSImports) runner.addJSImports(imports);\n\n" ++
      "  return runner\n" := by
    simp [unlines, exportLines]
  have hcall : unlines [callLine (arrayBuffer root)] =
      "    .runBufferUnboxed(" ++ arrayBuffer root ++ ")\n" := by
    simp [unlines, callLine, callOpening, String.append_assoc]
  have hanswering : unlines answerLines =
      "    .then(function(result) \x7b\n" ++
      "      return Grain.grainToString(runner, result);\n" ++
      "    \x7d);\n" ++
      "\x7d;\n" := by
    simp [unlines, answerLines]
  -- over variables, since the texts themselves are slow to compare
  have hgroups (a b c d e f g h i x : String) :
      a ++ b ++ c ++ d ++ x ++ e ++ f ++ g ++ h ++ i =
        a ++ b ++ c ++ (d ++ x ++ e) ++ (f ++ g ++ h ++ i) := by
    simp only [String.append_assoc]
  exact (hgroups ..).trans
    (congrArg₂ (· ++ ·) (congrArg₂ (· ++ ·) hexporting hcall) hanswering).symm

/-- A bundle is laid out in the script it is rendered as. -/
theorem laid_render (b : Bundle) :
    Laid b (b.modules.entries.map registrationLine) (arrayBuffer b.root) (render b) where
  text_eq := by
    rw [render, preamble_eq, registrations_eq, entryPoint_eq, linesBehind]
    simp only [unlines_append, String.append_assoc]
  oneLine := by
    have hopening : ∀ line ∈ openingLines, '\n' ∉ line.toList := by decide
    have hexporting : ∀ line ∈ exportLines, '\n' ∉ line.toList := by decide
    have hanswering : ∀ line ∈ answerLines, '\n' ∉ line.toList := by decide
    simp only [linesBehind, List.forall_mem_append, List.forall_mem_map,
      List.forall_mem_singleton]
    exact ⟨⟨⟨⟨hopening, fun entry _ => not_mem_registrationLine entry⟩, hexporting⟩,
      not_mem_callLine b.root⟩, hanswering⟩
  registers := by
    rw [List.forall₂_map_right_iff]
    exact List.forall₂_same.2 fun entry _ => registers_registrationLine entry
  fills := fills_arrayBuffer b.root

lemma names_increasing (t : ModuleTable) : (t.names.map Bytes.utf8).Pairwise (· < ·) := by
  rw [ModuleTable.names, List.map_map, List.pairwise_map]
  exact t.increasing.imp fun h => (utf8_lt_utf8_iff _ _).2 h

/-- Rendering loses nothing: a bundle is laid out in its script and read back from it, so that
different bundles have different scripts. -/
theorem render_lossless (b : Bundle) :
    (∃ registrations buffer, Laid b registrations buffer (render b)) ∧
      (b.modules.names.map Bytes.utf8).Pairwise (· < ·) ∧
      readScript? (render b) = some b ∧
      ∀ c, render c = render b ↔ c = b := by
  have hread (c : Bundle) : readScript? (render c) = some c := readScript?_of_laid (laid_render c)
  refine ⟨⟨_, _, laid_render b⟩, names_increasing b.modules, hread b, fun c => ⟨fun h => ?_, ?_⟩⟩
  · have hc := hread c
    rw [h, hread b] at hc
    exact (Option.some.inj hc).symm
  · rintro rfl
    rfl

end WasmBundle.Proofs
