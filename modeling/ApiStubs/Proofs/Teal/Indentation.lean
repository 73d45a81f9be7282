import ApiStubs.Teal.Part
import Mathlib.Data.List.Basic

/-!
# Indented lines

An indentation stands in front of every line of parts that is not empty, however deep the blocks in
them go, and the lines of parts are those of one part after the other. So a change to the lines of
the outermost level leaves the lines of the blocks as they are.

- `Part.linesOf_append_indentation` is the induction over parts and their blocks.
- `linesOf_append` is the induction over parts side by side.
- `SourcedLine` keeps apart the lines of the outermost level and those of blocks.
-/

namespace ApiStubs.Teal

/-- The lines of parts are those of the first ones and then those of the others. -/
theorem linesOf_append (indentation : String) (first second : List Part) :
    Part.linesOf indentation (first ++ second) =
      Part.linesOf indentation first ++ Part.linesOf indentation second := by
  induction first with
  | nil => rfl
  | cons part rest inductionHypothesis =>
      rw [List.cons_append, Part.linesOf, Part.linesOf, inductionHypothesis, List.append_assoc]

/-- The lines of parts are those of each part, one after the other. -/
theorem linesOf_eq_flatMap (indentation : String) (parts : List Part) :
    Part.linesOf indentation parts = parts.flatMap (Part.lines indentation) := by
  induction parts with
  | nil => rfl
  | cons part rest inductionHypothesis =>
      rw [Part.linesOf, inductionHypothesis, List.flatMap_cons]

namespace Part

/-! ## Deeper indentations -/

/-- An indentation that goes on is put in front of a line in two steps. -/
theorem indentLine_append (outer inner text : String) :
    indentLine (outer ++ inner) text = indentLine outer (indentLine inner text) := by
  by_cases isEmpty : text = ""
  · simp [indentLine, isEmpty]
  · simp [indentLine, isEmpty, String.append_assoc]

/-- No indentation leaves a line as it is. -/
@[simp] theorem indentLine_empty (text : String) : indentLine "" text = text := by
  by_cases isEmpty : text = "" <;> simp [indentLine, isEmpty]

mutual

/-- An indentation that goes on is put in front of the lines of a part in two steps. A block goes on
with a tab. -/
theorem lines_append_indentation (outer inner : String) (part : Part) :
    part.lines (outer ++ inner) = (part.lines inner).map (indentLine outer) := by
  match part with
  | .line text => rw [lines, lines, List.map_singleton, indentLine_append]
  | .block body => rw [lines, lines, String.append_assoc, linesOf_append_indentation]

/-- An indentation that goes on is put in front of the lines of several parts in two steps. -/
theorem linesOf_append_indentation (outer inner : String) (parts : List Part) :
    linesOf (outer ++ inner) parts = (linesOf inner parts).map (indentLine outer) := by
  match parts with
  | [] => rw [linesOf, linesOf, List.map_nil]
  | part :: rest =>
      rw [linesOf, linesOf, List.map_append, lines_append_indentation, linesOf_append_indentation]

end

end Part

/-! ## Lines of the outermost level -/

/-- A line, and whether it is one of the outermost level or stands in a block. -/
structure SourcedLine where
  text : String
  isOutermost : Bool

namespace SourcedLine

/-- The lines of a part, with the level that each comes from. -/
def ofPart : Part → List SourcedLine
  | .line text => [⟨text, true⟩]
  | .block body => (Part.linesOf "\t" body).map (⟨·, false⟩)

/-- The lines of parts, with the level that each comes from. -/
def ofParts (parts : List Part) : List SourcedLine :=
  parts.flatMap ofPart

/-- A declaration of the outermost level: neither empty nor the end of a block nor a comment. -/
def IsOutermostDeclaration (line : SourcedLine) : Prop :=
  line.isOutermost = true ∧ line.text ≠ "" ∧ line.text ≠ "end" ∧
    Text.beginsWith line.text "--" = false

instance (line : SourcedLine) : Decidable line.IsOutermostDeclaration :=
  inferInstanceAs (Decidable (_ ∧ _ ∧ _ ∧ _))

/-- A line as it is shown when the declarations of the outermost level are made global. -/
def exposed (line : SourcedLine) : String :=
  if line.IsOutermostDeclaration then "global " ++ line.text else line.text

/-- The texts of the lines are the lines of the parts. -/
theorem map_text_ofParts (parts : List Part) :
    (ofParts parts).map SourcedLine.text = Part.linesOf "" parts := by
  rw [linesOf_eq_flatMap, ofParts, List.map_flatMap]
  refine List.flatMap_congr fun part _ => ?_
  cases part with
  | line text => simp [ofPart, Part.lines]
  | block body => simp [ofPart, Part.lines, Function.comp_def]

/-- A line of the outermost level is a declaration when its text is. -/
theorem exposed_outermost (text : String) : exposed ⟨text, true⟩ = Part.exposeLine text := by
  simp only [exposed, IsOutermostDeclaration, Part.exposeLine, Part.isDeclaration, true_and]
  congr 1
  simp [and_comm, and_left_comm]

/-- A line of a block is shown as it is. -/
theorem exposed_inside (text : String) : exposed ⟨text, false⟩ = text :=
  if_neg fun isDeclaration => Bool.noConfusion isDeclaration.1

/-- Making declarations global changes those of the outermost level alone. -/
theorem map_exposed_ofParts (parts : List Part) :
    (ofParts parts).map exposed = Part.linesOf "" (Part.expose parts) := by
  rw [linesOf_eq_flatMap, Part.expose, List.flatMap_map, ofParts, List.map_flatMap]
  refine List.flatMap_congr fun part _ => ?_
  cases part with
  | line text => simp [ofPart, Part.exposePart, Part.lines, exposed_outermost]
  | block body =>
      simp [ofPart, Part.exposePart, Part.lines, Function.comp_def, exposed_inside]

end SourcedLine

/-- The lines of parts behind an indentation are their lines with the indentation in front of those
that are not empty; the lines of parts side by side are those of one after the other; and making
declarations global puts the word in front of the declarations of the outermost level, and leaves
every other line as it is. -/
theorem indentation_is_compositional (indentation : String) (parts others : List Part) :
    Part.linesOf indentation parts =
        (Part.linesOf "" parts).map (fun line => if line = "" then "" else indentation ++ line) ∧
      Part.linesOf indentation (parts ++ others) =
        Part.linesOf indentation parts ++ Part.linesOf indentation others ∧
      Part.linesOf "" parts = (SourcedLine.ofParts parts).map SourcedLine.text ∧
      Part.linesOf "" (Part.expose parts) = (SourcedLine.ofParts parts).map fun line =>
        if line.IsOutermostDeclaration then "global " ++ line.text else line.text := by
  refine ⟨?_, linesOf_append .., (SourcedLine.map_text_ofParts parts).symm,
    (SourcedLine.map_exposed_ofParts parts).symm⟩
  have indented := Part.linesOf_append_indentation indentation "" parts
  rwa [String.append_empty] at indented

end ApiStubs.Teal
