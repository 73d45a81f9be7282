import ApiStubs.Text.Basic
import ApiStubs.Value.Access

/-!
# Unions of types

A documented type is a union of alternatives separated by bars. A bar inside parentheses belongs to
the signature of a function and separates nothing; a closing parenthesis without an opening one is
ignored. The scan works on symbols of any kind, since a type can also be written as a list of texts
that are read as one symbol each.
-/

namespace ApiStubs.Types

/-- What a symbol does to a union. -/
inductive Mark where
  | opening
  | closing
  | bar
  | plain
  deriving DecidableEq, Repr

/-- The mark of a character. -/
def charMark (char : Char) : Mark :=
  if char = '(' then .opening
  else if char = ')' then .closing
  else if char = '|' then .bar
  else .plain

/-- The mark of a text that is read as one symbol. -/
def textMark (text : String) : Mark :=
  if text = "(" then .opening
  else if text = ")" then .closing
  else if text = "|" then .bar
  else .plain

/-- The number of open parentheses after a symbol; it does not go below zero. -/
def depthAfter (depth : Nat) : Mark → Nat
  | .opening => depth + 1
  | .closing => depth - 1
  | _ => depth

section Cut

variable {α : Type} (mark : α → Mark)

/-- The number of open parentheses after a sequence of symbols. -/
def depthThrough (depth : Nat) (symbols : List α) : Nat :=
  symbols.foldl (fun current symbol => depthAfter current (mark symbol)) depth

/-- Put a symbol in front of the first piece. -/
def pushSymbol (symbol : α) : List (List α) → List (List α)
  | [] => [[symbol]]
  | first :: others => (symbol :: first) :: others

/-- Cut a sequence of symbols at the bars that no parenthesis encloses. -/
def cutBars : Nat → List α → List (List α)
  | _, [] => [[]]
  | depth, symbol :: rest =>
      if mark symbol = .bar ∧ depth = 0 then [] :: cutBars 0 rest
      else pushSymbol symbol (cutBars (depthAfter depth (mark symbol)) rest)

theorem cutBars_ne_nil (depth : Nat) (symbols : List α) : cutBars mark depth symbols ≠ [] := by
  cases symbols with
  | nil => simp [cutBars]
  | cons symbol rest =>
      simp only [cutBars]
      split
      · simp
      · cases cutBars mark (depthAfter depth (mark symbol)) rest <;> simp [pushSymbol]

end Cut

/-- The pieces of a text between its enclosing bars. -/
def textPieces (text : String) : List String :=
  (cutBars charMark 0 text.toList).map String.ofList

/-- The pieces of one member of a documented type. -/
def memberPieces : Value → Outcome (List String)
  | .text content => .ok (textPieces content)
  | member => do
      let symbols ← member.items
      let texts ← symbols.mapM Value.asText
      return (cutBars textMark 0 texts).map (Text.join "")

/-- Trim the pieces and drop those that are blank. -/
def trimPieces (pieces : List String) : List String :=
  (pieces.map Text.trim).filter (· != "")

/-- The alternatives of a documented type: a text, or a list of members that are unions
themselves. -/
def alternatives : Value → Outcome (List String)
  | .text content => .ok (trimPieces (textPieces content))
  | documentedTypes => do
      let members ← documentedTypes.items
      let pieces ← members.mapM memberPieces
      return trimPieces pieces.flatten

end ApiStubs.Types
