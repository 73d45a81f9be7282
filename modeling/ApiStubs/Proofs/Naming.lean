import ApiStubs.Proofs.Settings.Amendment
import ApiStubs.Proofs.Signature
import ApiStubs.Proofs.Table
import Mathlib.Data.List.Basic

/-!
# Names that are no words of the language

The language reserves words that no parameter can be named by. The default tables give each of them
another name, and corrections write over entries without taking one away. So whatever corrections
follow each other, as long as none of them puts a reserved word in place of a name,

- every reserved word is still renamed, and nothing is renamed to one (`Dialect.AvoidsReserved`),
- hence no identifier is one (`not_mem_reservedWords_of_identifier`): the hyphens that give way to
  underscores at the end cannot make one, as no reserved word has an underscore.
-/

namespace ApiStubs

open ApiStubs.Value ApiStubs.Types

namespace Naming

/-- The words that the language reserves. -/
def reservedWords : List String :=
  ["and", "break", "do", "else", "elseif", "end", "false", "for", "function", "goto", "if", "in",
    "local", "nil", "not", "or", "repeat", "return", "then", "true", "until", "while"]

/-- A value that is no reserved word. -/
def IsUnreserved (value : Value) : Prop :=
  ∀ word ∈ reservedWords, value ≠ .text word

/-- A text is no reserved word when it is not among them. -/
theorem isUnreserved_text {name : String} (outside : name ∉ reservedWords) :
    IsUnreserved (.text name) := by
  intro word reserved same
  exact outside (Value.text.inj same ▸ reserved)

end Naming

open ApiStubs.Naming

/-- A dialect that gives every reserved word another name, and no name a reserved word. -/
structure Dialect.AvoidsReserved (dialect : Dialect) : Prop where
  renamed : ∀ word ∈ reservedWords, word ∈ dialect.renamings.keys
  renamings : dialect.renamings.All IsUnreserved
  localRenamings : dialect.localRenamings.All (Table.All IsUnreserved)

/-! ## Edits -/

namespace DialectEdit

/-- An edit that puts no reserved word in place of a name. -/
def AvoidsReserved : DialectEdit → Prop
  | .rename _ replacement => IsUnreserved replacement
  | .renameLocally _ _ replacement => IsUnreserved replacement
  | _ => True

/-- An edit that puts no reserved word in place of a name leaves a dialect that avoids them. -/
theorem AvoidsReserved.apply {edit : DialectEdit} (writes : edit.AvoidsReserved)
    {dialect : Dialect} (avoids : dialect.AvoidsReserved) :
    (edit.apply dialect).AvoidsReserved := by
  cases edit with
  | rename name replacement =>
      constructor
      · intro word reserved
        exact Table.mem_keys_set.2 (.inr (avoids.renamed word reserved))
      · exact avoids.renamings.set writes name
      · exact avoids.localRenamings
  | openLocalRenamings owner =>
      exact { avoids with
        localRenamings := avoids.localRenamings.setDefault (by simp [Table.All]) owner }
  | renameLocally owner key replacement =>
      exact { avoids with
        localRenamings := avoids.localRenamings.modify (by simp [Table.All])
          (fun _ names => names.set writes key) owner }
  | _ => exact { avoids with }

end DialectEdit

namespace Edit

/-- A change of settings that puts no reserved word in place of a name. -/
def AvoidsReserved : Edit → Prop
  | .amend _ edit => edit.AvoidsReserved
  | _ => True

/-- Changes that put no reserved word in place of a name leave a dialect that avoids them. -/
theorem avoidsReserved_applyAll {edits : List Edit}
    (writes : ∀ edit ∈ edits, edit.AvoidsReserved) {settings : Settings} {tongue : Tongue}
    (avoids : (settings.dialect tongue).AvoidsReserved) :
    ((applyAll settings edits).dialect tongue).AvoidsReserved := by
  induction edits generalizing settings with
  | nil => exact avoids
  | cons edit rest inductionHypothesis =>
      obtain ⟨first, others⟩ := List.forall_mem_cons.1 writes
      apply inductionHypothesis others
      rcases edit.dialect_apply settings tongue with same | ⟨change, rfl, changed⟩
      · rwa [same]
      · rw [changed]
        exact DialectEdit.AvoidsReserved.apply first avoids

end Edit

/-! ## Documents -/

namespace Corrections

/-- The part of a corrections document about one dialect puts no reserved word in place of a
name. -/
structure AvoidsReservedIn (part : Value) : Prop where
  renamings : part.Offers "name_replacements" (IsTableOf IsUnreserved)
  localRenamings : part.Offers "local_name_replacements" (IsTableOf (IsTableOf IsUnreserved))

/-- A corrections document that puts no reserved word in place of a name. -/
structure AvoidsReserved (document : Value) : Prop where
  lua : document.Offers "lua" AvoidsReservedIn
  teal : document.Offers "teal" AvoidsReservedIn

/-- The edits of one dialect write the renamings that its part of the document holds. -/
theorem delivers_readDialect_avoidsReserved {part : Value} (isPart : IsDialectPart part)
    (avoids : AvoidsReservedIn part) : (readDialect part).Delivers DialectEdit.AvoidsReserved := by
  obtain ⟨fields, rfl⟩ := isPart.isRecord
  refine Progress.delivers_concat ?_
  simp only [List.forall_mem_cons, List.not_mem_nil, false_implies, implies_true, and_true]
  refine ⟨?_, ?_, ?_, ?_, ?_, ?_, ?_, ?_, ?_, ?_⟩
  · exact delivers_whenMentioned isPart.substitutions fun _ isTable =>
      delivers_perEntry isTable fun _ _ _ => trivial
  · exact delivers_whenMentioned avoids.renamings fun _ isTable =>
      delivers_perEntry isTable fun _ _ => id
  · exact delivers_whenMentioned isPart.placeholders fun _ isTable =>
      delivers_perEntry isTable fun _ _ _ => trivial
  · exact delivers_perTable isPart.overrides (fun _ => trivial) fun _ _ isTable =>
      delivers_perEntry isTable fun _ _ _ => trivial
  · exact delivers_perTable avoids.localRenamings (fun _ => trivial) fun _ _ isTable =>
      delivers_perEntry isTable fun _ _ => id
  · exact delivers_whenMentioned isPart.undeclared fun _ isList =>
      delivers_items isList fun _ => trivial
  · exact delivers_whenMentioned isPart.fallbackType fun type _ =>
      delivers_single ⟨type, rfl, trivial⟩
  · refine delivers_whenMentioned isPart.namespaces fun _ isNullOrList => ?_
    rcases isNullOrList with rfl | isList
    · exact Progress.delivers_complete (by simp [DialectEdit.AvoidsReserved])
    · obtain ⟨spaces, reads, _⟩ := exists_toSet isList
      obtain ⟨members, rfl, _⟩ := isList
      exact delivers_single ⟨spaces, reads, trivial⟩
  · exact delivers_whenMentioned isPart.barredStarts fun _ isList =>
      delivers_items isList fun _ => trivial
  · refine delivers_perTable isPart.barredNames (fun _ => trivial) fun _ _ isList => ?_
    obtain ⟨names, reads, texts⟩ := isList.exists_items
    rw [reads]
    refine Progress.delivers_ofOutcome fun name member => delivers_single ?_
    obtain ⟨content, rfl⟩ := texts name member
    exact ⟨_, rfl, trivial⟩

/-- The edits of a document put no reserved word in place of a name when the document does not. -/
theorem delivers_read_avoidsReserved {document : Value} (isDocument : IsDocument document)
    (avoids : AvoidsReserved document) : (read document).Delivers Edit.AvoidsReserved := by
  have amends (tongue : Tongue) {part : Value}
      (inPart : IsDialectPart part ∧ AvoidsReservedIn part) :
      ((readDialect part).map (Edit.amend tongue)).Delivers Edit.AvoidsReserved :=
    (delivers_readDialect_avoidsReserved inPart.1 inPart.2).map fun _ => id
  obtain ⟨fields, rfl⟩ := isDocument.isRecord
  refine Progress.delivers_concat ?_
  simp only [List.forall_mem_cons, List.not_mem_nil, false_implies, implies_true, and_true]
  refine ⟨?_, ?_, ?_, ?_, ?_, ?_, ?_⟩
  · exact delivers_whenMentioned isDocument.plainTypes fun _ isList =>
      delivers_items isList fun _ => trivial
  · exact delivers_whenMentioned isDocument.classes fun _ isTable =>
      delivers_perEntry isTable fun _ _ _ => trivial
  · exact delivers_whenMentioned isDocument.aliases fun _ isTable =>
      delivers_perEntry isTable fun _ _ _ => trivial
  · exact delivers_whenMentioned isDocument.diagnostics fun _ isList =>
      delivers_items isList fun _ => trivial
  · exact delivers_whenMentioned isDocument.stubFolder fun folder _ =>
      delivers_single ⟨folder, rfl, trivial⟩
  · exact delivers_whenMentioned
      (fun part found => ⟨isDocument.lua part found, avoids.lua part found⟩)
      fun _ => amends .lua
  · exact delivers_whenMentioned
      (fun part found => ⟨isDocument.teal part found, avoids.teal part found⟩)
      fun _ => amends .teal

end Corrections

/-! ## Dialects -/

namespace Settings

/-- Texts that are no reserved words are the values of a table without them. -/
theorem all_isUnreserved_textTable {entries : List (String × String)}
    (outside : ∀ entry ∈ entries, entry.2 ∉ reservedWords) :
    (textTable entries).All IsUnreserved :=
  List.forall_mem_map.2 fun entry member => isUnreserved_text (outside entry member)

/-- The default renamings avoid the reserved words, whatever else a dialect holds. -/
theorem avoidsReserved_of_renamings {dialect : Dialect}
    (general : dialect.renamings = textTable defaultRenamings)
    (locally : dialect.localRenamings = defaultLocalRenamings) : dialect.AvoidsReserved := by
  constructor
  · rw [general]
    decide
  · rw [general]
    exact all_isUnreserved_textTable (by decide)
  · rw [locally]
    exact List.forall_mem_singleton.2 (all_isUnreserved_textTable (by decide))

/-- The default dialects avoid the reserved words. -/
theorem avoidsReserved_default (tongue : Tongue) : (default.dialect tongue).AvoidsReserved := by
  cases tongue with
  | lua => exact avoidsReserved_of_renamings rfl rfl
  | teal => exact avoidsReserved_of_renamings rfl rfl

/-- Dialects that documents without reserved words lead to avoid the reserved words. -/
theorem IsReached.avoidsReserved {settings : Settings}
    (reached : settings.IsReached fun document _ _ => Corrections.AvoidsReserved document)
    (tongue : Tongue) : (settings.dialect tongue).AvoidsReserved := by
  induction reached with
  | default => exact avoidsReserved_default tongue
  | corrected _ isDocument admitted leads inductionHypothesis =>
      obtain ⟨ended, writes⟩ := Corrections.delivers_read_avoidsReserved isDocument admitted
      rw [Settings.corrected, Corrections.apply, ended] at leads
      obtain rfl := Except.ok.inj leads
      exact Edit.avoidsReserved_applyAll writes inductionHypothesis

end Settings

/-! ## Identifiers -/

namespace Naming

/-- No reserved word has an underscore. -/
theorem underscore_not_mem_of_mem_reservedWords :
    ∀ word ∈ reservedWords, '_' ∉ word.toList := by
  decide

/-- A text without the new character is one in which nothing was replaced. -/
theorem eq_of_replaceChar_eq {old new : Char} {text result : String}
    (replaced : Text.replaceChar old new text = result) (absent : new ∉ result.toList) :
    text = result := by
  subst replaced
  rw [Text.replaceChar, String.toList_ofList, List.mem_map] at absent
  apply String.toList_injective
  rw [Text.replaceChar, String.toList_ofList]
  refine ((List.map_congr_left fun char member => ?_).trans (List.map_id _)).symm
  split
  · next same => exact absurd ⟨char, member, if_pos same⟩ absent
  · rfl

section Dialect

variable {dialect : Dialect} (avoids : dialect.AvoidsReserved)

include avoids

/-- What stands for a name is no reserved word: a word is renamed, and nothing is renamed to one. -/
theorem isUnreserved_substitute {name : String} {side : Side} {owner chosen : Value}
    (returns : substitute dialect name side owner = .ok chosen) : IsUnreserved chosen := by
  simp only [substitute, Outcome.bind_eq_ok] at returns
  obtain ⟨table?, found, returns⟩ := returns
  have locals : (table?.getD []).All IsUnreserved := by
    cases owner with
    | text owner =>
        obtain rfl := Except.ok.inj found
        exact avoids.localRenamings.getD (by simp [Table.All]) owner
    | list _ => cases found
    | record _ => cases found
    | _ =>
        obtain rfl := Except.ok.inj found
        simp [Table.All]
  split at returns
  · obtain rfl := Outcome.pure_eq_ok.1 returns
    cases renamed : dialect.renamings.get? name with
    | some replacement => exact avoids.renamings.of_get? renamed
    | none =>
        apply isUnreserved_text
        intro reserved
        obtain ⟨replacement, present⟩ :=
          Table.exists_get?_of_mem_keys (avoids.renamed name reserved)
        rw [renamed] at present
        cases present
  · next given =>
      obtain rfl := Outcome.pure_eq_ok.1 returns
      cases local? : table?.getD [] |>.get? s!"{side.word}_{name}" with
      | some replacement => exact locals.of_get? local?
      | none => exact absurd (by rw [local?]; rfl) given

/-- An identifier is no reserved word: replacing hyphens would leave an underscore in it. -/
theorem not_mem_reservedWords_of_identifier {documented owner : Value} {side : Side}
    {name : String} {isOptional : Bool}
    (returns : identifier dialect documented side owner = .ok (name, isOptional)) :
    name ∉ reservedWords := by
  cases documented with
  | text raw =>
      simp only [identifier, Outcome.bind_eq_ok, Outcome.pure_eq_ok, Prod.mk.injEq] at returns
      obtain ⟨chosen, substituted, content, isContent, replaced, _⟩ := returns
      intro reserved
      have absent := underscore_not_mem_of_mem_reservedWords name reserved
      obtain rfl := eq_of_replaceChar_eq replaced absent
      have unreserved := isUnreserved_substitute avoids substituted
      exact unreserved content reserved (Value.asText_eq_ok.1 isContent)
  | record fields => rcases fields with _ | ⟨_, _ | _⟩ <;> cases returns
  | _ => cases returns

end Dialect

/-- Every documented name has an identifier that is no reserved word, in both dialects, whatever
corrections without reserved words came before. -/
theorem exists_identifier_not_reserved {settings : Settings}
    (reached : settings.IsReached fun document _ _ => Corrections.AvoidsReserved document)
    (tongue : Tongue) (documented owner : String) (side : Side) :
    ∃ name isOptional,
      identifier (settings.dialect tongue) (.text documented) side (.text owner) =
        .ok (name, isOptional) ∧ name ∉ reservedWords := by
  have shaped : (settings.dialect tongue).IsShaped := by
    cases tongue with
    | lua => exact reached.keeps.1.lua
    | teal => exact reached.keeps.1.teal
  obtain ⟨⟨name, isOptional⟩, returns⟩ :=
    exists_identifier shaped.renamings shaped.localRenamings documented owner side
  have avoids := reached.avoidsReserved tongue
  exact ⟨name, isOptional, returns, not_mem_reservedWords_of_identifier avoids returns⟩

/-- After a correction that renames one reserved word anew in Teal, and in Lua for one function,
the word in brackets has an identifier for that function. -/
theorem exists_identifier_of_end_after_correction :
    let document : Value := .record [
      ("teal", .record [("name_replacements", .record [("end", .text "last")])]),
      ("lua", .record [("local_name_replacements", .record [
        ("go.get", .record [("param_end", .text "end-of-path")])])])]
    let settings := (Corrections.apply .default document).1
    settings.IsReached (fun document _ _ => Corrections.AvoidsReserved document) ∧
      ∃ name isOptional, identifier (settings.dialect .lua) (.text "[end]") .argument
        (.text "go.get") = .ok (name, isOptional) ∧ name ∉ reservedWords := by
  intro document settings
  have isDocument : Corrections.IsDocument document := by
    constructor <;> simp [document, Offers, Value.field?_record, Table.get?_cons]
    all_goals
      constructor <;>
        simp [Offers, Value.field?_record, Table.get?_cons, IsTableOf, Table.All]
  have avoids : Corrections.AvoidsReserved document := by
    constructor <;> simp [document, Offers, Value.field?_record, Table.get?_cons]
    all_goals
      constructor <;>
        simp [Offers, Value.field?_record, Table.get?_cons, IsTableOf, Table.All, IsUnreserved,
          reservedWords]
  have reached : settings.IsReached fun document _ _ => Corrections.AvoidsReserved document :=
    .corrected .default isDocument avoids rfl
  exact ⟨reached, exists_identifier_not_reserved reached .lua "[end]" "go.get" .argument⟩

end Naming

end ApiStubs
