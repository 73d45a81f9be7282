import ApiStubs.Proofs.Settings.Amendment

/-!
# What corrections leave alone

A corrections document that says nothing about the plain types and about Teal makes no edit of
either. Whatever such documents follow each other, the plain types and the tables of Teal stay the
default ones.
-/

namespace ApiStubs

open ApiStubs.Value

namespace Edit

/-- A change of settings that is about neither the plain types nor Teal. -/
def LeavesTeal : Edit → Prop
  | .addPlainTypes _ => False
  | .amend tongue _ => tongue ≠ .teal
  | _ => True

/-- Changes that are about neither leave both as they are. -/
theorem applyAll_leavesTeal {edits : List Edit} (leaves : ∀ edit ∈ edits, edit.LeavesTeal)
    (settings : Settings) : (applyAll settings edits).plainTypes = settings.plainTypes ∧
      (applyAll settings edits).teal = settings.teal := by
  induction edits generalizing settings with
  | nil => exact ⟨rfl, rfl⟩
  | cons edit rest inductionHypothesis =>
      obtain ⟨first, others⟩ := List.forall_mem_cons.1 leaves
      obtain ⟨plainTypes, teal⟩ := inductionHypothesis others (edit.apply settings)
      have same : (edit.apply settings).plainTypes = settings.plainTypes ∧
          (edit.apply settings).teal = settings.teal := by
        cases edit with
        | addPlainTypes types => exact first.elim
        | amend tongue change =>
            cases tongue with
            | lua => exact ⟨rfl, rfl⟩
            | teal => exact absurd rfl first
        | _ => exact ⟨rfl, rfl⟩
      exact ⟨plainTypes.trans same.1, teal.trans same.2⟩

end Edit

namespace Corrections

/-- A corrections document that says nothing about the plain types and about Teal. -/
structure LeavesTeal (document : Value) : Prop where
  plainTypes : document.field? "known_types" = none
  teal : document.field? "teal" = none

/-- The edits of a document that says nothing about the plain types and about Teal are about
neither. -/
theorem delivers_read_leavesTeal {document : Value} (isDocument : IsDocument document)
    (leaves : LeavesTeal document) : (read document).Delivers Edit.LeavesTeal := by
  obtain ⟨fields, rfl⟩ := isDocument.isRecord
  have offersNothing {key : String} (absent : (Value.record fields).field? key = none) :
      (Value.record fields).Offers key fun _ => False := by
    intro found present
    rw [absent] at present
    cases present
  refine Progress.delivers_concat ?_
  simp only [List.forall_mem_cons, List.not_mem_nil, false_implies, implies_true, and_true]
  refine ⟨?_, ?_, ?_, ?_, ?_, ?_, ?_⟩
  · exact delivers_whenMentioned (offersNothing leaves.plainTypes) fun _ => False.elim
  · exact delivers_whenMentioned isDocument.classes fun _ isTable =>
      delivers_perEntry isTable fun _ _ _ => trivial
  · exact delivers_whenMentioned isDocument.aliases fun _ isTable =>
      delivers_perEntry isTable fun _ _ _ => trivial
  · exact delivers_whenMentioned isDocument.diagnostics fun _ isList =>
      delivers_items isList fun _ => trivial
  · exact delivers_whenMentioned isDocument.stubFolder fun folder _ =>
      delivers_single ⟨folder, rfl, trivial⟩
  · exact delivers_whenMentioned isDocument.lua fun _ isPart =>
      (delivers_readDialect isPart).map fun _ _ => by simp [Edit.LeavesTeal]
  · exact delivers_whenMentioned (offersNothing leaves.teal) fun _ => False.elim

end Corrections

namespace Settings

/-- Settings that such documents lead to have the default plain types and the default tables of
Teal. -/
theorem IsReached.leavesTeal {settings : Settings}
    (reached : settings.IsReached fun document _ _ => Corrections.LeavesTeal document) :
    settings.plainTypes = defaultPlainTypes.map .text ∧ settings.teal = defaultTeal := by
  induction reached with
  | default => exact ⟨rfl, rfl⟩
  | corrected _ isDocument admitted leads inductionHypothesis =>
      obtain ⟨ended, leaves⟩ := Corrections.delivers_read_leavesTeal isDocument admitted
      rw [Settings.corrected, Corrections.apply, ended] at leads
      obtain rfl := Except.ok.inj leads
      obtain ⟨plainTypes, teal⟩ := Edit.applyAll_leavesTeal leaves _
      exact ⟨plainTypes.trans inductionHypothesis.1, teal.trans inductionHypothesis.2⟩

end Settings

end ApiStubs
