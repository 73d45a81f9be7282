import ApiStubs.Proofs.Settings.Agreement
import ApiStubs.Proofs.Settings.Amendment
import ApiStubs.Proofs.Table

/-!
# Corrections made twice

A corrections document can be applied again without changing anything but the number of times that
a function left undeclared is listed. The argument follows a single edit:

- Once made, an edit is prepared: the place that it writes to is there, and what it adds has been
  added (`Edit.isPrepared_apply`). No later edit undoes this (`Edit.IsPrepared.apply`).
- A prepared edit is taken up by the next one, which makes the same settings without it, or can be
  exchanged with it (`Edit.exchange`). So in front of any edits it is taken up by one of them, or
  can as well be made at the end (`Edit.exchange_applyAll`).
- Made at the end of the first time, it is an edit made twice (`Edit.agreesWith_apply_twice`).
-/

namespace ApiStubs

open ApiStubs.Value

namespace DialectEdit

/-- Whether the place that an edit writes to is there, and what it adds has been added. -/
def IsPrepared (dialect : Dialect) : DialectEdit → Prop
  | .substitute type _ => dialect.substitutions.has type = true
  | .rename name _ => dialect.renamings.has name = true
  | .setPlaceholder function _ => dialect.placeholders.has function = true
  | .openOverrides owner => dialect.overrides.has owner = true
  | .override owner key _ => dialect.overrides.HasIn owner key
  | .openLocalRenamings owner => dialect.localRenamings.has owner = true
  | .renameLocally owner key _ => dialect.localRenamings.HasIn owner key
  | .leaveUndeclared names => ∀ name ∈ names, name ∈ dialect.undeclared
  | .openBarredNames space => dialect.selection.barredNames.has space = true
  | .barName space name =>
      ∃ names, dialect.selection.barredNames.get? space = some names ∧ name.memberOf names = true
  | _ => True

/-- An edit that only adds: it opens a table or puts members into a list. -/
def OnlyAdds : DialectEdit → Prop
  | .openOverrides _ => True
  | .openLocalRenamings _ => True
  | .leaveUndeclared _ => True
  | .openBarredNames _ => True
  | .barName _ _ => True
  | _ => False

variable {dialect : Dialect} {edit : DialectEdit}

/-- An edit that has been made is prepared. -/
theorem isPrepared_apply (writes : edit.IsShaped) (dialect : Dialect) :
    edit.IsPrepared (edit.apply dialect) := by
  cases edit with
  | substitute type replacement => exact Table.has_set_iff.2 (.inl rfl)
  | rename name replacement => exact Table.has_set_iff.2 (.inl rfl)
  | setPlaceholder function type => exact Table.has_set_iff.2 (.inl rfl)
  | openOverrides owner => exact Table.has_setDefault_self ..
  | override owner key replacement => exact Table.hasIn_setIn_self ..
  | openLocalRenamings owner => exact Table.has_setDefault_self ..
  | renameLocally owner key replacement => exact Table.hasIn_setIn_self ..
  | leaveUndeclared names => exact fun name member => List.mem_append_right _ member
  | openBarredNames space => exact Table.has_setDefault_self ..
  | barName space name =>
      exact ⟨_, Table.get?_modify_self .., memberOf_insertInto_self writes _⟩
  | _ => trivial

/-- A prepared edit stays prepared when another one is made. -/
theorem IsPrepared.apply (prepared : edit.IsPrepared dialect) (next : DialectEdit) :
    edit.IsPrepared (next.apply dialect) := by
  cases edit with
  | substitute type replacement =>
      cases next with
      | substitute other value => exact Table.has_set_iff.2 (.inr prepared)
      | _ => exact prepared
  | rename name replacement =>
      cases next with
      | rename other value => exact Table.has_set_iff.2 (.inr prepared)
      | _ => exact prepared
  | setPlaceholder function type =>
      cases next with
      | setPlaceholder other value => exact Table.has_set_iff.2 (.inr prepared)
      | _ => exact prepared
  | openOverrides owner =>
      cases next with
      | openOverrides other => exact Table.has_setDefault_of_has prepared other []
      | override other key value => exact Table.has_set_iff.2 (.inr prepared)
      | _ => exact prepared
  | override owner key replacement =>
      cases next with
      | openOverrides other => exact prepared.setDefault other
      | override other otherKey value => exact prepared.setIn other otherKey value
      | _ => exact prepared
  | openLocalRenamings owner =>
      cases next with
      | openLocalRenamings other => exact Table.has_setDefault_of_has prepared other []
      | renameLocally other key value => exact Table.has_set_iff.2 (.inr prepared)
      | _ => exact prepared
  | renameLocally owner key replacement =>
      cases next with
      | openLocalRenamings other => exact prepared.setDefault other
      | renameLocally other otherKey value => exact prepared.setIn other otherKey value
      | _ => exact prepared
  | leaveUndeclared names =>
      cases next with
      | leaveUndeclared more =>
          exact fun name member => List.mem_append_left _ (prepared name member)
      | _ => exact prepared
  | openBarredNames space =>
      cases next with
      | openBarredNames other => exact Table.has_setDefault_of_has prepared other []
      | barName other name => exact Table.has_set_iff.2 (.inr prepared)
      | _ => exact prepared
  | barName space name =>
      obtain ⟨names, found, isMember⟩ := id prepared
      cases next with
      | openBarredNames other =>
          have present := Table.has_iff.2 ⟨names, found⟩
          exact ⟨names, (Table.get?_setDefault_of_has present _).trans found, isMember⟩
      | barName other added =>
          by_cases same : space = other
          · subst same
            refine ⟨_, Table.get?_modify_self .., ?_⟩
            rw [found]
            exact memberOf_insertInto isMember added
          · exact ⟨names, (Table.get?_modify_of_ne same).trans found, isMember⟩
      | _ => exact prepared
  | _ => trivial

/-- An edit that only adds changes nothing once it is prepared. -/
theorem IsPrepared.agreesWith (prepared : edit.IsPrepared dialect) (adds : edit.OnlyAdds) :
    (edit.apply dialect).AgreesWith dialect := by
  cases edit with
  | openOverrides owner =>
      rw [DialectEdit.apply, Table.setDefault_of_has prepared]
      exact .refl dialect
  | openLocalRenamings owner =>
      rw [DialectEdit.apply, Table.setDefault_of_has prepared]
      exact .refl dialect
  | leaveUndeclared names =>
      refine ⟨_, rfl, fun name => ?_⟩
      rw [List.mem_append]
      exact ⟨fun either => either.elim id (prepared name), .inl⟩
  | openBarredNames space =>
      exact .of_eq (congrArg (fun names => { dialect with
        selection := { dialect.selection with barredNames := names } })
          (Table.setDefault_of_has prepared []))
  | barName space name =>
      obtain ⟨names, found, isMember⟩ := prepared
      have same : dialect.selection.barredNames.modify space [] name.insertInto =
          dialect.selection.barredNames := by
        rw [Table.modify, found, Option.getD_some, insertInto_of_memberOf isMember,
          Table.set_of_get? found]
      exact .of_eq (congrArg (fun names => { dialect with
        selection := { dialect.selection with barredNames := names } }) same)
  | _ => exact adds.elim

/-- An edit made twice is the edit made once. -/
theorem agreesWith_apply_twice (writes : edit.IsShaped) (dialect : Dialect) :
    (edit.apply (edit.apply dialect)).AgreesWith (edit.apply dialect) := by
  have prepared := isPrepared_apply writes dialect
  cases edit with
  | substitute type replacement =>
      exact .of_eq (congrArg (fun table => { dialect with substitutions := table })
        (Table.set_set ..))
  | rename name replacement =>
      exact .of_eq (congrArg (fun table => { dialect with renamings := table }) (Table.set_set ..))
  | setPlaceholder function type =>
      exact .of_eq (congrArg (fun table => { dialect with placeholders := table })
        (Table.set_set ..))
  | override owner key replacement =>
      exact .of_eq (congrArg (fun tables => { dialect with overrides := tables })
        (Table.setIn_setIn ..))
  | renameLocally owner key replacement =>
      exact .of_eq (congrArg (fun tables => { dialect with localRenamings := tables })
        (Table.setIn_setIn ..))
  | setFallbackType type => exact .refl _
  | admitNamespaces namespaces => exact .refl _
  | barStarts starts => exact .refl _
  | _ => exact prepared.agreesWith trivial

/-- An edit is taken up by another: once it is prepared, the other one makes the same dialect
without it. -/
def IsTakenUp (edit next : DialectEdit) : Prop :=
  ∀ dialect, edit.IsPrepared dialect →
    (next.apply (edit.apply dialect)).AgreesWith (next.apply dialect)

/-- An edit can wait for another: once it is prepared, it can as well be made behind it. -/
def CanWait (edit next : DialectEdit) : Prop :=
  ∀ dialect, edit.IsPrepared dialect →
    next.apply (edit.apply dialect) = edit.apply (next.apply dialect)

/-- An edit is taken up by any other one or can wait for it. -/
theorem exchange (edit next : DialectEdit) : edit.IsTakenUp next ∨ edit.CanWait next := by
  cases edit with
  | substitute type replacement =>
      cases next with
      | substitute other value =>
          exact (Table.set_exchange type other replacement value).imp
            (fun replaced dialect _ => .of_eq
              (congrArg (fun table => { dialect with substitutions := table }) (replaced _)))
            fun exchanged dialect prepared =>
              congrArg (fun table => { dialect with substitutions := table }) (exchanged _ prepared)
      | _ => exact .inr fun _ _ => rfl
  | rename name replacement =>
      cases next with
      | rename other value =>
          exact (Table.set_exchange name other replacement value).imp
            (fun replaced dialect _ => .of_eq
              (congrArg (fun table => { dialect with renamings := table }) (replaced _)))
            fun exchanged dialect prepared =>
              congrArg (fun table => { dialect with renamings := table }) (exchanged _ prepared)
      | _ => exact .inr fun _ _ => rfl
  | setPlaceholder function type =>
      cases next with
      | setPlaceholder other value =>
          exact (Table.set_exchange function other type value).imp
            (fun replaced dialect _ => .of_eq
              (congrArg (fun table => { dialect with placeholders := table }) (replaced _)))
            fun exchanged dialect prepared =>
              congrArg (fun table => { dialect with placeholders := table }) (exchanged _ prepared)
      | _ => exact .inr fun _ _ => rfl
  | override owner key replacement =>
      cases next with
      | openOverrides other =>
          exact .inr fun dialect prepared =>
            congrArg (fun tables => { dialect with overrides := tables })
              (Table.setIn_setDefault prepared other replacement)
      | override other otherKey value =>
          exact (Table.setIn_exchange owner key other otherKey replacement value).imp
            (fun replaced dialect _ => .of_eq
              (congrArg (fun tables => { dialect with overrides := tables }) (replaced _)))
            fun exchanged dialect prepared =>
              congrArg (fun tables => { dialect with overrides := tables }) (exchanged _ prepared)
      | _ => exact .inr fun _ _ => rfl
  | renameLocally owner key replacement =>
      cases next with
      | openLocalRenamings other =>
          exact .inr fun dialect prepared =>
            congrArg (fun tables => { dialect with localRenamings := tables })
              (Table.setIn_setDefault prepared other replacement)
      | renameLocally other otherKey value =>
          exact (Table.setIn_exchange owner key other otherKey replacement value).imp
            (fun replaced dialect _ => .of_eq
              (congrArg (fun tables => { dialect with localRenamings := tables }) (replaced _)))
            fun exchanged dialect prepared =>
              congrArg (fun tables => { dialect with localRenamings := tables })
                (exchanged _ prepared)
      | _ => exact .inr fun _ _ => rfl
  | setFallbackType type =>
      cases next with
      | setFallbackType other => exact .inl fun _ _ => .refl _
      | _ => exact .inr fun _ _ => rfl
  | admitNamespaces namespaces =>
      cases next with
      | admitNamespaces others => exact .inl fun _ _ => .refl _
      | _ => exact .inr fun _ _ => rfl
  | barStarts starts =>
      cases next with
      | barStarts others => exact .inl fun _ _ => .refl _
      | _ => exact .inr fun _ _ => rfl
  | _ => exact .inl fun dialect prepared => (prepared.agreesWith trivial).apply next

end DialectEdit

namespace Edit

/-- Whether the place that an edit writes to is there, and what it adds has been added. -/
def IsPrepared (settings : Settings) : Edit → Prop
  | .addPlainTypes types => ∀ type ∈ types, type.memberOf settings.plainTypes = true
  | .declareClass name _ => settings.classes.has name = true
  | .declareAlias name _ => settings.aliases.has name = true
  | .amend tongue edit => edit.IsPrepared (settings.dialect tongue)
  | _ => True

variable {settings : Settings} {edit : Edit}

/-- An edit that has been made is prepared. -/
theorem isPrepared_apply (writes : edit.IsShaped) (settings : Settings) :
    edit.IsPrepared (edit.apply settings) := by
  cases edit with
  | addPlainTypes types =>
      intro type among
      by_cases isKnown : type.memberOf settings.plainTypes = true
      · exact memberOf_append_left isKnown _
      · obtain ⟨content, rfl⟩ := writes type among
        refine memberOf_text_iff.2 (List.mem_append_right _ ?_)
        exact List.mem_filter.2 ⟨among, by simpa using isKnown⟩
  | declareClass name declaration => exact Table.has_set_iff.2 (.inl rfl)
  | declareAlias name target => exact Table.has_set_iff.2 (.inl rfl)
  | amend tongue edit =>
      cases tongue with
      | lua => exact DialectEdit.isPrepared_apply writes settings.lua
      | teal => exact DialectEdit.isPrepared_apply writes settings.teal
  | _ => trivial

/-- A prepared edit stays prepared when another one is made. -/
theorem IsPrepared.apply (prepared : edit.IsPrepared settings) (next : Edit) :
    edit.IsPrepared (next.apply settings) := by
  cases edit with
  | addPlainTypes types =>
      cases next with
      | addPlainTypes others =>
          exact fun type among => memberOf_append_left (prepared type among) _
      | amend tongue change => cases tongue <;> exact prepared
      | _ => exact prepared
  | declareClass name declaration =>
      cases next with
      | declareClass other value => exact Table.has_set_iff.2 (.inr prepared)
      | amend tongue change => cases tongue <;> exact prepared
      | _ => exact prepared
  | declareAlias name target =>
      cases next with
      | declareAlias other value => exact Table.has_set_iff.2 (.inr prepared)
      | amend tongue change => cases tongue <;> exact prepared
      | _ => exact prepared
  | amend tongue change =>
      rcases next.dialect_apply settings tongue with same | ⟨other, _, changed⟩
      · rw [IsPrepared, same]
        exact prepared
      · rw [IsPrepared, changed]
        exact DialectEdit.IsPrepared.apply prepared other
  | _ => trivial

/-- A prepared edit stays prepared when others are made. -/
theorem IsPrepared.applyAll (prepared : edit.IsPrepared settings) (edits : List Edit) :
    edit.IsPrepared (applyAll settings edits) := by
  induction edits generalizing settings with
  | nil => exact prepared
  | cons next rest inductionHypothesis => exact inductionHypothesis (prepared.apply next)

/-- Types that are known are not added again. -/
theorem apply_addPlainTypes {types : List Value}
    (prepared : (addPlainTypes types).IsPrepared settings) :
    (addPlainTypes types).apply settings = settings := by
  have nothing : types.filter (fun type => !type.memberOf settings.plainTypes) = [] :=
    List.filter_eq_nil_iff.2 fun type among => by simp [prepared type among]
  rw [apply, nothing, List.append_nil]

/-- An edit made twice is the edit made once. -/
theorem agreesWith_apply_twice (writes : edit.IsShaped) (settings : Settings) :
    (edit.apply (edit.apply settings)).AgreesWith (edit.apply settings) := by
  have prepared := isPrepared_apply writes settings
  cases edit with
  | addPlainTypes types => exact .of_eq (apply_addPlainTypes prepared)
  | declareClass name declaration =>
      exact .of_eq (congrArg (fun table => { settings with classes := table })
        (Table.set_set ..))
  | declareAlias name target =>
      exact .of_eq (congrArg (fun table => { settings with aliases := table })
        (Table.set_set ..))
  | setDiagnostics diagnostics => exact .refl _
  | setStubFolder folder => exact .refl _
  | amend tongue change =>
      cases tongue with
      | lua => exact ⟨_, settings.teal, rfl, change.agreesWith_apply_twice writes _, .refl _⟩
      | teal => exact ⟨settings.lua, _, rfl, .refl _, change.agreesWith_apply_twice writes _⟩

/-- An edit is taken up by others behind it: once it is prepared, they make the same settings
without it. -/
def IsTakenUp (edit : Edit) (later : List Edit) : Prop :=
  ∀ settings, edit.IsPrepared settings →
    (Edit.applyAll (edit.apply settings) later).AgreesWith (Edit.applyAll settings later)

/-- An edit can wait for others: once it is prepared, it can as well be made behind them. -/
def CanWait (edit : Edit) (later : List Edit) : Prop :=
  ∀ settings, edit.IsPrepared settings →
    Edit.applyAll (edit.apply settings) later = edit.apply (Edit.applyAll settings later)

/-- An edit is taken up by any other one or can wait for it. -/
theorem exchange (edit next : Edit) : edit.IsTakenUp [next] ∨ edit.CanWait [next] := by
  cases edit with
  | addPlainTypes types =>
      refine .inl fun settings prepared => ?_
      rw [apply_addPlainTypes prepared]
      exact .refl _
  | declareClass name declaration =>
      cases next with
      | declareClass other value =>
          exact (Table.set_exchange name other declaration value).imp
            (fun replaced settings _ => .of_eq
              (congrArg (fun table => { settings with classes := table }) (replaced _)))
            fun exchanged settings prepared =>
              congrArg (fun table => { settings with classes := table }) (exchanged _ prepared)
      | amend tongue change => cases tongue <;> exact .inr fun _ _ => rfl
      | _ => exact .inr fun _ _ => rfl
  | declareAlias name target =>
      cases next with
      | declareAlias other value =>
          exact (Table.set_exchange name other target value).imp
            (fun replaced settings _ => .of_eq
              (congrArg (fun table => { settings with aliases := table }) (replaced _)))
            fun exchanged settings prepared =>
              congrArg (fun table => { settings with aliases := table }) (exchanged _ prepared)
      | amend tongue change => cases tongue <;> exact .inr fun _ _ => rfl
      | _ => exact .inr fun _ _ => rfl
  | setDiagnostics diagnostics =>
      cases next with
      | setDiagnostics others => exact .inl fun _ _ => .refl _
      | amend tongue change => cases tongue <;> exact .inr fun _ _ => rfl
      | _ => exact .inr fun _ _ => rfl
  | setStubFolder folder =>
      cases next with
      | setStubFolder other => exact .inl fun _ _ => .refl _
      | amend tongue change => cases tongue <;> exact .inr fun _ _ => rfl
      | _ => exact .inr fun _ _ => rfl
  | amend tongue change =>
      cases next with
      | amend other later =>
          cases tongue with
          | lua =>
              cases other with
              | lua =>
                  exact (change.exchange later).imp
                    (fun takenUp settings prepared =>
                      ⟨_, settings.teal, rfl, takenUp _ prepared, .refl _⟩)
                    fun waits settings prepared =>
                      congrArg (fun lua => { settings with lua }) (waits _ prepared)
              | teal => exact .inr fun _ _ => rfl
          | teal =>
              cases other with
              | lua => exact .inr fun _ _ => rfl
              | teal =>
                  exact (change.exchange later).imp
                    (fun takenUp settings prepared =>
                      ⟨settings.lua, _, rfl, .refl _, takenUp _ prepared⟩)
                    fun waits settings prepared =>
                      congrArg (fun teal => { settings with teal }) (waits _ prepared)
      | _ => cases tongue <;> exact .inr fun _ _ => rfl

/-- An edit is taken up by any others behind it or can wait for them. -/
theorem exchange_applyAll (edit : Edit) (later : List Edit) :
    edit.IsTakenUp later ∨ edit.CanWait later := by
  induction later with
  | nil => exact .inr fun _ _ => rfl
  | cons next rest inductionHypothesis =>
      rcases edit.exchange next with takenUp | waits
      · exact .inl fun settings prepared => (takenUp settings prepared).applyAll rest
      · have behind (settings : Settings) (prepared : edit.IsPrepared settings) :
            applyAll (edit.apply settings) (next :: rest) =
              applyAll (edit.apply (next.apply settings)) rest :=
          congrArg (applyAll · rest) (waits settings prepared)
        rcases inductionHypothesis with takenUp | waitsLonger
        · refine .inl fun settings prepared => ?_
          rw [behind settings prepared]
          exact takenUp (next.apply settings) (prepared.apply next)
        · refine .inr fun settings prepared => ?_
          rw [behind settings prepared]
          exact waitsLonger (next.apply settings) (prepared.apply next)

/-- Edits made twice are the edits made once. -/
theorem agreesWith_applyAll_twice {edits : List Edit} (writes : ∀ edit ∈ edits, edit.IsShaped)
    (settings : Settings) :
    (applyAll (applyAll settings edits) edits).AgreesWith (applyAll settings edits) := by
  induction edits generalizing settings with
  | nil => exact .refl settings
  | cons edit rest inductionHypothesis =>
      obtain ⟨first, others⟩ := List.forall_mem_cons.1 writes
      have prepared := isPrepared_apply first settings
      have again := inductionHypothesis others (edit.apply settings)
      rcases edit.exchange_applyAll rest with takenUp | waits
      · exact (takenUp _ (prepared.applyAll rest)).trans again
      · -- The edit is made a second time at the end of the first run, where it changes nothing.
        have nothing : (edit.apply (applyAll (edit.apply settings) rest)).AgreesWith
            (applyAll (edit.apply settings) rest) := by
          rw [← waits _ prepared]
          exact (agreesWith_apply_twice first settings).applyAll rest
        exact (nothing.applyAll rest).trans again

end Edit

namespace Settings

/-- A corrections document of the documented shape can be applied to any settings, and once more to
what it leads to. The second time changes nothing but how often a function left undeclared is
listed, so the stubs stay what they are. -/
theorem corrected_twice_agreesWith_once (settings : Settings) {document : Value}
    (isDocument : Corrections.IsDocument document) :
    ∃ once twice, settings.corrected document = .ok once ∧ once.corrected document = .ok twice ∧
      twice.AgreesWith once ∧ twice.HasStubsOf once := by
  obtain ⟨ended, writes⟩ := Corrections.delivers_read isDocument
  have leads (settings : Settings) : settings.corrected document =
      .ok (Edit.applyAll settings (Corrections.read document).done) := by
    rw [corrected, Corrections.apply, ended]
  have agrees := Edit.agreesWith_applyAll_twice writes settings
  exact ⟨_, _, leads settings, leads _, agrees, agrees.hasStubsOf⟩

/-- A document that writes into several tables, some of its members twice, and into the functions
left undeclared: the second time lists one of them once more, and the stubs are the same. -/
theorem corrected_twice_by_undeclared_function :
    let document : Value := .record [("known_types", .list [.text "node", .text "node"]),
      ("lua", .record [("ignored_funcs", .list [.text "setup"]),
        ("local_type_replacements",
          .record [("go.get", .record [("param_hash_id", .text "url")])])]),
      ("teal", .record
        [("removed_names", .record [("meta", .list [.text "float", .text "node"])])])]
    Corrections.IsDocument document ∧
      ∃ once twice, default.corrected document = .ok once ∧ once.corrected document = .ok twice ∧
        twice.AgreesWith once ∧ twice.HasStubsOf once ∧
        once.lua.undeclared = defaultLua.undeclared ++ [.text "setup"] ∧
        twice.lua.undeclared = once.lua.undeclared ++ [.text "setup"] := by
  intro document
  have isLuaPart : Corrections.IsDialectPart (.record [("ignored_funcs", .list [.text "setup"]),
      ("local_type_replacements",
        .record [("go.get", .record [("param_hash_id", .text "url")])])]) := by
    constructor <;>
      simp [Offers, Value.field?_record, Table.get?_cons, IsListOf, IsTableOf, Table.All]
  have isTealPart : Corrections.IsDialectPart (.record
      [("removed_names", .record [("meta", .list [.text "float", .text "node"])])]) := by
    constructor <;>
      simp [Offers, Value.field?_record, Table.get?_cons, IsListOf, IsTableOf, Table.All]
  have isDocument : Corrections.IsDocument document := by
    constructor <;>
      simp [document, Offers, Value.field?_record, Table.get?_cons, IsListOf, IsTableOf, Table.All,
        isLuaPart, isTealPart]
  obtain ⟨once, twice, leads, leadsAgain, agrees, sameStubs⟩ :=
    corrected_twice_agreesWith_once default isDocument
  refine ⟨isDocument, once, twice, leads, leadsAgain, agrees, sameStubs, ?_, ?_⟩
  · obtain rfl := Except.ok.inj leads
    rfl
  · obtain rfl := Except.ok.inj leads
    obtain rfl := Except.ok.inj leadsAgain
    rfl

end Settings

end ApiStubs
