import ApiStubs.Proofs.Teal.Order
import ApiStubs.Proofs.Teal.Scope
import ApiStubs.Proofs.Teal.WellNested

/-!
# Declarations of a scope

The identifiers of one scope come from the elements of a group, from the fields of a class and from
the groups inside a group.

- Each declaration declares the name of its element, and a class the names of its fields inside.
- `declaresScope_of_renderGroup` goes through the groups: a group declares the names of its elements
  and of the groups that stand alone in it, which differ as long as no declaration but a class has
  the name of a group.
- `declaresOnce_renderLines` says so of the whole file, in terms of the names of the elements.

A record on its own, as an alias of userdata is declared, does not host the group of its name as a
class does; `not_declaresOnce_of_userdata_alias` shows what becomes of the two.
-/

namespace ApiStubs.Teal

open ApiStubs.Reference

/-! ## Identifiers of declarations -/

/-- Scoped parts that declare the given identifiers. -/
structure Declares (names : List String) (parts : List Part) : Prop where
  isScoped : IsScoped parts
  names : declaredNames parts = names

namespace Declares

/-- No parts declare nothing. -/
theorem nil : Declares [] [] :=
  ⟨.nil, rfl⟩

/-- Parts one after the other declare the identifiers of both. -/
theorem append {names others : List String} {parts later : List Part}
    (declares : Declares names parts) (declaresLater : Declares others later) :
    Declares (names ++ others) (parts ++ later) :=
  ⟨declares.isScoped.append declaresLater.isScoped,
    by rw [declaredNames_append, declares.names, declaresLater.names]⟩

/-- A single line declares its identifier. -/
theorem line {text : String} (isSingle : IsSingle text) :
    Declares (declared? text).toList [.line text] :=
  ⟨.single isSingle .nil, by rw [declaredNames_line]; simp [declaredNames]⟩

/-- Parts made of each member of a list declare what these declare. -/
theorem flatten_mapM {α : Type} {step : α → Outcome (List Part)} {names : α → List String}
    {members : List α} {lists : List (List Part)} (returns : members.mapM step = .ok lists)
    (each : ∀ member ∈ members, ∀ parts, step member = .ok parts → Declares (names member) parts) :
    Declares (members.flatMap names) lists.flatten := by
  have matched := Outcome.mapM_eq_ok.1 returns
  clear returns
  induction matched with
  | nil => exact nil
  | cons first _ inductionHypothesis =>
      obtain ⟨eachFirst, eachOther⟩ := List.forall_mem_cons.1 each
      rw [List.flatMap_cons, List.flatten_cons]
      exact (eachFirst _ first).append (inductionHypothesis eachOther)

/-- A comment declares nothing. -/
theorem remarks (texts : List String) : Declares [] (Teal.remarks texts) := by
  induction texts with
  | nil => exact nil
  | cons text rest inductionHypothesis =>
      have comment := line (isSingle_keyword "--" text (by decide))
      rw [declared?_remark (by decide)] at comment
      exact comment.append inductionHypothesis

/-- A comment and a line declare the identifier of the line. -/
theorem remarks_concat (texts : List String) {text name : String} (isSingle : IsSingle text)
    (declares : declared? text = some name) :
    Declares [name] (Teal.remarks texts ++ [.line text]) := by
  have both := (remarks texts).append (line isSingle)
  rwa [declares] at both

/-- A record behind an empty line declares its name when its blocks declare distinct
identifiers. -/
theorem record {text name : String} (isOpening : IsOpening text)
    (declares : declared? text = some name) {blocks : List (List Part)}
    (isScoped : ∀ block ∈ blocks, IsScoped block)
    (distinct : (blocks.flatMap declaredNames).Nodup) :
    Declares [name] (.line "" :: .line text :: (blocks.map .block ++ [.line closing])) := by
  refine ⟨.single .blank (.record isOpening isScoped distinct .nil), ?_⟩
  have nothing : declared? "" = none := by decide
  rw [declaredNames_line, declaredNames_record, nothing, declares]
  rfl

end Declares

/-- An element whose names hold no spaces and tabs, and whose own name holds no brackets. -/
structure HasPlainNames (element : Value) : Prop extends HasUnspacedNames element where
  unbracketed : ∀ name, element.field? "name" = some (.text name) → Text.IsUnbracketed name

/-- The names of the fields of an element that are texts. -/
def fieldNames (element : Value) : List String :=
  (((element.field? "fields").bind fun fields => fields.sortedFields.toOption).getD []).flatMap
    fun field => (field.2.text?.map fun _ => field.1).toList

section Makers

variable {writer : StubWriter} {element fullName : Value} {name : String}

/-- Whatever is declared, apart from a class, declares the name of its element. -/
theorem declares_of_declare? {kind : Kind} (notClass : kind ≠ .classType)
    (named : element.field? "name" = some (.text name)) (plain : HasPlainNames element)
    {isOutermost : Bool} {declaration : Declaration}
    (returns : declare? writer kind element fullName isOutermost = .ok (some declaration)) :
    Declares [name] declaration.parts := by
  have unspaced := plain.name name named
  have alone {opening : List Part} (declares : Declares [name] opening) :
      Declares [name] ({ opening } : Declaration).parts := by
    simpa [Declaration.parts, Declaration.around] using declares
  cases kind with
  | function =>
      simp only [declare?, Outcome.bind_eq_ok, Outcome.pure_eq_ok,
        Option.map_eq_some_iff] at returns
      obtain ⟨_, declared, _, rfl, rfl⟩ := returns
      obtain ⟨texts, bracket, isBracket, shape, rfl⟩ := parts_of_declareFunction? named declared
      refine alone (.remarks_concat texts (isSingle_functionLine _ unspaced _ _) ?_)
      cases isOutermost with
      | true => exact declared?_function (plain.unbracketed name named) isBracket shape
      | false => exact declared?_member unspaced _
  | «variable» =>
      simp only [declare?, Outcome.bind_eq_ok, Outcome.pure_eq_ok, Option.some.injEq] at returns
      obtain ⟨_, declared, rfl⟩ := returns
      obtain ⟨texts, type, rfl⟩ := parts_of_declareVariable named declared
      exact alone (.remarks_concat texts (isSingle_member type unspaced)
        (declared?_member unspaced type))
  | classType => exact absurd rfl notClass
  | aliasType =>
      simp only [declare?, Outcome.bind_eq_ok, Outcome.pure_eq_ok, Option.some.injEq] at returns
      obtain ⟨_, declared, rfl⟩ := returns
      rcases parts_of_declareAlias named declared with rfl | ⟨target, rfl⟩
      · exact alone (.remarks_concat [] (.userdata name)
          (declared?_type (by decide) unspaced (by simp)))
      · rw [String.append_assoc]
        refine alone (.remarks_concat [] ?_ (declared?_type (by decide) unspaced (by simp)))
        rw [String.append_assoc]
        exact isSingle_keyword "type" _ (by decide)

/-- A class declares the names of its fields inside, and nothing with its operators. -/
theorem exists_declares_of_declareWith (named : element.field? "name" = some (.text name))
    (plain : HasPlainNames element) {fullName : String} {isOutermost : Bool}
    {declaration : Declaration}
    (declared : declareWith writer .classType element fullName isOutermost =
      .ok (some declaration)) :
    ∃ fields operators, declaration = classDeclaration name fields operators ∧
      Declares (fieldNames element) fields ∧ Declares [] operators := by
  simp only [declareWith, declare?, Outcome.bind_eq_ok, Outcome.pure_eq_ok,
    Option.some.injEq] at declared
  obtain ⟨_, declared, rfl⟩ := declared
  obtain ⟨fields, entries, fieldLines, operators, operatorLines, found, read, declaredFields,
    declaredOperators, rfl⟩ := exists_of_declareClass named declared
  have names : fieldNames element =
      entries.flatMap fun field => (field.2.text?.map fun _ => field.1).toList := by
    simp [fieldNames, found, read, Except.toOption]
  refine ⟨fieldLines.flatten, operatorLines.flatten, rfl, ?_, ?_⟩
  · rw [names]
    refine .flatten_mapM declaredFields fun field member parts made => ?_
    have unspaced := plain.fields fields entries found read _ (List.mem_map_of_mem member)
    obtain ⟨fieldName, raw⟩ := field
    have shape := parts_of_fieldParts made
    cases raw with
    | text content =>
        obtain ⟨texts, type, rfl⟩ := shape
        exact .remarks_concat texts (isSingle_member type unspaced) (declared?_member unspaced type)
    | _ =>
        obtain rfl : parts = [] := shape
        exact .nil
  · have nothing : operators.flatMap (fun _ => ([] : List String)) = [] := by simp
    rw [← nothing]
    refine .flatten_mapM declaredOperators fun operator _ parts made => ?_
    obtain ⟨rest, rfl⟩ := parts_of_operatorParts made
    have line := Declares.line (isSingle_keyword "metamethod" rest (by decide))
    rwa [declared?_remark (by decide)] at line

end Makers

/-! ## The scope of a group -/

/-- The identifiers that a group can declare: the names of its elements and its keys. -/
def scopeNames (group : Group) : List String :=
  (group.elements.filterMap declaredAs).map Prod.snd ++ group.groups.keys

/-- Scoped parts that declare distinct identifiers of a group. -/
structure DeclaresScope (group : Group) (parts : List Part) : Prop where
  isScoped : IsScoped parts
  distinct : (declaredNames parts).Nodup
  within : declaredNames parts ⊆ scopeNames group

/-- A group whose declarations do not meet: its elements have distinct names, only a class has the
name of a group inside it, and the fields of a class are named apart from each other and from what
that group can declare. -/
structure IsApart (group : Group) : Prop where
  keys : ∀ key ∈ group.groups.keys, Text.IsUnspaced key
  plain : ∀ element ∈ group.elements, HasPlainNames element
  distinct : ((group.elements.filterMap declaredAs).map Prod.snd).Nodup
  hosts : ∀ element ∈ group.elements, ∀ kind name, declaredAs element = some (kind, name) →
    name ∈ group.groups.keys → kind = .classType
  fields : ∀ element ∈ group.elements, ∀ name, declaredAs element = some (.classType, name) →
    (fieldNames element).Nodup ∧ ∀ inside, group.groups.get? name = some inside →
      (fieldNames element).Disjoint (scopeNames inside)

section Level

variable {writer : StubWriter} {path keys : List String} {inside : String → List Part}

/-- The block of an entry is scoped and declares at most the name of the entry, when the fields of a
class are named apart from each other and from what stands in the group of its name. -/
theorem isScoped_of_isBlockOf {entry : Entry} {block : List Part}
    (isBlock : IsBlockOf writer path keys inside entry block)
    (named : entry.element.field? "name" = some (.text entry.name))
    (plain : HasPlainNames entry.element)
    (fields : entry.kind? = some .classType → (fieldNames entry.element).Nodup)
    (hosted : entry.kind? = some .classType → entry.name ∈ keys → IsScoped (inside entry.name) ∧
      (fieldNames entry.element ++ declaredNames (inside entry.name)).Nodup) :
    IsScoped block ∧ (declaredNames block).Sublist (entry.declaredAs.map Prod.snd).toList := by
  have alone {name : String} {block : List Part} (declares : Declares [name] block) :
      IsScoped block ∧ (declaredNames block).Sublist [name] :=
    ⟨declares.isScoped, by rw [declares.names]⟩
  have opening (name : String) (unspaced : Text.IsUnspaced name) :
      declared? ("record " ++ name ++ " is userdata") = some name :=
    declared?_type (by decide) unspaced (by simp)
  cases isBlock with
  | undeclarable | leftOut => exact ⟨.nil, List.nil_sublist _⟩
  | @plain kind name element declaration declared absent =>
      by_cases isClass : kind = .classType
      · subst isClass
        obtain ⟨fieldBlock, operatorBlock, rfl, declaresFields, declaresNothing⟩ :=
          exists_declares_of_declareWith named plain declared
        have distinct : ([fieldBlock, operatorBlock].flatMap declaredNames).Nodup := by
          simpa [declaresFields.names, declaresNothing.names] using fields rfl
        exact alone (.record (.classType name) (opening name (plain.name name named))
          (by simp [declaresFields.isScoped, declaresNothing.isScoped]) distinct)
      · exact alone (declares_of_declare? isClass named plain declared)
  | @host name element fieldBlock operatorBlock declared isKey =>
      obtain ⟨_, _, same, declaresFields, declaresNothing⟩ :=
        exists_declares_of_declareWith named plain declared
      obtain ⟨rfl, rfl⟩ : fieldBlock = _ ∧ operatorBlock = _ := by
        simpa [classDeclaration] using same
      obtain ⟨isScoped, distinctNames⟩ := hosted rfl isKey
      have distinct :
          ([fieldBlock, operatorBlock, inside name].flatMap declaredNames).Nodup := by
        simpa [declaresFields.names, declaresNothing.names] using distinctNames
      exact alone (.record (.classType name) (opening name (plain.name name named))
        (by simp [declaresFields.isScoped, declaresNothing.isScoped, isScoped]) distinct)

/-- The blocks of entries are scoped and declare at most the names of the entries, when each of them
does. -/
theorem isScoped_of_blocks {entries : List Entry} {blocks : List (List Part)}
    (declared : List.Forall₂ (IsBlockOf writer path keys inside) entries blocks)
    (each : ∀ entry ∈ entries, ∀ block, IsBlockOf writer path keys inside entry block →
      IsScoped block ∧ (declaredNames block).Sublist (entry.declaredAs.map Prod.snd).toList) :
    IsScoped blocks.flatten ∧ (declaredNames blocks.flatten).Sublist
      ((entries.filterMap Entry.declaredAs).map Prod.snd) := by
  induction declared with
  | nil => exact ⟨.nil, List.nil_sublist _⟩
  | @cons entry block entries blocks isBlock _ inductionHypothesis =>
      obtain ⟨eachFirst, eachOther⟩ := List.forall_mem_cons.1 each
      obtain ⟨isScoped, sublist⟩ := eachFirst block isBlock
      obtain ⟨others, sublistLater⟩ := inductionHypothesis eachOther
      refine ⟨isScoped.append others, ?_⟩
      rw [List.flatten_cons, declaredNames_append, filterMap_cons_eq_append, List.map_append]
      refine .append ?_ sublistLater
      rwa [Option.toList_map] at sublist

/-- The records of groups that stand alone declare their keys. -/
theorem declares_records {alone : List String}
    (each : ∀ key ∈ alone, Text.IsUnspaced key ∧ IsScoped (inside key) ∧
      (declaredNames (inside key)).Nodup) :
    Declares alone (alone.flatMap fun key =>
      [.line "", .line ("record " ++ key), .block (inside key), .line "end"]) := by
  induction alone with
  | nil => exact .nil
  | cons key rest inductionHypothesis =>
      obtain ⟨⟨unspaced, isScoped, distinct⟩, others⟩ := List.forall_mem_cons.1 each
      have declares : declared? ("record " ++ key ++ "") = some key :=
        declared?_type (by decide) unspaced (by simp)
      rw [String.append_empty] at declares
      have record : Declares [key]
          [.line "", .line ("record " ++ key), .block (inside key), .line "end"] :=
        .record (.group unspaced) declares (List.forall_mem_singleton.2 isScoped)
          (by simpa using distinct)
      exact record.append (inductionHypothesis others)

/-- What the entries of a group are declared with, as its elements say. -/
theorem exists_of_mem_entries {elements : List Value} {entries : List Entry}
    {blocks : List (List Part)} {alone : List String}
    (arranged : IsArranged writer path elements keys inside entries blocks alone) :
    ((entries.filterMap Entry.declaredAs).Perm (elements.filterMap declaredAs)) ∧
      ∀ entry ∈ entries, entry.element ∈ elements ∧
        entry.element.field? "name" = some (.text entry.name) ∧
        declaredAs entry.element = entry.declaredAs := by
  obtain ⟨read, areEntries, perm⟩ := arranged.complete
  refine ⟨?_, fun entry member => ?_⟩
  · rw [← filterMap_declaredAs areEntries]
    exact perm.filterMap _
  · obtain ⟨element, among, isEntry⟩ :=
      (Outcome.mem_mapM_iff areEntries).1 (perm.mem_iff.1 member)
    obtain ⟨_, named, rfl⟩ := Entry.of_eq_ok.1 isEntry
    exact ⟨among, named, Entry.declaredAs_of isEntry⟩

end Level

/-- The parts of a group whose declarations do not meet declare distinct identifiers, when those of
the groups inside it do. -/
theorem declaresScope_of_isArrangedAs {writer : StubWriter} {path : List String} {group : Group}
    {parts : List Part} (distinctKeys : group.groups.keys.Nodup) (apart : IsApart group)
    (arranged : IsArrangedAs writer path group parts)
    (each : ∀ key inside, group.groups.get? key = some inside →
      DeclaresScope inside (partsInside writer path group key)) : DeclaresScope group parts := by
  obtain ⟨entries, blocks, alone, arranged, rfl⟩ := arranged
  obtain ⟨perm, ofElement⟩ := exists_of_mem_entries arranged
  have once := arranged.once.nodup_iff.2 distinctKeys
  have areKeys : alone ⊆ group.groups.keys := fun key isAlone =>
    arranged.once.mem_iff.1 (List.mem_append_right _ isAlone)
  have ofKey {key : String} (isKey : key ∈ group.groups.keys) :
      ∃ inside, group.groups.get? key = some inside ∧
        DeclaresScope inside (partsInside writer path group key) := by
    obtain ⟨inside, found⟩ := Table.exists_get?_of_mem_keys isKey
    exact ⟨inside, found, each key inside found⟩
  obtain ⟨isScoped, sublist⟩ := isScoped_of_blocks arranged.declared
    fun entry member block isBlock => by
      obtain ⟨among, named, sameName⟩ := ofElement entry member
      have ofClass (isClass : entry.kind? = some .classType) :=
        apart.fields entry.element among entry.name (by
          rw [sameName, Entry.declaredAs, isClass]
          rfl)
      refine isScoped_of_isBlockOf isBlock named (apart.plain _ among)
        (fun isClass => (ofClass isClass).1) fun isClass isKey => ?_
      obtain ⟨inside, found, declares⟩ := ofKey isKey
      refine ⟨declares.isScoped, List.nodup_append'.2 ⟨(ofClass isClass).1, declares.distinct, ?_⟩⟩
      exact List.disjoint_of_subset_right declares.within ((ofClass isClass).2 inside found)
  have records : Declares alone (alone.flatMap fun key =>
      [.line "", .line ("record " ++ key), .block (partsInside writer path group key),
        .line "end"]) := by
    refine declares_records fun key isAlone => ?_
    obtain ⟨inside, _, declares⟩ := ofKey (areKeys isAlone)
    exact ⟨apart.keys key (areKeys isAlone), declares.isScoped, declares.distinct⟩
  -- A group that stands alone does not have the name of a declared element: it would be a class,
  -- which hosts the group.
  have disjoint : ((entries.filterMap Entry.declaredAs).map Prod.snd).Disjoint alone := by
    intro name isName isAlone
    obtain ⟨_, declared, rfl⟩ := List.mem_map.1 isName
    obtain ⟨entry, member, isDeclared⟩ := List.mem_filterMap.1 declared
    obtain ⟨kind, ofKind, rfl⟩ := Option.map_eq_some_iff.1 isDeclared
    obtain ⟨among, _, sameName⟩ := ofElement entry member
    have isKey := areKeys isAlone
    obtain rfl := apart.hosts _ among kind _ (sameName.trans isDeclared) isKey
    have isHosted : entry.name ∈ (entries.filterMap Entry.className?).filter
        (group.groups.keys.contains ·) :=
      List.mem_filter.2 ⟨List.mem_filterMap.2 ⟨entry, member, if_pos ofKind⟩, by simpa using isKey⟩
    exact List.disjoint_of_nodup_append once isHosted isAlone
  refine ⟨isScoped.append records.isScoped, ?_, ?_⟩
  · rw [declaredNames_append, records.names]
    refine (List.nodup_append'.2 ⟨?_, ?_, disjoint⟩).sublist (sublist.append_right _)
    · exact (perm.map _).nodup_iff.2 apart.distinct
    · exact (List.nodup_append'.1 once).2.1
  · rw [declaredNames_append, records.names]
    refine List.append_subset.2 ⟨fun name member => ?_, fun key isAlone => ?_⟩
    · exact List.mem_append_left _ ((perm.map _).mem_iff.1 (sublist.subset member))
    · exact List.mem_append_right _ (areKeys isAlone)

/-- The names of classes are among those that elements are declared with. -/
theorem sublist_classNames (elements : List Value) :
    (classNames elements).Sublist ((elements.filterMap declaredAs).map Prod.snd) := by
  induction elements with
  | nil => exact .slnil
  | cons element rest inductionHypothesis =>
      rw [classNames, filterMap_cons_eq_append, filterMap_cons_eq_append, List.map_append]
      refine .append ?_ inductionHypothesis
      cases isEntry : Entry.of element with
      | error fault => exact List.nil_sublist _
      | ok entry =>
          rw [Entry.declaredAs_of isEntry, Entry.declaredAs]
          change (entry.className?.toList).Sublist _
          rw [Entry.className?]
          split
          · next isClass => simp [isClass]
          · exact List.nil_sublist _

/-- Groups whose declarations do not meet, at any depth, are unambiguous. -/
theorem isUnambiguous_of_isApart {group : Group} (tidy : group.Tidy)
    (apart : ∀ keys inside, group.follow keys = .ok inside → IsApart inside) :
    IsUnambiguous group := by
  induction group using Group.induction with
  | level name elements groups inductionHypothesis =>
      refine .mk tidy.nodup_keys ?_ fun entry member => ?_
      · exact (apart [] _ rfl).distinct.sublist (sublist_classNames elements)
      · have found := Table.get?_of_mem tidy.nodup_keys member
        refine inductionHypothesis entry member (tidy.inside found) fun keys inside leads => ?_
        exact apart (entry.1 :: keys) inside (Group.follow_cons_eq_ok.2 ⟨entry.2, found, leads⟩)

/-- A group whose declarations do not meet, at any depth, becomes scoped parts that declare distinct
identifiers. -/
theorem declaresScope_of_renderGroup {writer : StubWriter} {path : List String} {group : Group}
    (tidy : group.Tidy) (apart : ∀ keys inside, group.follow keys = .ok inside → IsApart inside)
    {parts : List Part} (renders : renderGroup writer path group = .ok parts) :
    DeclaresScope group parts := by
  induction group using Group.induction generalizing path parts with
  | level name elements groups inductionHypothesis =>
      obtain ⟨arranged, computed⟩ :=
        isArrangedAs_of_renderGroup (isUnambiguous_of_isApart tidy apart) renders
      refine declaresScope_of_isArrangedAs tidy.nodup_keys (apart [] _ rfl) arranged
        fun key inside found => ?_
      obtain ⟨others, rendersInside⟩ := computed key inside found
      have becomes : partsInside writer path (.mk name elements groups) key = others := by
        rw [partsInside, found]
        simp [rendersInside, Except.toOption]
      rw [becomes]
      refine inductionHypothesis _ (Table.mem_of_get? found) (tidy.inside found)
        (fun keys final leads => ?_) rendersInside
      exact apart (key :: keys) final (Group.follow_cons_eq_ok.2 ⟨inside, found, leads⟩)

/-! ## The scopes of elements -/

/-- Whether an element among several is declared at a path of keys. -/
def HasDeclarationAt (elements : List Value) (path : List String) : Prop :=
  ∃ element ∈ elements, ∃ kind name, declaredAs element = some (kind, name) ∧
    Group.segments name = path

/-- Whether elements make the group at a path of keys. -/
def HasGroupAt (elements : List Value) (path : List String) : Prop :=
  ∃ element ∈ elements, path <+: Group.home element

/-- Elements whose declarations do not meet: they have distinct names, only a class has the name of
a group, and the fields of a class are named apart from each other and from what stands in the group
of the name of the class. -/
structure AreApart (elements : List Value) : Prop where
  distinct : ((elements.filterMap declaredAs).map Prod.snd).Nodup
  hosts : ∀ element ∈ elements, ∀ kind name, declaredAs element = some (kind, name) →
    HasGroupAt elements (Group.segments name) → kind = .classType
  fields : ∀ element ∈ elements, ∀ name, declaredAs element = some (.classType, name) →
    (fieldNames element).Nodup ∧ ∀ field ∈ fieldNames element,
      ¬HasDeclarationAt elements (Group.segments name ++ [field]) ∧
      ¬HasGroupAt elements (Group.segments name ++ [field])

instance (elements : List Value) (path : List String) :
    Decidable (HasGroupAt elements path) :=
  inferInstanceAs (Decidable (∃ element ∈ elements, path <+: Group.home element))

instance (elements : List Value) (path : List String) :
    Decidable (HasDeclarationAt elements path) :=
  decidable_of_iff (∃ element ∈ elements, ∃ declared ∈ (declaredAs element).toList,
      Group.segments declared.2 = path) <| by
    simp [HasDeclarationAt]

instance (elements : List Value) : Decidable (AreApart elements) :=
  decidable_of_iff
    (((elements.filterMap declaredAs).map Prod.snd).Nodup ∧
      (∀ element ∈ elements, ∀ declared ∈ declaredAs element,
        HasGroupAt elements (Group.segments declared.2) → declared.1 = .classType) ∧
      ∀ element ∈ elements, ∀ declared ∈ declaredAs element, declared.1 = .classType →
        (fieldNames element).Nodup ∧ ∀ field ∈ fieldNames element,
          ¬HasDeclarationAt elements (Group.segments declared.2 ++ [field]) ∧
          ¬HasGroupAt elements (Group.segments declared.2 ++ [field]))
    ⟨fun ⟨distinct, hosts, fields⟩ => ⟨distinct,
        fun element among kind name declares => hosts element among (kind, name) declares,
        fun element among name declares => fields element among (.classType, name) declares rfl⟩,
      fun apart => ⟨apart.distinct,
        fun element among declared declares =>
          apart.hosts element among declared.1 declared.2 declares,
        fun element among declared declares isClass =>
          apart.fields element among declared.2 (isClass ▸ declares)⟩⟩

section Placed

variable {root : Group} {declared : List Value} (held : root.Holds declared) {path : List String}
  {inside : Group} (leads : root.follow path = .ok inside)

include held leads

/-- What stands in a group is what an element at home there appears as. -/
theorem exists_isShownAs {shown : Value} (member : shown ∈ inside.elements) :
    ∃ element ∈ declared, Group.IsShownAs path element shown ∧ Group.home element = path := by
  obtain ⟨element, among, appears⟩ :=
    Outcome.exists_matched_left (held.elements path inside leads) member
  obtain ⟨isDeclared, isHome⟩ := List.mem_filter.1 among
  obtain ⟨_, _, named⟩ := appears.named
  have dotless := held.tidy.dotless_of_follow leads
  exact ⟨element, isDeclared, appears, (Group.leadsTo_iff_home dotless ⟨_, named⟩).1 isHome⟩

/-- What is declared in a group under a name is declared at its path under that name. -/
theorem exists_declaredAs {shown : Value} (member : shown ∈ inside.elements) {kind : Kind}
    {last : String} (shownAs : declaredAs shown = some (kind, last)) :
    ∃ element ∈ declared, ∃ name, Group.IsShownAs path element shown ∧
      declaredAs element = some (kind, name) ∧ Group.segments name = path ++ [last] := by
  obtain ⟨element, among, appears, _⟩ := exists_isShownAs held leads member
  refine ⟨element, among, Group.dottedName path last, appears, ?_, ?_⟩
  · rw [appears.declaredAs_eq, shownAs]
    rfl
  · obtain ⟨name, named, dotless⟩ := (held.tidy.of_follow leads).named shown member
    obtain rfl : name = last := by
      obtain ⟨_, _, same⟩ := Option.map_eq_some_iff.1 shownAs
      simpa [Group.nameOf, named, Value.text?] using congrArg Prod.snd same
    refine Group.segments_dottedName fun key isKey => ?_
    rcases List.mem_append.1 isKey with inPath | isLast
    · exact held.tidy.dotless_of_follow leads key inPath
    · exact List.mem_singleton.1 isLast ▸ dotless

/-- Every key of a group leads to one that elements make. -/
theorem hasGroupAt_of_key {key : String} (isKey : key ∈ inside.groups.keys) :
    HasGroupAt declared (path ++ [key]) := by
  obtain ⟨next, found⟩ := Table.exists_get?_of_mem_keys isKey
  have leadsOn : root.follow (path ++ [key]) = .ok next :=
    follow_append leads (Group.follow_cons_eq_ok.2 ⟨next, found, rfl⟩)
  obtain ⟨more, final, leadsThere, nonempty⟩ :=
    isInhabited_of_follow held.tidy (by simp) leadsOn
  obtain ⟨shown, member⟩ := List.exists_mem_of_ne_nil _ nonempty
  obtain ⟨element, among, _, isHome⟩ :=
    exists_isShownAs held (follow_append leadsOn leadsThere) member
  exact ⟨element, among, isHome ▸ List.prefix_append ..⟩

/-- Whatever a group can declare is declared at its path, or names a group there. -/
theorem meets_of_mem_scopeNames {name : String} (isName : name ∈ scopeNames inside) :
    HasDeclarationAt declared (path ++ [name]) ∨ HasGroupAt declared (path ++ [name]) := by
  rcases List.mem_append.1 isName with ofElement | isKey
  · obtain ⟨⟨kind, last⟩, isDeclared, rfl⟩ := List.mem_map.1 ofElement
    obtain ⟨shown, member, shownAs⟩ := List.mem_filterMap.1 isDeclared
    obtain ⟨element, among, name, _, declares, segments⟩ :=
      exists_declaredAs held leads member shownAs
    exact .inl ⟨element, among, kind, name, declares, segments⟩
  · exact .inr (hasGroupAt_of_key held leads isKey)

/-- The elements of a group have distinct names when all elements have. -/
theorem nodup_names (distinct : ((declared.filterMap declaredAs).map Prod.snd).Nodup) :
    ((inside.elements.filterMap declaredAs).map Prod.snd).Nodup := by
  -- Behind the keys of the path, the names in the group become the names of elements.
  refine List.Nodup.of_map (Group.dottedName path) ?_
  have renamed := congrArg (List.map Prod.snd)
    (Group.filterMap_declaredAs_of_shown (held.elements path inside leads))
  rw [List.map_map] at renamed ⊢
  rw [show Group.dottedName path ∘ Prod.snd = Prod.snd ∘
    fun declared : Kind × String => (declared.1, Group.dottedName path declared.2) from rfl,
    ← renamed]
  exact distinct.sublist ((List.filter_sublist.filterMap _).map _)

end Placed

/-- The names of what an element appears as hold nothing that those of the element do not. -/
theorem hasPlainNames_of_isShownAs {path : List String} {element shown : Value}
    (appears : Group.IsShownAs path element shown) (plain : HasPlainNames element) :
    HasPlainNames shown := by
  refine ⟨(unspaced_of_isShownAs appears plain.toHasUnspacedNames).2, fun name found => ?_⟩
  obtain ⟨last, namedShown, named⟩ := appears.named
  obtain rfl : last = name := Value.text.inj (Option.some.inj (namedShown.symm.trans found))
  intro char member
  refine plain.unbracketed _ named char ?_
  rw [Group.toList_dottedName]
  exact List.mem_append_right _ member

/-- In groups that hold elements whose declarations do not meet, those of no group meet. -/
theorem isApart_of_holds {root : Group} {declared : List Value} (held : root.Holds declared)
    (plain : ∀ element ∈ declared, HasPlainNames element) (apart : AreApart declared)
    (path : List String) (inside : Group) (leads : root.follow path = .ok inside) :
    IsApart inside where
  keys key isKey := by
    obtain ⟨next, found⟩ := Table.exists_get?_of_mem_keys isKey
    have leadsOn : root.follow (path ++ [key]) = .ok next :=
      follow_append leads (Group.follow_cons_eq_ok.2 ⟨next, found, rfl⟩)
    exact (unspaced_of_holds held (fun element among => (plain element among).toHasUnspacedNames)
      _ next leadsOn).1 key (by simp)
  plain shown member := by
    obtain ⟨element, among, appears, _⟩ := exists_isShownAs held leads member
    exact hasPlainNames_of_isShownAs appears (plain element among)
  distinct := nodup_names held leads apart.distinct
  hosts shown member kind last shownAs isKey := by
    obtain ⟨element, among, name, _, declares, segments⟩ :=
      exists_declaredAs held leads member shownAs
    refine apart.hosts element among kind name declares ?_
    rw [segments]
    exact hasGroupAt_of_key held leads isKey
  fields shown member last shownAs := by
    obtain ⟨element, among, name, appears, declares, segments⟩ :=
      exists_declaredAs held leads member shownAs
    have sameFields : fieldNames shown = fieldNames element := by
      rw [fieldNames, fieldNames, appears.others "fields" (by decide)]
    obtain ⟨distinct, apartFromGroup⟩ := apart.fields element among name declares
    rw [sameFields]
    refine ⟨distinct, fun next found field isField isName => ?_⟩
    have leadsOn : root.follow (path ++ [last]) = .ok next :=
      follow_append leads (Group.follow_cons_eq_ok.2 ⟨next, found, rfl⟩)
    obtain ⟨noDeclaration, noGroup⟩ := apartFromGroup field isField
    rw [segments] at noDeclaration noGroup
    exact (meets_of_mem_scopeNames held leadsOn isName).elim noDeclaration noGroup

/-- No scope of the Teal file declares an identifier twice, as long as the declarations of the
selected elements do not meet and their names can be told from the rest of a line. -/
theorem declaresOnce_renderLines (writer : StubWriter) (version : String) (modules : List Value)
    (elements : List Value) (lines : List String)
    (selected : selectedElements writer.settings.teal.selection modules = .ok elements)
    (plain : ∀ element ∈ elements, HasPlainNames element) (apart : AreApart elements)
    (renders : renderLines writer version modules = .ok lines) :
    declaresOnce [] [] (lines.drop 5) = true := by
  obtain ⟨root, grouped, parts, rendered, renders⟩ := by
    simpa only [renderLines, Outcome.bind_eq_ok, Outcome.pure_eq_ok] using renders
  obtain ⟨modulesSelected, declared, selects, read, held⟩ := Group.holds_of_ofModules grouped
  obtain rfl : declared = elements := by
    rw [selectedElements, selects, Outcome.ok_bind, read] at selected
    exact Except.ok.inj selected
  have declares := declaresScope_of_renderGroup held.tidy (isApart_of_holds held plain apart)
    rendered
  have scanned :
      declaresOnce [] [] (Part.linesOf (tabs 0) (parts.map (shownPart 0)) ++ []) = true :=
    declares.isScoped.declaresOnce 0 (by simpa using declares.distinct) rfl
  rw [map_shownPart_zero, List.append_nil] at scanned
  rw [← renders]
  exact scanned

/-- A class with the group of its name inside it, groups without a class, and a member with the name
of a field in another scope are declared once each. -/
theorem declaresOnce_of_class_and_groups :
    let writer : StubWriter := { settings := .default, known := ⟨[]⟩ }
    let element (name type : String) (fields : Table Value) : Value :=
      .record [("name", .text name), ("type", .text type), ("fields", .record fields)]
    let elements := [element "b2d.body" "BASIC_CLASS" [("mass", .text "number")],
      element "b2d.body.get" "FUNCTION" [], element "b2d.body.joint.mass" "VARIABLE" [],
      element "print" "FUNCTION" []]
    let modules : List Value :=
      [.record [("namespace", .text "meta"), ("elements", .list elements)]]
    ∃ lines, renderLines writer "1" modules = .ok lines ∧
      declaresOnce [] [] (lines.drop 5) = true := by
  intro writer element elements modules
  have renders : (renderLines writer "1" modules).isOk = true := by decide +kernel
  obtain ⟨lines, returns⟩ := Outcome.exists_of_isOk renders
  have isPlain (name type : String) {fields : Table Value} (unspaced : Text.IsUnspaced name)
      (unbracketed : Text.IsUnbracketed name)
      (keys : ∀ key ∈ (Table.sorted fields).keys, Text.IsUnspaced key) :
      HasPlainNames (element name type fields) := by
    refine ⟨⟨fun other found => ?_, fun record entries found read => ?_⟩, fun other found => ?_⟩
    · exact Value.text.inj (Option.some.inj found) ▸ unspaced
    · obtain rfl : Value.record fields = record := Option.some.inj found
      rw [Value.sortedFields_record] at read
      exact Except.ok.inj read ▸ keys
    · exact Value.text.inj (Option.some.inj found) ▸ unbracketed
  have plain : ∀ element ∈ elements, HasPlainNames element := by
    simp only [elements, List.forall_mem_cons]
    exact ⟨isPlain _ _ (by decide) (by decide) (by decide +kernel),
      isPlain _ _ (by decide) (by decide) (by simp [Table.sorted, Table.keys]),
      isPlain _ _ (by decide) (by decide) (by simp [Table.sorted, Table.keys]),
      isPlain _ _ (by decide) (by decide) (by simp [Table.sorted, Table.keys]), by simp⟩
  have apart : AreApart elements := by decide +kernel
  exact ⟨lines, returns,
    declaresOnce_renderLines writer "1" modules elements lines rfl plain apart returns⟩

/-- An alias of userdata and the group of its name become two records of one name, although the
elements have distinct names. -/
theorem not_declaresOnce_of_userdata_alias :
    let writer : StubWriter := { settings := .default, known := ⟨[]⟩ }
    let elements : List Value := [
      .record [("type", .text "BASIC_ALIAS"), ("name", .text "hash"), ("alias", .text "userdata")],
      .record [("type", .text "FUNCTION"), ("name", .text "hash.of")]]
    let modules : List Value := [.record [("namespace", .text "meta"), ("brief", .text ""),
      ("description", .text ""), ("elements", .list elements)]]
    selectedElements writer.settings.teal.selection modules = .ok elements ∧
      (elements.map Group.nameOf).Nodup ∧
      ∃ lines, renderLines writer "1.9.0" modules = .ok lines ∧
        ["global record hash is userdata end", "global record hash"] ⊆ lines ∧
        declaresOnce [] [] (lines.drop 5) = false := by
  intro writer elements modules
  have renders : (renderLines writer "1.9.0" modules).isOk = true := by decide +kernel
  obtain ⟨lines, returns⟩ := Outcome.exists_of_isOk renders
  have fails : (renderLines writer "1.9.0" modules).toOption.all (fun lines =>
      decide (["global record hash is userdata end", "global record hash"] ⊆ lines ∧
        declaresOnce [] [] (lines.drop 5) = false)) = true := by decide +kernel
  refine ⟨rfl, by decide +kernel, lines, returns, ?_⟩
  simpa only [returns, Except.toOption, Option.all_some, decide_eq_true_eq] using fails

end ApiStubs.Teal
