import ApiStubs.Proofs.Lua.Faults
import ApiStubs.Proofs.Teal.Faults

/-!
# What stops the stubs

Documented modules are written without a fault, but for classes that lack their fields and for files
that cannot be opened. The Lua files of the modules before the one that stops a run stay, as a run
over these modules alone would leave them. The Teal file is written as a whole or not at all.
-/

namespace ApiStubs.Generation

open ApiStubs.Reference ApiStubs.Value

/-- An element that has a name and a type alone is documented, but for an alias. -/
theorem isDocumentedElement_bare (name : String) {type : String} (notAlias : type ≠ "BASIC_ALIAS") :
    IsDocumentedElement (.record [("name", .text name), ("type", .text type)]) where
  name := ⟨name, rfl⟩
  type := ⟨type, rfl⟩
  description := fun _ present => nomatch present
  parameters := fun _ present => nomatch present
  results := fun _ present => nomatch present
  fields := fun _ present => nomatch present
  operators := fun _ present => nomatch present
  target := fun isAlias => absurd (Value.text.inj (Option.some.inj isAlias)) notAlias

/-- A module of documented elements without a description is documented. -/
theorem isDocumentedModule_plain (space : String) {elements : List Value}
    (each : ∀ element ∈ elements, IsDocumentedElement element) :
    IsDocumentedModule (.record [("namespace", .text space), ("brief", .text ""),
      ("elements", .list elements)]) where
  space := ⟨space, rfl⟩
  brief := ⟨_, rfl, isText_text ""⟩
  description := fun _ present => nomatch present
  elements := ⟨elements, rfl, each⟩

/-- The default patterns of arrays can be filled with every text. -/
theorem fillsArrays_default :
    Settings.default.lua.FillsArrays ∧ Settings.default.teal.FillsArrays := by
  have ofLua : Pattern.pieces Settings.default.lua.arrayPattern =
      [].map .char ++ .place .plain :: ['[', ']'].map .char := by decide
  have ofTeal : Pattern.pieces Settings.default.teal.arrayPattern =
      ['\x7b'].map .char ++ .place .plain :: ['\x7d'].map .char := by decide
  exact ⟨.of_pieces ofLua, .of_pieces ofTeal⟩

/-- Writing the stubs of documented modules is stopped by a class without fields that the selection
of the dialect keeps, or by a file that cannot be opened, and by nothing else: texts hold Unicode
scalar values, so a file that has been opened can be written. The Lua files are then those of the
modules before the first one that stops, and nothing of the Teal file is written. -/
theorem stubs_stop_iff (writer : StubWriter) (version : String) (modules : List Value)
    (lua : writer.settings.lua.IsShaped) (fillsLua : writer.settings.lua.FillsArrays)
    (teal : writer.settings.teal.IsShaped) (fillsTeal : writer.settings.teal.FillsArrays)
    (isFolder : writer.settings.stubFolder.IsText)
    (documented : ∀ module ∈ modules, IsDocumentedModule module) (start : Workspace) :
    ((∃ fault finish,
        (Lua.writeFiles writer version modules).perform start = (.error fault, finish)) ↔
      ∃ module ∈ modules, ∃ fault, Lua.Stops writer version start.disk module fault) ∧
    (∀ fault finish,
      (Lua.writeFiles writer version modules).perform start = (.error fault, finish) →
      ∃ before module after written left, modules = before ++ module :: after ∧
        (Lua.writeFiles writer version before).perform start = (.ok written, left) ∧
        finish.disk = left.disk ∧ Lua.Stops writer version left.disk module fault) ∧
    ((∃ fault finish,
        (Teal.writeFile writer version modules).perform start = (.error fault, finish)) ↔
      ∃ fault, Teal.Stops writer start.disk modules fault) ∧
    ∀ fault finish,
      (Teal.writeFile writer version modules).perform start = (.error fault, finish) →
      finish.disk = start.disk ∧ Teal.Stops writer start.disk modules fault := by
  refine ⟨?_, fun fault finish ended => ?_, ?_, fun fault finish ended => ?_⟩
  · exact Lua.writeFiles_eq_error_iff lua fillsLua isFolder documented start
  · exact Lua.exists_of_writeFiles_eq_error lua fillsLua isFolder documented ended
  · exact Teal.writeFile_eq_error_iff teal documented fillsTeal isFolder start
  · exact Teal.stops_of_writeFile teal documented fillsTeal isFolder ended

/-- A class without fields in the second of two modules stops the stubs of both dialects. -/
theorem stubs_stop_at_bare_class :
    let writer : StubWriter := { settings := .default, known := ⟨[]⟩ }
    let module (space type : String) : Value := .record [("namespace", .text space),
      ("brief", .text ""),
      ("elements", .list [.record [("name", .text (space ++ ".it")), ("type", .text type)]])]
    let modules := [module "go" "FUNCTION", module "meta" "BASIC_CLASS"]
    let start : Workspace := { disk := { folders := [Location.work.child "api"] } }
    (∃ fault finish, (Lua.writeFiles writer "1" modules).perform start = (.error fault, finish)) ∧
      ∃ fault finish, (Teal.writeFile writer "1" modules).perform start = (.error fault, finish) ∧
        finish.disk = start.disk := by
  intro writer module modules start
  have documented : ∀ module ∈ modules, IsDocumentedModule module := by
    refine List.forall_mem_cons.2 ⟨?_, List.forall_mem_singleton.2 ?_⟩
    · exact isDocumentedModule_plain "go"
        (List.forall_mem_singleton.2 (isDocumentedElement_bare _ (by decide)))
    · exact isDocumentedModule_plain "meta"
        (List.forall_mem_singleton.2 (isDocumentedElement_bare _ (by decide)))
  have second : module "meta" "BASIC_CLASS" ∈ modules := by simp [modules]
  obtain ⟨luaStops, _, tealStops, tealLeaves⟩ := stubs_stop_iff writer "1" modules
    Settings.isShaped_default.lua fillsArrays_default.1 Settings.isShaped_default.teal
    fillsArrays_default.2 Settings.isShaped_default.stubFolder documented start
  have keptByLua : KeepsBareClass writer.settings.lua.selection (module "meta" "BASIC_CLASS")
      "meta.it" := ⟨_, _, rfl, rfl, _, List.mem_singleton_self _, rfl, rfl, rfl⟩
  have keptByTeal : KeepsBareClass writer.settings.teal.selection (module "meta" "BASIC_CLASS")
      "meta.it" := ⟨_, _, rfl, rfl, _, List.mem_singleton_self _, rfl, rfl, rfl⟩
  constructor
  · exact luaStops.2 ⟨_, second, _, .bareClass keptByLua⟩
  · obtain ⟨fault, finish, ended⟩ := tealStops.2 ⟨_, .bareClass second keptByTeal⟩
    exact ⟨fault, finish, ended, (tealLeaves fault finish ended).1⟩

/-- A namespace that cannot be the name of a file stops the Lua files as well, although no class
lacks its fields. -/
theorem writeFiles_stop_at_unusable_namespace :
    let writer : StubWriter := { settings := .default, known := ⟨[]⟩ }
    let space := "go\x00"
    let module : Value := .record [("namespace", .text space), ("brief", .text ""),
      ("elements", .list [.record [("name", .text "it"), ("type", .text "FUNCTION")]])]
    let start : Workspace := { disk := { folders := [Location.work.child "api"] } }
    writer.settings.lua.IsShaped ∧ writer.settings.lua.FillsArrays ∧ IsDocumentedModule module ∧
      (¬∃ name, KeepsBareClass writer.settings.lua.selection module name) ∧
      ∃ finish, (Lua.writeFiles writer "1" [module]).perform start =
        (.error .unusableValue, finish) := by
  intro writer space module start
  refine ⟨Settings.isShaped_default.lua, fillsArrays_default.1, isDocumentedModule_plain space
    (List.forall_mem_singleton.2 (isDocumentedElement_bare "it" (by decide))), ?_, ?_⟩
  · rintro ⟨name, selected, kept, selects, members, element, among, bare⟩
    obtain ⟨all, read, isMember⟩ := narrows_select selects kept members element among
    obtain rfl : [Value.record [("name", .text "it"), ("type", .text "FUNCTION")]] = all :=
      Except.ok.inj read
    rw [List.mem_singleton.1 isMember] at bare
    have isClass : "FUNCTION" = "BASIC_CLASS" := Value.text.inj (Option.some.inj bare.type)
    exact absurd isClass (by decide)
  · have unusable : (match ((Lua.writeFiles writer "1" [module]).perform start).1 with
        | .error .unusableValue => true
        | _ => false) = true := by decide +kernel
    cases performed : (Lua.writeFiles writer "1" [module]).perform start with
    | mk outcome finish =>
        rw [performed] at unusable
        split at unusable
        · next isFault =>
            obtain rfl : outcome = .error .unusableValue := isFault
            exact ⟨finish, rfl⟩
        · cases unusable

end ApiStubs.Generation
