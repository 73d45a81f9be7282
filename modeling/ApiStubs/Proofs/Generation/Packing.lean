import ApiStubs.Proofs.Generation.Preparation
import ApiStubs.Proofs.Table
import Mathlib.Data.List.TakeWhile

/-!
# How the archive is packed

An archive lists its members in some order and may hold more than documents. A run reads the members
whose names end in `.json`, in ascending order of their names, so nothing it does depends on the
rest.

- `Body.IsRepacked` relates two answers that hold the same documents.
- `documents_eq_of_same` says that such archives are read as the same sequence of documents.
- `generate_eq_of_repacked` says that with such answers the whole run is the same: its outcome, its
  disk and what it prints.
-/

namespace ApiStubs

/-- The members of an archive under the names that it keeps of them. -/
def keptMembers (members : List (String × ByteArray)) : Table ByteArray :=
  members.map fun member => (Release.keptName member.1, member.2)

/-- Names without null characters are kept whole. -/
theorem keptMembers_eq_self {members : List (String × ByteArray)}
    (plain : ∀ name ∈ members.map Prod.fst, '\x00' ∉ name.toList) :
    keptMembers members = members := by
  refine (List.map_congr_left fun member among => ?_).trans (List.map_id members)
  have whole : member.1.toList.takeWhile (fun char => char != '\x00') = member.1.toList := by
    refine List.takeWhile_eq_self_iff.2 fun char inside => bne_iff_ne.2 ?_
    rintro rfl
    exact plain member.1 (List.mem_map_of_mem among) inside
  rw [Release.keptName, whole, String.ofList_toList]
  rfl

/-- Whether a member of an archive is a document. -/
def isDocumentName (name : String) : Bool :=
  Text.endsWith name ".json"

/-- Two answers hold the same documents: they are the same text, or archives with distinct names and
the same members among the documents. Other members and the order do not matter. -/
inductive Body.IsRepacked : Body → Body → Prop
  | text (content : String) : Body.IsRepacked (.text content) (.text content)
  | archive {members others : List (String × ByteArray)}
      (distinct : (keptMembers members).keys.Nodup)
      (distinctOthers : (keptMembers others).keys.Nodup)
      (same : ∀ name bytes, isDocumentName name = true →
        ((name, bytes) ∈ keptMembers members ↔ (name, bytes) ∈ keptMembers others)) :
      Body.IsRepacked (.archive members) (.archive others)

/-- Two ways to answer requests differ in the packing of archives alone. -/
structure Web.IsRepacked (web other : Web) : Prop where
  status : ∀ url, (web url).status = (other url).status
  body : ∀ url, (web url).body.IsRepacked (other url).body

namespace Release

variable {members others : Table ByteArray}

/-- The documents of an archive as members, in ascending order of their names. -/
def sortedDocuments (members : Table ByteArray) : Table ByteArray :=
  Table.sorted (members.filter fun member => isDocumentName member.1)

/-- Archives with the same documents have them in the same ascending order. -/
theorem sortedDocuments_eq (distinct : members.keys.Nodup) (distinctOthers : others.keys.Nodup)
    (same : ∀ name bytes, isDocumentName name = true →
      ((name, bytes) ∈ members ↔ (name, bytes) ∈ others)) :
    sortedDocuments members = sortedDocuments others := by
  refine Table.sorted_eq_of_perm ((List.filter_sublist.map _).nodup distinct) ?_
  refine (List.perm_ext_iff_of_nodup ((Table.nodup_of_keys distinct).filter _)
    ((Table.nodup_of_keys distinctOthers).filter _)).2 fun member => ?_
  rw [List.mem_filter, List.mem_filter]
  exact and_congr_left fun isDocument => same member.1 member.2 isDocument

/-- The names of the documents are those of the documents in ascending order. -/
theorem documentNames_eq (members : Table ByteArray) :
    documentNames members = (sortedDocuments members).keys := by
  have named : Table.keys (sortedDocuments members) =
      (Table.keys (members.filter fun member => isDocumentName member.1)).mergeSort
        fun left right => decide (left ≤ right) :=
    List.map_mergeSort fun _ _ _ _ => rfl
  rw [named, documentNames, Table.keys, List.filter_map]
  rfl

/-- Names of documents in ascending order are those of the documents. -/
theorem documentNames_eq_self {members : Table ByteArray}
    (areDocuments : ∀ name ∈ members.keys, isDocumentName name = true)
    (ascending : members.keys.Pairwise (· ≤ ·)) : documentNames members = members.keys := by
  have all : members.keys.filter isDocumentName = members.keys :=
    List.filter_eq_self.2 areDocuments
  exact (congrArg (List.mergeSort · _) all).trans
    (List.mergeSort_of_pairwise (ascending.imp decide_eq_true))

/-- A member of an archive is read under its name. -/
theorem memberContent_eq (distinct : members.keys.Nodup) {member : String × ByteArray}
    (isMember : member ∈ members) : memberContent members member.1 = member.2 := by
  have distinctReversed : Table.keys members.reverse |>.Nodup := by
    rw [Table.keys, List.map_reverse, List.nodup_reverse]
    exact distinct
  have found : members.reverse.lookup member.1 = some member.2 :=
    Table.get?_of_mem distinctReversed (List.mem_reverse.2 isMember)
  rw [memberContent, found, Option.getD_some]

/-- A document with its bytes read as a text. -/
def decoded (member : String × ByteArray) : Outcome (String × String) :=
  match String.fromUTF8? member.2 with
  | some text => .ok (member.1, text)
  | none => .error .undecodableText

/-- The documents of an archive are read from its members in ascending order of their names. -/
theorem documents_eq_mapM (distinct : members.keys.Nodup) :
    documents members = (sortedDocuments members).mapM decoded := by
  rw [documents, documentNames_eq, Table.keys, List.mapM_map]
  refine Outcome.mapM_congr fun member isDocument => ?_
  have isMember : member ∈ members := (List.mem_filter.1 (List.mem_mergeSort.1 isDocument)).1
  rw [Function.comp_apply, memberContent_eq distinct isMember]
  rfl

/-- Archives with the same documents are read as the same sequence of documents. -/
theorem documents_eq_of_same (distinct : members.keys.Nodup) (distinctOthers : others.keys.Nodup)
    (same : ∀ name bytes, isDocumentName name = true →
      ((name, bytes) ∈ members ↔ (name, bytes) ∈ others)) :
    documents members = documents others := by
  rw [documents_eq_mapM distinct, documents_eq_mapM distinctOthers,
    sortedDocuments_eq distinct distinctOthers same]

/-! ## Requests -/

/-- What follows a request is the same when the status is and what is made of the answer. -/
theorem request_bind_congr {α : Type} {web other : Web} {url : String}
    {next nextOther : Body → Run α} (status : (web url).status = (other url).status)
    (same : next (web url).body = nextOther (other url).body) :
    (request web url >>= next) = (request other url >>= nextOther) := by
  simp only [request, status, bind_assoc]
  split
  · rfl
  · simp only [pure_bind, same]

/-- The label of the current version does not depend on how archives are packed. -/
theorem currentVersion_eq_of_repacked {web other : Web} (repacked : web.IsRepacked other)
    (settings : Settings) : currentVersion web settings = currentVersion other settings := by
  refine request_bind_congr (repacked.status _) ?_
  have bodies := repacked.body settings.versionAddress
  generalize (web settings.versionAddress).body = body at bodies ⊢
  generalize (other settings.versionAddress).body = otherBody at bodies ⊢
  cases bodies <;> rfl

/-- The documents of a bundle do not depend on how archives are packed. -/
theorem referenceDocuments_eq_of_repacked {web other : Web} (repacked : web.IsRepacked other)
    (settings : Settings) (version : String) :
    referenceDocuments web settings version = referenceDocuments other settings version := by
  simp only [referenceDocuments]
  congr 1
  funext url
  congr 1
  funext _
  refine request_bind_congr (repacked.status url) ?_
  have bodies := repacked.body url
  generalize (web url).body = body at bodies ⊢
  generalize (other url).body = otherBody at bodies ⊢
  cases bodies with
  | text content => rfl
  | archive distinct distinctOthers same =>
      exact congrArg Run.ofOutcome (documents_eq_of_same distinct distinctOthers same)

/-- When every request brings one archive, the documents of a bundle are those in it. -/
theorem referenceDocuments_of_archive {web : Web} {members : List (String × ByteArray)}
    {found : List (String × String)} (answers : ∀ url, web url = { body := .archive members })
    (holds : documents (keptMembers members) = .ok found) (settings : Settings)
    (version : String) :
    referenceDocuments web settings version = (do
      let url ← Run.ofOutcome (bundleAddress settings version)
      Run.print s!"-- Fetching {url}"
      Run.print s!"GET {url}"
      return found) := by
  have accepted : ¬(400 ≤ 200 ∧ 200 < 600) := by decide
  have isFound : documents (members.map fun member => (keptName member.1, member.2)) =
      .ok found := holds
  simp only [referenceDocuments, request, answers, isFound, accepted, if_false, bind_assoc,
    pure_bind]
  rfl

end Release

namespace Generation

/-- A run does not depend on how the archive is packed: with the same documents in it, the outcome,
the disk and what is printed are the same, from every workspace and for all arguments. -/
theorem generate_eq_of_repacked (web other : Web) (repacked : web.IsRepacked other)
    (arguments : List String) (start : Workspace) :
    (generate web arguments).perform start = (generate other arguments).perform start := by
  have sameVersion (settings : Settings) (given? : Option String) :
      chooseVersion web settings given? = chooseVersion other settings given? := by
    cases given? with
    | some version => rfl
    | none => simp only [chooseVersion, Release.currentVersion_eq_of_repacked repacked]
  simp only [generate, sameVersion, Release.referenceDocuments_eq_of_repacked repacked]

/-- An archive whose documents stand in another order, and in which a picture stands between them,
gives the same run, which writes a file for each document. -/
theorem generate_eq_of_reordered_archive :
    let go : String × ByteArray := ("go_doc.json", (functionDocument "go").toUTF8)
    let picture : String × ByteArray := ("logo.png", ByteArray.empty)
    let vmath : String × ByteArray := ("vmath_doc.json", (functionDocument "vmath").toUTF8)
    let packed (members : List (String × ByteArray)) : Web := fun _ => { body := .archive members }
    let arguments := ["1.9.0", "corrections.json"]
    let api := Location.work.child "api"
    let start : Workspace := { disk := { files := [(Location.work.child "corrections.json",
      "\x7b\"lua\": \x7b\"allowed_namespaces\": [\"go\", \"vmath\"]\x7d, " ++
        "\"teal\": \x7b\"allowed_namespaces\": []\x7d\x7d")] } }
    (packed [go, vmath]).IsRepacked (packed [vmath, picture, go]) ∧
      (generate (packed [go, vmath]) arguments).perform start =
        (generate (packed [vmath, picture, go]) arguments).perform start ∧
      ∃ finish, (generate (packed [go, vmath]) arguments).perform start = (.ok (), finish) ∧
        finish.disk.isFile (api.child "go.lua") = true ∧
        finish.disk.isFile (api.child "vmath.lua") = true := by
  intro go picture vmath packed arguments api start
  have kept : keptMembers [go, vmath] = [go, vmath] := keptMembers_eq_self
    (show ∀ name ∈ ["go_doc.json", "vmath_doc.json"], '\x00' ∉ name.toList by decide)
  have keptOthers : keptMembers [vmath, picture, go] = [vmath, picture, go] := keptMembers_eq_self
    (show ∀ name ∈ ["vmath_doc.json", "logo.png", "go_doc.json"], '\x00' ∉ name.toList by decide)
  have noPicture (name : String) (bytes : ByteArray) (isDocument : isDocumentName name = true) :
      (name, bytes) ≠ picture := by
    rintro same
    obtain ⟨rfl, -⟩ := Prod.mk.inj same
    revert isDocument
    decide +kernel
  have repacked : (packed [go, vmath]).IsRepacked (packed [vmath, picture, go]) := by
    refine ⟨fun _ => rfl, fun _ => .archive ?_ ?_ fun name bytes isDocument => ?_⟩
    · rw [kept]
      decide +kernel
    · rw [keptOthers]
      decide +kernel
    · simp [kept, keptOthers, noPicture name bytes isDocument, or_comm]
  let passes (_ : Preparation) (finish : Workspace) : Bool :=
    finish.disk.isFile (api.child "go.lua") && finish.disk.isFile (api.child "vmath.lua")
  have holds : Release.documents (keptMembers [go, vmath]) = .ok
      [("go_doc.json", functionDocument "go"), ("vmath_doc.json", functionDocument "vmath")] := by
    have sorted : Release.documentNames [go, vmath] = ["go_doc.json", "vmath_doc.json"] :=
      Release.documentNames_eq_self
        (show ∀ name ∈ ["go_doc.json", "vmath_doc.json"], isDocumentName name = true by decide)
        (show ["go_doc.json", "vmath_doc.json"].Pairwise (· ≤ ·) by decide)
    rw [kept, Release.documents, sorted]
    exact Outcome.toOption_eq_some.1 (by decide +kernel)
  have answers : ∀ url, packed [go, vmath] url = { body := .archive [go, vmath] } := fun _ => rfl
  have prepares : ((preparation? (packed [go, vmath]) "1.9.0" "corrections.json" start).any
      fun found => replacesTo passes found.1 found.2) = true := by
    simp only [preparation?, Release.referenceDocuments_of_archive answers holds]
    decide +kernel
  obtain ⟨_, finish, _, returns, passed⟩ := exists_returned passes prepares
  exact ⟨repacked, generate_eq_of_repacked _ _ repacked arguments start, finish, returns,
    (Bool.and_eq_true _ _).mp passed⟩

end Generation

end ApiStubs
