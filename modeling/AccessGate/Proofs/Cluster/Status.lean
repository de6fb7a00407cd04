/-
The status of an object as a part of its own. Main statement: in a cluster whose objects were given as documents,
a write of an object leaves its status alone, and a write of the status leaves everything else alone but the
version; only a patch of the status brings the names of the type back where the data hid them
(`status_isolated`).
-/
import AccessGate.Proofs.Cluster.Documented

namespace AccessGate.Cluster

/-! ## What is the same after a write -/

/-- Whether two objects are written the same but for some members and the version in the metadata. -/
structure Object.SameBut (ks : List String) (o o' : Object) : Prop where
  members : ∀ k, k ≠ "metadata" → k ∉ ks → o'.toJson.get? k = o.toJson.get? k
  metadata : ∀ k, k ≠ "resourceVersion" →
    (o'.toJson.get? "metadata").bind (Json.get? · k) = (o.toJson.get? "metadata").bind (Json.get? · k)

/-- Whether the version and the kind that an object is written with are both texts, or neither is there. -/
def Object.Typed (o : Object) : Prop :=
  (∃ a k, o.toJson.get? "apiVersion" = some (.str a) ∧ o.toJson.get? "kind" = some (.str k)) ∨
    o.toJson.get? "apiVersion" = none ∧ o.toJson.get? "kind" = none

/-- Whether the names of its type, if an object has them, are those that it is written with: no members of its data
hide them. -/
def Object.NamesShown (o : Object) : Prop :=
  ∀ n, o.types = some n →
    o.toJson.get? "apiVersion" = some (.str n.apiVersion) ∧ o.toJson.get? "kind" = some (.str n.kind)

namespace Object

variable {o old new : Object} {version : String} {changes : List (String × Json)}

theorem get?_toJson_status (h : o.data.Ascending) : o.toJson.get? "status" = o.status :=
  get?_members_of_ne h (by decide) (by decide) (by decide)

theorem metadata_of_version (ho : o.WellFormed) (hold : old.WellFormed)
    (h : o.metadata = { old.metadata with resourceVersion := o.metadata.resourceVersion }) {k : String}
    (hk : k ≠ "resourceVersion") :
    (o.toJson.get? "metadata").bind (Json.get? · k) = (old.toJson.get? "metadata").bind (Json.get? · k) := by
  rw [get?_toJson, get?_toJson, ho.get?_metadata, hold.get?_metadata, Option.bind_some, Option.bind_some,
    Metadata.get?_toJson ho.metadata, Metadata.get?_toJson hold.metadata, h]
  unfold Metadata.ownMember?
  simp only [if_neg hk]

/-- A status that takes the place of the old one changes nothing else. -/
theorem sameBut_withStatus (h : old.WellFormed) (status : Option Json) (version : String) :
    old.SameBut ["status"] ((old.withStatus status).inPlaceOf old version) := by
  have hnew := (h.withStatus status).inPlaceOf old version
  have htypes : ((old.withStatus status).inPlaceOf old version).types = old.types := by
    show old.types.or (old.withStatus status).types = old.types
    rw [types_withStatus, Option.or_self]
  have hmeta : ((old.withStatus status).inPlaceOf old version).metadata =
      { old.metadata with resourceVersion := some version } := by
    cases status <;> rfl
  refine ⟨fun k hm hk => ?_, fun k hk => metadata_of_version hnew h (by rw [hmeta]) hk⟩
  have hdata : ((old.withStatus status).inPlaceOf old version).data.get? k = old.data.get? k :=
    data_withStatus_of_ne old status (by simpa using hk)
  rw [get?_toJson, get?_toJson, get?_members hnew.ascending, get?_members h.ascending, hdata, if_neg hm, if_neg hm,
    htypes]

/-! ## What a patch reads back -/

theorem metadata_of_patched (h : old.WellFormed) (hk : "metadata" ∉ changes.map Prod.fst)
    (hread : ofJson? (.obj (Json.mergeMembers old.members changes)) = some new) : new.metadata = old.metadata := by
  rcases (ofJson?_iff.1 hread).2 with ⟨hm, -⟩ | ⟨m, hm, hread⟩
  all_goals rw [Json.get?_mergeMembers_of_not_mem hk, h.get?_metadata] at hm
  · cases hm
  · cases hm
    rw [Metadata.ofJson?_toJson h.metadata] at hread
    exact (Option.some.inj hread).symm

/-- Names that are both there, or neither, are taken off the data for the names of the type. -/
theorem names_of_patched (h : old.Typed) (hchanges : ∀ k, k = "apiVersion" ∨ k = "kind" → k ∉ changes.map Prod.fst)
    (hread : ofJson? (.obj (Json.mergeMembers old.members changes)) = some new) {k : String}
    (hk : k = "apiVersion" ∨ k = "kind") :
    new.data.get? k = none ∧ (Assoc.ofBindings (typeMembers new.types)).get? k = old.toJson.get? k := by
  obtain ⟨htypes, hdataa, hdatak⟩ := names_of_ofJson? (old.ascending_patched changes) hread
  rw [Json.get?_mergeMembers_of_not_mem (hchanges _ (.inl rfl)), Json.get?_mergeMembers_of_not_mem
    (hchanges _ (.inr rfl)), ← get?_toJson, ← get?_toJson] at htypes hdatak
  rcases h with ⟨a, n, hta, htk⟩ | ⟨hta, htk⟩
  all_goals
    rw [hta, htk] at htypes hdatak
    rcases hk with rfl | rfl
  · exact ⟨hdataa, by rw [htypes, get?_typeMembers_apiVersion, hta]; rfl⟩
  · exact ⟨hdatak, by rw [htypes, get?_typeMembers_kind, htk]; rfl⟩
  · exact ⟨hdataa, by rw [htypes, get?_typeMembers_apiVersion, hta]; rfl⟩
  · exact ⟨hdatak, by rw [htypes, get?_typeMembers_kind, htk]; rfl⟩

/-- What a patch of the status leaves: all other members but the names of the type. -/
theorem sameBut_patched (h : old.WellFormed) (hk : ∀ k ∈ changes.map Prod.fst, k = "status")
    (hread : ofJson? (.obj (Json.mergeMembers old.members changes)) = some new) (version : String) :
    old.SameBut ["status", "apiVersion", "kind"] (new.inPlaceOf old version) := by
  have hother : ∀ {k}, k ≠ "status" → k ∉ changes.map Prod.fst := fun hne hmem => hne (hk _ hmem)
  have hnew := (wellFormed_of_patched hread).inPlaceOf old version
  have hversion : (new.inPlaceOf old version).metadata = { old.metadata with resourceVersion := some version } := by
    unfold inPlaceOf
    rw [metadata_of_patched h (hother (by decide)) hread]
  refine ⟨fun k hm hne => ?_, fun k => metadata_of_version hnew h (by rw [hversion])⟩
  simp only [List.mem_cons, List.not_mem_nil, or_false, not_or] at hne
  obtain ⟨hs, ha, hk⟩ := hne
  rw [get?_toJson, get?_members_of_ne hnew.ascending hm ha hk]
  show new.data.get? k = _
  rw [get?_data_of_ofJson? hread hm ha hk, Json.get?_mergeMembers_of_not_mem (hother hs), get?_toJson]

/-- After a patch of the status, the names that are shown are those that the object kept apart, or if there were
none, those that were taken off the data; so they stay exactly if the former were shown before. -/
theorem sameBut_patched_iff (h : old.WellFormed) (htyped : old.Typed) (hk : ∀ k ∈ changes.map Prod.fst, k = "status")
    (hread : ofJson? (.obj (Json.mergeMembers old.members changes)) = some new) (version : String) :
    old.SameBut ["status"] (new.inPlaceOf old version) ↔ old.NamesShown := by
  have hnew := (wellFormed_of_patched hread).inPlaceOf old version
  have hnames : ∀ {k}, k = "apiVersion" ∨ k = "kind" → new.data.get? k = none ∧
      (Assoc.ofBindings (typeMembers new.types)).get? k = old.toJson.get? k := by
    refine names_of_patched htyped (fun k hname hmem => ?_) hread
    rw [hk k hmem] at hname
    revert hname
    decide
  have hget : ∀ {k}, k = "apiVersion" ∨ k = "kind" → (new.inPlaceOf old version).toJson.get? k =
      (Assoc.ofBindings (typeMembers (old.types.or new.types))).get? k := by
    intro k hname
    have hm : k ≠ "metadata" := by rcases hname with rfl | rfl <;> decide
    rw [get?_toJson, get?_members hnew.ascending, if_neg hm]
    show (new.data.get? k).or _ = _
    rw [(hnames hname).1]
    rfl
  constructor
  · intro hsame n hn
    rw [← hsame.members "apiVersion" (by decide) (by decide), ← hsame.members "kind" (by decide) (by decide),
      hget (.inl rfl), hget (.inr rfl), hn, Option.some_or, get?_typeMembers_apiVersion, get?_typeMembers_kind]
    exact ⟨rfl, rfl⟩
  · intro hshown
    have hsame := sameBut_patched h hk hread version
    refine ⟨fun k hm hne => ?_, hsame.metadata⟩
    by_cases hname : k = "apiVersion" ∨ k = "kind"
    · rw [hget hname]
      cases hn : old.types with
      | none => exact (hnames hname).2
      | some n =>
        obtain ⟨ha, hk⟩ := hshown n hn
        rw [Option.some_or]
        rcases hname with rfl | rfl
        · rw [get?_typeMembers_apiVersion, ha]
          rfl
        · rw [get?_typeMembers_kind, hk]
          rfl
    · exact hsame.members k hm (by simp_all)

end Object

/-- In a cluster whose objects were given as documents, for each stored object: if it is replaced or patched, its
status, or that it has none, stays whatever is sent. If its status is replaced, nothing else of its document changes
but the version. If its status is patched, nothing else changes either but the names of the type, and if these are
both texts or both absent, they stay as well exactly if the data do not hide the names that the object keeps apart. -/
theorem status_isolated {s : Store} (h : s.Documented) {t : Target} {name : String} {old : Object}
    (hold : s.objects.get? (t.place name) = some old) :
    (∀ body o, body.WellFormed → (s.replace t name body).1 = .ok o →
      (s.replace t name body).2.objects.get? (t.place name) = some o ∧
      o.toJson.get? "status" = old.toJson.get? "status") ∧
    (∀ p o, (s.patch t name p).1 = .ok o →
      (s.patch t name p).2.objects.get? (t.place name) = some o ∧
      o.toJson.get? "status" = old.toJson.get? "status") ∧
    (∀ body o, (s.replaceSubresource t "status" name body).1 = .ok o →
      (s.replaceSubresource t "status" name body).2.objects.get? (t.place name) = some o ∧
      old.SameBut ["status"] o) ∧
    ∀ p o, (s.patchSubresource t "status" name p).1 = .ok o →
      (s.patchSubresource t "status" name p).2.objects.get? (t.place name) = some o ∧
      old.SameBut ["status", "apiVersion", "kind"] o ∧ (old.Typed → (old.SameBut ["status"] o ↔ old.NamesShown)) := by
  have hwf : old.WellFormed := h.wellFormed _ (Assoc.mem_of_get? hold)
  refine ⟨fun body o hbody ho => ?_, fun p o ho => ?_, fun body o ho => ?_, fun p o ho => ?_⟩
  · obtain ⟨hstored, old', version, hold', heq⟩ := Store.replace_eq_ok ho
    cases hold.symm.trans hold'
    refine ⟨hstored, ?_⟩
    rw [heq, Object.get?_toJson_status ((hbody.withStatus _).inPlaceOf old version).ascending,
      Object.get?_toJson_status hwf.ascending]
    exact Object.status_withStatus body old.status
  · obtain ⟨hstored, old', new, version, changes, hold', hk, hread, heq⟩ := Store.patch_eq_ok ho
    cases hold.symm.trans hold'
    refine ⟨hstored, ?_⟩
    rw [heq, Object.get?_toJson_status ((Object.wellFormed_of_patched hread).inPlaceOf old version).ascending]
    show new.data.get? "status" = _
    rw [Object.get?_data_of_ofJson? hread (by decide) (by decide) (by decide), Json.get?_mergeMembers_of_not_mem hk,
      Object.get?_toJson]
  · obtain ⟨hstored, old', version, hold', heq⟩ := Store.replaceSubresource_eq_ok ho
    cases hold.symm.trans hold'
    exact ⟨hstored, heq ▸ Object.sameBut_withStatus hwf body.status version⟩
  · obtain ⟨hstored, old', new, version, changes, hold', hk, hread, heq⟩ := Store.patchSubresource_eq_ok ho
    cases hold.symm.trans hold'
    rw [heq]
    exact ⟨heq ▸ hstored, Object.sameBut_patched hwf hk hread version,
      fun htyped => Object.sameBut_patched_iff hwf htyped hk hread version⟩

namespace Store

/-- A patch of the status of a stage. -/
def statusPatch : Patch :=
  ⟨.merge, .obj [("status", .obj [("phase", .str "Done")])]⟩

theorem documented_oneStage : oneStage.Documented := by
  refine .call (.start 2) ⟨"u1", ""⟩ (.seed stages testStage) fun o ho => ?_
  cases ho
  exact ⟨⟨by rfl, fun _ _ => rfl⟩, List.pairwise_singleton .., rfl⟩

/-- A stage without a status is sent in the place of the stage, which keeps its own; a patch of the status leaves
the rest of the stage alone. -/
theorem stage_status_isolated :
    ∃ old, oneStage.objects.get? (Target.place ⟨stages, "demo"⟩ "test") = some old ∧
      (∃ o, (oneStage.replace ⟨stages, "demo"⟩ "test" {}).1 = .ok o ∧
        o.toJson.get? "status" = some (.obj [("phase", .str "Steady")])) ∧
      ∃ o, (oneStage.patchSubresource ⟨stages, "demo"⟩ "status" "test" statusPatch).1 = .ok o ∧
        o.toJson.get? "status" = some (.obj [("phase", .str "Done")]) ∧ old.SameBut ["status"] o := by
  have hold : oneStage.objects.get? (Target.place ⟨stages, "demo"⟩ "test") = some _ := rfl
  have hempty : ({} : Object).WellFormed := ⟨Metadata.wellFormed_empty, List.Pairwise.nil, rfl⟩
  have hnames : Object.NamesShown { testStage with
      metadata := { testStage.metadata with uid := some "u1", resourceVersion := some "1" } } := by
    rintro n ⟨⟩
    exact ⟨rfl, rfl⟩
  obtain ⟨replaced, -, -, patched⟩ := status_isolated documented_oneStage hold
  refine ⟨_, hold, ⟨_, rfl, (replaced {} _ hempty rfl).2⟩, _, rfl, rfl, ?_⟩
  exact ((patched statusPatch _ rfl).2.2 (.inl ⟨_, _, rfl, rfl⟩)).2 hnames

/-- A stage that was patched with another kind, and with a version that is no text. -/
def hiddenKind : Store :=
  (oneStage.answer ⟨"u2", ""⟩ (.operation ⟨stages, "demo"⟩ (.patch "test"
    ⟨.merge, .obj [("apiVersion", .int 5), ("kind", .str "Other")]⟩))).2

/-- The data of that stage hide its kind, and a patch of its status brings it back. -/
theorem status_patch_changes_kind :
    hiddenKind.Documented ∧
      ∃ old o, hiddenKind.objects.get? (Target.place ⟨stages, "demo"⟩ "test") = some old ∧ old.Typed ∧
        (hiddenKind.patchSubresource ⟨stages, "demo"⟩ "status" "test" statusPatch).1 = .ok o ∧
        old.toJson.get? "kind" = some (.str "Other") ∧ o.toJson.get? "kind" = some (.str "Stage") :=
  ⟨.call documented_oneStage _ _ fun _ ho => (nomatch ho), _, _, rfl, .inl ⟨_, _, rfl, rfl⟩, rfl, rfl, rfl⟩

end Store

end AccessGate.Cluster
