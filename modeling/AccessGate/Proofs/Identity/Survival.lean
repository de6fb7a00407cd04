/-
Callers that are written and read again. A set of accounts is written in some order, so what is written of a caller is
the document of any caller with the same sets (`Reordered`); reading it takes each set as it stands, since no account
is in it twice. Main statement: what is read of a written caller is the caller without the token, a caller that was
read is written and read without any change, and decisions are the same up to the order of accounts
(`survives_document`).
-/
import Mathlib.Data.List.Forall2
import AccessGate.Proofs.Decision.Order
import AccessGate.Proofs.Identity.Document

namespace AccessGate

namespace Identity

/-! ## Sets in another order -/

/-- Whether under the same keys the same sets are filed, each walked in any order. -/
def FiledAlike (m m' : Assoc String (List ServiceAccount)) : Prop :=
  List.Forall₂ (fun b b' => b'.1 = b.1 ∧ b'.2.Perm b.2) m m'

namespace FiledAlike

variable {m m' m'' : Assoc String (List ServiceAccount)}

theorem refl (m : Assoc String (List ServiceAccount)) : FiledAlike m m :=
  List.forall₂_same.2 fun b _ => ⟨rfl, .refl b.2⟩

theorem symm (h : FiledAlike m m') : FiledAlike m' m :=
  .flip (h.imp fun _ _ hb => ⟨hb.1.symm, hb.2.symm⟩)

theorem trans (h : FiledAlike m m') (h' : FiledAlike m' m'') : FiledAlike m m'' := by
  induction h generalizing m'' with
  | nil =>
    cases h'
    exact .nil
  | cons hb _ ih =>
    cases h' with
    | cons hb' hrest => exact .cons ⟨hb'.1.trans hb.1, hb'.2.trans hb.2⟩ (ih hrest)

theorem nodup (h : FiledAlike m m') (hm : ∀ b ∈ m, b.2.Nodup) : ∀ b ∈ m', b.2.Nodup := by
  induction h with
  | nil => exact hm
  | cons hb _ ih =>
    obtain ⟨hset, hm⟩ := List.forall_mem_cons.1 hm
    exact List.forall_mem_cons.2 ⟨hb.2.nodup_iff.2 hset, ih hm⟩

/-- Under each key the same accounts are found; under one that is in neither, none. -/
theorem get?_perm (h : FiledAlike m m') (ns : String) : ((m'.get? ns).getD []).Perm ((m.get? ns).getD []) := by
  induction h with
  | nil => exact .nil
  | cons hb _ ih =>
    rw [Assoc.get?_cons, Assoc.get?_cons, hb.1]
    split
    · exact hb.2
    · exact ih

end FiledAlike

/-- Whether two callers are the same but for the order in which sets are walked. -/
structure Reordered (i i' : Identity) : Prop where
  isAdmin : i'.isAdmin = i.isAdmin
  claims : i'.claims = i.claims
  token : i'.token = i.token
  accounts : FiledAlike i.accounts i'.accounts

namespace Reordered

variable {i i' i'' : Identity}

theorem refl (i : Identity) : i.Reordered i :=
  ⟨rfl, rfl, rfl, .refl i.accounts⟩

theorem symm (h : i.Reordered i') : i'.Reordered i :=
  ⟨h.isAdmin.symm, h.claims.symm, h.token.symm, h.accounts.symm⟩

theorem trans (h : i.Reordered i') (h' : i'.Reordered i'') : i.Reordered i'' :=
  ⟨h'.isAdmin.trans h.isAdmin, h'.claims.trans h.claims, h'.token.trans h.token, h.accounts.trans h'.accounts⟩

theorem withToken (h : i.Reordered i') (token : String) : (i.withToken token).Reordered (i'.withToken token) :=
  ⟨h.isAdmin, h.claims, rfl, h.accounts⟩

theorem holdsSets (h : i.Reordered i') (hi : i.HoldsSets) : i'.HoldsSets :=
  h.accounts.nodup hi

theorem sameSets (h : i.Reordered i') : i.SameSets i' :=
  ⟨h.isAdmin, h.claims, h.token, h.accounts.get?_perm⟩

end Reordered

/-! ## Writing and reading -/

/-- Accounts of which none is there twice are taken as they stand. -/
theorem foldl_addAccount_of_nodup : ∀ {as set : List ServiceAccount}, (set ++ as).Nodup →
    as.foldl addAccount set = set ++ as
  | [], set, _ => (List.append_nil set).symm
  | a :: as, set, h => by
    -- the account is not in the set yet, so it goes to the end
    have hnew : a ∉ set := fun ha => (List.nodup_append.1 h).2.2 a ha a (List.mem_cons_self ..) rfl
    have hadd : addAccount set a = set ++ [a] := by simp [addAccount, hnew]
    rw [List.append_cons] at h ⊢
    rw [List.foldl_cons, hadd, foldl_addAccount_of_nodup h]

theorem HoldsSets.reread {i : Identity} (h : i.HoldsSets) : i.reread = i.withToken "" := by
  have haccounts : i.accounts.mapValues (·.foldl addAccount []) = i.accounts := by
    refine (List.map_congr_left fun b hb => ?_).trans (List.map_id _)
    exact Prod.ext rfl (foldl_addAccount_of_nodup (h b hb))
  unfold Identity.reread
  rw [haccounts]
  rfl

/-- What is written of a caller is read as the caller without the token. -/
theorem HoldsSets.ofJson?_toJson {i : Identity} (h : i.HoldsSets) : ofJson? i.toJson = some (i.withToken "") := by
  rw [Identity.ofJson?_toJson, h.reread]

theorem token_of_ofJson? {j : Json} {i : Identity} (h : ofJson? j = some i) : i.token = "" := by
  unfold ofJson? at h
  simp only [Option.bind_eq_bind, Option.bind_eq_some_iff] at h
  obtain ⟨fields, -, isAdmin, -, claims, -, accounts, -, ⟨⟩⟩ := h
  rfl

end Identity

/-! ## Decisions -/

/-- Whether decisions for two callers coincide up to the order of accounts. -/
structure DecidedUpToOrder (i i' : Identity) : Prop where
  /-- With sets walked in any order the same decisions are possible, whatever becomes of the reviews. -/
  possible : ∀ names w o d,
    (∃ x, i.Reordered x ∧ Decision.make (globalNamespaces names) w (some x) o = d) ↔
      ∃ x, i'.Reordered x ∧ Decision.make (globalNamespaces names) w (some x) o = d
  /-- A reviewer that makes up its mind about every account decides alike. -/
  alike : ∀ (R : Reviewer) (names : List String) (o : Operation), R.Settled o.attributes → DecidedAlike R names o i i'

theorem Identity.Reordered.decidedUpToOrder {i i' : Identity} (h : i.Reordered i') : DecidedUpToOrder i i' := by
  refine ⟨fun names w o d => ⟨?_, ?_⟩, fun R names o hR => h.sameSets.decidedAlike hR names⟩
  · rintro ⟨x, hx, hd⟩
    exact ⟨x, h.symm.trans hx, hd⟩
  · rintro ⟨x, hx, hd⟩
    exact ⟨x, h.trans hx, hd⟩

namespace Identity

/-- A caller is written with its sets in some order. What is written can be read, and gives the caller back but for the
token: an administrator or not, the same claims, and under the same keys the same sets. A caller that is read from any
document has no token and holds sets, and is read unchanged from what is written of it, in whatever order. With the
token given back, decisions for the caller and for the one that is read coincide up to the order of accounts. -/
theorem survives_document :
    (∀ i : Identity, i.HoldsSets → ofJson? i.toJson = some (i.withToken "") ∧
      ∀ i', i.Reordered i' → ofJson? i'.toJson = some (i'.withToken "") ∧
        (i.withToken "").Reordered (i'.withToken "") ∧
        DecidedUpToOrder i ((i'.withToken "").withToken i.token)) ∧
    ∀ (j : Json) (i : Identity), ofJson? j = some i →
      i.token = "" ∧ i.HoldsSets ∧ ofJson? i.toJson = some i ∧
        ∀ i', i.Reordered i' → ofJson? i'.toJson = some i' ∧
          ∀ token, DecidedUpToOrder (i.withToken token) (i'.withToken token) := by
  constructor
  case left =>
    intro i hi
    have hany : ∀ i', i.Reordered i' → ofJson? i'.toJson = some (i'.withToken "") :=
      fun i' h => (h.holdsSets hi).ofJson?_toJson
    refine ⟨hany i (.refl i), fun i' h => ⟨hany i' h, h.withToken "", ?_⟩⟩
    exact (h.withToken i.token).decidedUpToOrder
  case right =>
    intro j i hj
    have hi : i.HoldsSets := holdsSets_of_ofJson? hj
    have htoken : i.token = "" := token_of_ofJson? hj
    have hany : ∀ i', i.Reordered i' → ofJson? i'.toJson = some i' := by
      intro i' h
      have htoken' : i'.token = "" := h.token.trans htoken
      rw [(h.holdsSets hi).ofJson?_toJson, ← htoken']
      rfl
    exact ⟨htoken, hi, hany i (.refl i), fun i' h => ⟨hany i' h, fun token => (h.withToken token).decidedUpToOrder⟩⟩

/-- A caller as the list of its fields, with one account in two forms and another one. -/
def listedCaller : Json :=
  .arr [.bool false, .obj [("sub", .str "alice")], .obj [("demo", .arr [.arr [.str "demo", .str "viewer"],
    .arr [.str "demo", .str "editor"], .obj [("name", .str "viewer"), ("namespace", .str "demo")]])]]

/-- Two accounts are written in another order than they were added in, and read as the same set, without the token. The
caller in a list that names one account twice has it once, and is read unchanged from its own document. -/
theorem written_sets_survive :
    let viewer : ServiceAccount := ⟨"demo", "viewer"⟩
    let editor : ServiceAccount := ⟨"demo", "editor"⟩
    let i := (callerWith [viewer, editor]).withToken "secret"
    let i' := (callerWith [editor, viewer]).withToken "secret"
    ofJson? i'.toJson = some (callerWith [editor, viewer]) ∧
    DecidedUpToOrder i ((callerWith [editor, viewer]).withToken "secret") ∧
    ofJson? listedCaller = some (callerWith [viewer, editor]) ∧
    ofJson? (callerWith [viewer, editor]).toJson = some (callerWith [viewer, editor]) := by
  intro viewer editor i i'
  have hi : i.HoldsSets := by decide
  have hset : i.accounts = [("demo", [viewer, editor])] := by decide
  have hset' : i'.accounts = [("demo", [editor, viewer])] := by decide
  have h : i.Reordered i' := by
    refine ⟨rfl, rfl, rfl, ?_⟩
    rw [hset, hset']
    exact .cons ⟨rfl, .swap viewer editor []⟩ .nil
  have hlisted : ofJson? listedCaller = some (callerWith [viewer, editor]) := by decide
  obtain ⟨hwritten, hread⟩ := survives_document
  obtain ⟨hreread, -, hdecided⟩ := (hwritten i hi).2 i' h
  obtain ⟨-, -, hagain, -⟩ := hread _ _ hlisted
  exact ⟨hreread, hdecided, hlisted, hagain⟩

end Identity

end AccessGate
