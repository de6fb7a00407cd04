/-
The order of members. In a document that was read from a text the members of every object stand in
ascending order, and no key comes twice, whatever the text gives (`ordered_of_parse?`). The text itself is a
draft whose scalars are no lists and no objects (`plain_draft`).
-/
import AccessGate.Json.Parser
import AccessGate.Proofs.Assoc
import AccessGate.Proofs.Outcome

namespace AccessGate

namespace Json

/-- Whether the members of every object in a document ascend. -/
inductive Ordered : Json → Prop
  | null : Ordered null
  | bool (b : Bool) : Ordered (bool b)
  | int (i : Int) : Ordered (int i)
  | float (x : Binary64) : Ordered (float x)
  | str (s : String) : Ordered (str s)
  | arr {items : List Json} : (∀ j ∈ items, Ordered j) → Ordered (arr items)
  | obj {fields : Assoc String Json} : fields.Ascending → (∀ f ∈ fields, Ordered f.2) → Ordered (obj fields)

/-- Whether a document has no parts. -/
inductive Scalar : Json → Prop
  | null : Scalar null
  | bool (b : Bool) : Scalar (bool b)
  | int (i : Int) : Scalar (int i)
  | float (x : Binary64) : Scalar (float x)
  | str (s : String) : Scalar (str s)

theorem Scalar.ordered {j : Json} (h : j.Scalar) : j.Ordered := by
  cases h
  · exact .null
  · exact .bool _
  · exact .int _
  · exact .float _
  · exact .str _

theorem ordered_object {members : List (String × Json)} (h : ∀ m ∈ members, m.2.Ordered) :
    (object members).Ordered :=
  .obj (Assoc.ascending_ofBindings members) fun m hm => h m (Assoc.mem_ofBindings hm)

theorem Ordered.get? {j : Json} (h : j.Ordered) {k : String} {v : Json} (hv : j.get? k = some v) : v.Ordered := by
  cases h with
  | obj _ hvalues => exact hvalues _ (Assoc.mem_of_get? hv)
  | _ => cases hv

/-! ## Scalars -/

/-- Whether the value of a piece, if it has one, is a scalar. -/
def Piece.Scalar (p : Piece Json) : Prop :=
  ∀ j, p.value = .ok j → j.Scalar

namespace Piece

theorem scalar_fault (f : Fault) : (fault f : Piece Json).Scalar := by
  intro j h
  cases h

theorem scalar_undigited (s : List Char) : (undigited s : Piece Json).Scalar := by
  intro j h
  cases s <;> cases h

end Piece

theorem scalar_floatOfParts {negative : Bool} {digits : Nat} {exponent : Int} {j : Json}
    (h : floatOfParts negative digits exponent = .ok j) : j.Scalar := by
  unfold floatOfParts at h
  split at h
  · cases h
    exact .float _
  · cases h

theorem scalar_exponentPart (negative : Bool) (m : Mantissa) (s : List Char) :
    (exponentPart negative m s).Scalar := by
  unfold exponentPart
  split
  extract_lets _ _ _ value
  split
  · exact Piece.scalar_undigited _
  · intro j h
    simp only [value] at h
    split at h
    · split at h
      · cases h
      · cases h
        exact .float _
    · exact scalar_floatOfParts h

theorem scalar_fractionPart (negative : Bool) (m : Mantissa) (s : List Char) :
    (fractionPart negative m s).Scalar := by
  unfold fractionPart
  split
  split
  · exact Piece.scalar_undigited _
  · split
    · exact scalar_exponentPart _ _ _
    · exact scalar_exponentPart _ _ _
    · exact fun j h => scalar_floatOfParts h

theorem scalar_wholeNumber {negative : Bool} {m : Mantissa} {j : Json} (h : wholeNumber negative m = .ok j) :
    j.Scalar := by
  unfold wholeNumber at h
  split at h
  · exact scalar_floatOfParts h
  · split at h
    · cases h
      exact .int _
    · split at h
      · cases h
        exact .float _
      · cases h
        exact .int _

theorem scalar_number (negative : Bool) (s : List Char) : (number negative s).Scalar := by
  unfold number
  split
  extract_lets
  split
  · exact Piece.scalar_undigited _
  · split
    · exact Piece.scalar_fault _
    · split
      · exact scalar_fractionPart _ _ _
      · exact scalar_exponentPart _ _ _
      · exact scalar_exponentPart _ _ _
      · exact fun j h => scalar_wholeNumber h

theorem scalar_stringPiece (s : List Char) : (stringPiece s).Scalar := by
  intro j h
  unfold stringPiece at h
  cases hb : stringBody (s.length + 1) [] s with
  | error f =>
    rw [hb] at h
    cases h
  | ok cs =>
    rw [hb] at h
    cases h
    exact .str _

theorem scalar_wordPiece {w : Json} (hw : w.Scalar) :
    ∀ (word s : List Char), (wordPiece w word s).Scalar
  | [], s => by
    intro j h
    cases h
    exact hw
  | _ :: _, [] => Piece.scalar_fault _
  | c :: word, d :: s => by
    unfold wordPiece
    split
    · exact scalar_wordPiece hw word s
    · exact Piece.scalar_fault _

/-! ## Drafts -/

/-- Whether what stands as a scalar in a draft is one. -/
inductive Draft.Plain : Draft → Prop
  | scalar {value : Except Fault Json} {passed : Except Fault Unit} :
    (∀ j, value = .ok j → j.Scalar) → Plain (scalar value passed)
  | list {items : List Draft} {passed : Except Fault Unit} : (∀ d ∈ items, Plain d) → Plain (list items passed)
  | object {members : List (Draft × Draft)} {passed : Except Fault Unit} :
    (∀ m ∈ members, Plain m.2) → Plain (object members passed)

theorem Draft.plain_broken (f : Fault) : (broken f).Plain :=
  .scalar fun j h => by cases h

theorem plain_ofPiece {p : Piece Json} (h : p.Scalar) : (ofPiece p).1.Plain :=
  .scalar h

section Readers

variable {fuel : Nat}

theorem plain_draft_succ (ihitems : ∀ first s, ∀ d ∈ (items fuel first s).1, d.Plain)
    (ihmembers : ∀ first s, ∀ m ∈ (members fuel first s).1, m.2.Plain) (s : List Char) :
    (draft (fuel + 1) s).1.Plain := by
  unfold draft
  split
  · exact Draft.plain_broken _
  · exact plain_ofPiece (scalar_wordPiece .null _ _)
  · exact plain_ofPiece (scalar_wordPiece (.bool true) _ _)
  · exact plain_ofPiece (scalar_wordPiece (.bool false) _ _)
  · exact plain_ofPiece (scalar_stringPiece _)
  · exact plain_ofPiece (scalar_number _ _)
  · exact .list (ihitems true _)
  · exact .object (ihmembers true _)
  · split
    · exact plain_ofPiece (scalar_number _ _)
    · exact Draft.plain_broken _

theorem plain_items_succ (ihdraft : ∀ s, (draft fuel s).1.Plain)
    (ihitems : ∀ first s, ∀ d ∈ (items fuel first s).1, d.Plain) (first : Bool) (s : List Char) :
    ∀ d ∈ (items (fuel + 1) first s).1, d.Plain := by
  unfold items
  extract_lets item
  have hitem : ∀ s, ∀ d ∈ (item s).1, d.Plain := by
    intro s d hd
    have hdraft := ihdraft s
    simp only [item] at hd
    split at hd
    · rename_i hs
      rw [hs] at hdraft
      obtain rfl := List.mem_singleton.1 hd
      exact hdraft
    · rename_i hs
      rw [hs] at hdraft
      rcases List.mem_cons.1 hd with rfl | hd
      · exact hdraft
      · exact ihitems false _ d hd
  have hbroken (f : Fault) : ∀ d ∈ [Draft.broken f], d.Plain := by
    intro d hd
    obtain rfl := List.mem_singleton.1 hd
    exact Draft.plain_broken f
  split
  · exact hbroken _
  · exact fun d hd => by cases hd
  · split
    · exact hbroken _
    · exact hitem _
  · split
    · exact hitem _
    · exact hbroken _

theorem plain_members_succ (ihdraft : ∀ s, (draft fuel s).1.Plain)
    (ihmembers : ∀ first s, ∀ m ∈ (members fuel first s).1, m.2.Plain) (first : Bool) (s : List Char) :
    ∀ m ∈ (members (fuel + 1) first s).1, m.2.Plain := by
  unfold members
  extract_lets wrong member
  have hone (k : Draft) {d : Draft} (hd : d.Plain) : ∀ m ∈ [(k, d)], m.2.Plain := by
    intro m hm
    obtain rfl := List.mem_singleton.1 hm
    exact hd
  have hwrong (f : Fault) : ∀ m ∈ (wrong f).1, m.2.Plain := hone _ (Draft.plain_broken f)
  have hmember : ∀ s, ∀ m ∈ (member s).1, m.2.Plain := by
    intro s
    simp only [member]
    split
    · exact hwrong _
    · split
      · exact hone _ (Draft.plain_broken _)
      · split
        · exact hone _ (Draft.plain_broken _)
        · rename_i rest _
          have hdraft := ihdraft rest
          split
          · rename_i hs
            rw [hs] at hdraft
            exact hone _ hdraft
          · rename_i hs
            rw [hs] at hdraft
            intro m hm
            rcases List.mem_cons.1 hm with rfl | hm
            · exact hdraft
            · exact ihmembers false _ m hm
        · exact hone _ (Draft.plain_broken _)
    · exact hwrong _
  split
  · exact hwrong _
  · exact fun m hm => by cases hm
  · split
    · exact hwrong _
    · exact hmember _
  · split
    · exact hmember _
    · exact hwrong _

end Readers

/-- By induction on the fuel, for the three readers at once. -/
theorem plain_draft : ∀ (fuel : Nat), (∀ s, (draft fuel s).1.Plain) ∧
    (∀ first s, ∀ d ∈ (items fuel first s).1, d.Plain) ∧
    ∀ first s, ∀ m ∈ (members fuel first s).1, m.2.Plain
  | 0 => by
    refine ⟨fun s => Draft.plain_broken _, fun first s d hd => ?_, fun first s m hm => ?_⟩
    · obtain rfl := List.mem_singleton.1 hd
      exact Draft.plain_broken _
    · obtain rfl := List.mem_singleton.1 hm
      exact Draft.plain_broken _
  | fuel + 1 => by
    obtain ⟨ihdraft, ihitems, ihmembers⟩ := plain_draft fuel
    exact ⟨plain_draft_succ ihitems ihmembers, plain_items_succ ihdraft ihitems, plain_members_succ ihdraft ihmembers⟩

/-! ## Values -/

/-- The value of a draft is ordered: its objects are maps. -/
theorem Draft.ordered_value : ∀ (depth : Nat) {d : Draft} {j : Json}, d.Plain → d.value depth = .ok j → j.Ordered
  | _, .scalar .., j, .scalar hv, h => by
    rw [value] at h
    exact (hv j h).ordered
  | 0, .list .., _, _, h => by
    rw [value] at h
    · cases h
    · simp
  | 0, .object .., _, _, h => by
    rw [value] at h
    · cases h
    · simp
  | depth + 1, .list items _, j, .list hitems, h => by
    rw [value] at h
    obtain ⟨js, hjs, rfl⟩ := map_eq_ok.1 h
    apply Json.Ordered.arr
    intro j hj
    obtain ⟨d, hd, hvalue⟩ := (mem_mapM_iff hjs).1 hj
    exact ordered_value depth (hitems d hd) hvalue
  | depth + 1, .object members _, j, .object hmembers, h => by
    rw [value] at h
    obtain ⟨fields, hfields, rfl⟩ := map_eq_ok.1 h
    apply ordered_object
    intro f hf
    obtain ⟨m, hm, hvalue⟩ := (mem_mapM_iff hfields).1 hf
    rw [memberValue] at hvalue
    obtain ⟨k, -, hvalue⟩ := bind_eq_ok.1 hvalue
    obtain ⟨v, hv, hvalue⟩ := bind_eq_ok.1 hvalue
    cases hvalue
    exact ordered_value depth (hmembers m hm) hv

/-- What is read from the draft that a text is. -/
theorem readText_eq_ok {α : Type} {read : Draft → Except Fault α} {s : String} {a : α}
    (h : readText read s = .ok a) : read (draft (2 * s.toList.length + 2) s.toList).1 = .ok a := by
  unfold readText at h
  obtain ⟨a', ha', h⟩ := bind_eq_ok.1 h
  obtain ⟨rest, -, h⟩ := bind_eq_ok.1 h
  split at h
  · cases h
    exact ha'
  · cases h

/-- A document that was read from a text is ordered. -/
theorem ordered_of_parse? {s : String} {j : Json} (h : parse? s = some j) : j.Ordered := by
  unfold parse? at h
  cases hread : readText (Draft.value maxDepth) s with
  | error f =>
    rw [hread] at h
    cases h
  | ok j' =>
    rw [hread] at h
    cases h
    exact Draft.ordered_value maxDepth ((plain_draft _).1 _) (readText_eq_ok hread)

end Json

end AccessGate
