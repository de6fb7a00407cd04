/-
Laying a document over another. A member that the layer has takes what it has there, over what was there
before; all other members stay (`get?_overlayMembers`).
-/
import AccessGate.Proofs.Json.Ordered
import AccessGate.Settings.Layer
import Mathlib.Data.List.Nodup

namespace AccessGate

namespace Assoc

variable {κ α : Type}

/-- Of bindings of distinct keys each is found. -/
theorem get?_ofBindings_of_mem [DecidableEq κ] [Ord κ] [Std.LawfulEqOrd κ] {k : κ} {v : α} {bs : List (κ × α)}
    (hn : (bs.map Prod.fst).Nodup) (h : (k, v) ∈ bs) : (ofBindings bs).get? k = some v := by
  rw [get?_ofBindings]
  apply get?_of_mem
  · rw [keys, List.map_reverse]
    exact List.nodup_reverse.2 hn
  · exact List.mem_reverse.2 h

end Assoc

namespace Json

/-- The document that a member has, over the one before if there is one. -/
def overlayMember (old : Option Json) (v : Json) : Json :=
  match old with
  | some old => old.overlay v
  | none => v

theorem overlayMembers_cons (base : Assoc String Json) (m : String × Json) (layer : List (String × Json)) :
    overlayMembers base (m :: layer) = overlayMembers (base.insert m.1 (overlayMember (base.get? m.1) m.2)) layer := by
  obtain ⟨k, v⟩ := m
  rw [overlayMembers]
  rfl

theorem ascending_overlayMembers {layer : List (String × Json)} :
    ∀ {base : Assoc String Json}, base.Ascending → (overlayMembers base layer).Ascending := by
  induction layer with
  | nil =>
    intro base h
    rw [overlayMembers]
    exact h
  | cons m layer ih =>
    intro base h
    rw [overlayMembers_cons]
    exact ih (h.insert _ _)

theorem mem_keys_overlayMembers {layer : List (String × Json)} {k : String} : ∀ {base : Assoc String Json},
    k ∈ (overlayMembers base layer).keys ↔ k ∈ base.keys ∨ k ∈ Assoc.keys layer := by
  induction layer with
  | nil =>
    intro base
    rw [overlayMembers]
    simp [Assoc.keys]
  | cons m layer ih =>
    intro base
    rw [overlayMembers_cons, ih, Assoc.mem_keys_insert]
    simp only [Assoc.keys, List.map_cons, List.mem_cons]
    rw [or_assoc, or_left_comm]

/-- By induction on the layer, none of whose keys comes again. -/
theorem get?_overlayMembers {k : String} : ∀ {layer : Assoc String Json} {base : Assoc String Json}, layer.Ascending →
    (overlayMembers base layer).get? k =
      match layer.get? k with
      | some v => some (overlayMember (base.get? k) v)
      | none => base.get? k
  | [], base, _ => by
    rw [overlayMembers]
    rfl
  | m :: layer, base, h => by
    have hlayer : Assoc.Ascending layer := (List.pairwise_cons.1 h).2
    rw [overlayMembers_cons, get?_overlayMembers hlayer, Assoc.get?_cons]
    by_cases hk : k = m.1
    · subst hk
      rw [h.get?_tail, if_pos rfl, Assoc.get?_insert_self]
    · rw [if_neg hk, Assoc.get?_insert_of_ne hk]

/-- What is no object leaves nothing of the document below. -/
theorem overlay_eq_self {base j : Json} (h : j.isObject = false) : base.overlay j = j := by
  cases j <;> first | rfl | cases h

/-- Over a document that has no members, a layer stays as it is. -/
theorem overlay_of_not_isObject {base j : Json} (hb : base.isObject = false) (hj : j.Ordered) : base.overlay j = j := by
  cases hj with
  | @obj layer hasc _ =>
    have hnone : base.asFields?.getD [] = [] := by
      cases base <;> first | rfl | cases hb
    have hsame : overlayMembers [] layer = layer := by
      apply (ascending_overlayMembers List.Pairwise.nil).ext_get? hasc
      intro k
      rw [get?_overlayMembers hasc]
      cases Assoc.get? layer k <;> rfl
    rw [overlay, hnone, hsame]
  | _ => exact overlay_eq_self rfl

end Json

end AccessGate
