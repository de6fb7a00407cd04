/-
Which objects a watch gives. A watch that starts with objects held at certain places, and that sees
changes at such places only, never gives any other object, however its reads are interleaved with
writes (`Within.take`, `Within.step`).
-/
import AccessGate.Proofs.Cluster.Reachable

namespace AccessGate.Cluster.Watch

variable {P : Place → Prop} {s s' : Store} {w : Watch}

/-- Whether a watch is about places of one sort only: what it still has to give at first is held at
them, and it sees changes at no others. -/
structure Within (P : Place → Prop) (s : Store) (w : Watch) : Prop where
  initial : ∀ o ∈ w.initial, ∃ p, P p ∧ s.Held p o
  seen : ∀ p, w.target.covers p = true → P p

/-- Whether an object that an item carries, if any, is held at a place of that sort. -/
def ItemWithin (P : Place → Prop) (s : Store) (i : WatchItem Object) : Prop :=
  ∀ c o, i = .change c o → ∃ p, P p ∧ s.Held p o

/-- A watch sees of a cluster only what was published. -/
theorem next_of_events (h : s'.events = s.events) (w : Watch) : w.next s' = w.next s := by
  unfold next
  rw [h]

theorem take_of_events (h : s'.events = s.events) : ∀ (n : Nat) (w : Watch), w.take s' n = w.take s n
  | 0, _ => rfl
  | n + 1, w => by
    unfold take
    simp only [next_of_events h, take_of_events h n]

theorem firstSeen_eq_some {e : Event} {n : Nat} : ∀ {es : List Event}, w.firstSeen es = some (e, n) →
    ∃ passed rest, es = passed ++ e :: rest ∧ passed.length + 1 = n ∧ (∀ e' ∈ passed, w.sees e' = false) ∧
      w.sees e = true
  | [], h => by cases h
  | e' :: es, h => by
    unfold firstSeen at h
    split at h
    · rename_i hs
      cases h
      exact ⟨[], es, rfl, rfl, List.forall_mem_nil _, hs⟩
    · rename_i hs
      obtain ⟨⟨e₁, n₁⟩, h₁, he⟩ := Option.map_eq_some_iff.1 h
      cases he
      obtain ⟨passed, rest, rfl, rfl, unseen, seen⟩ := firstSeen_eq_some h₁
      exact ⟨e' :: passed, rest, rfl, rfl, List.forall_mem_cons.2 ⟨Bool.eq_false_iff.2 hs, unseen⟩, seen⟩

theorem firstSeen_eq_none : ∀ {es : List Event}, w.firstSeen es = none → ∀ e ∈ es, w.sees e = false
  | [], _ => List.forall_mem_nil _
  | e' :: es, h => by
    unfold firstSeen at h
    split at h
    · cases h
    · rename_i hs
      exact List.forall_mem_cons.2 ⟨Bool.eq_false_iff.2 hs, firstSeen_eq_none (Option.map_eq_none_iff.1 h)⟩

theorem sees_covers {e : Event} (h : w.sees e = true) : w.target.covers e.place = true :=
  (Bool.and_eq_true_iff.1 h).1

/-- One read stays with the places. -/
theorem Within.next (h : w.Within P s) :
    (∀ i, (w.next s).1 = some i → ItemWithin P s i) ∧ (w.next s).2.Within P s := by
  have hinit := h.initial
  unfold Watch.next
  split
  · -- an object that was there when the watch was opened
    rename_i o rest hw
    rw [hw] at hinit
    rw [List.forall_mem_cons] at hinit
    refine ⟨?_, hinit.2, h.seen⟩
    rintro _ ⟨⟩ _ _ ⟨⟩
    exact hinit.1
  · simp only
    split
    · exact ⟨by rintro _ ⟨⟩ _ _ ⟨⟩, hinit, h.seen⟩
    · split
      · -- a change that the watch sees
        rename_i e n he
        obtain ⟨passed, rest, hdrop, -, -, hs⟩ := firstSeen_eq_some he
        have hm : e ∈ s.events.drop w.position := hdrop ▸ List.mem_append_right _ (List.mem_cons_self ..)
        refine ⟨?_, hinit, h.seen⟩
        rintro _ ⟨⟩ _ _ ⟨⟩
        exact ⟨e.place, h.seen _ (sees_covers hs), e.change, List.mem_of_mem_drop hm⟩
      · exact ⟨by rintro _ ⟨⟩, hinit, h.seen⟩

/-- A row of reads stays with the places. -/
theorem Within.take : ∀ (n : Nat) {w : Watch}, w.Within P s →
    (∀ i ∈ (w.take s n).1, ItemWithin P s i) ∧ (w.take s n).2.Within P s
  | 0, _, h => ⟨fun i hi => (nomatch hi), h⟩
  | n + 1, w, h => by
    obtain ⟨hi, hw⟩ := h.next
    unfold Watch.take
    split
    · rename_i w' heq
      rw [heq] at hw
      exact ⟨fun i hi => (nomatch hi), hw⟩
    · rename_i i w' heq
      rw [heq] at hi hw
      obtain ⟨his, hws⟩ := Within.take n hw
      exact ⟨List.forall_mem_cons.2 ⟨hi i rfl, his⟩, hws⟩

/-- A watch that an operation opens is about the places that the operation reaches. -/
theorem within_of_effect {t : Target} {name : String} {r : Except Error Product × Store} (h : s.Sound)
    (he : Store.Effect t name s r) (hw : r.1 = .ok (.stream w)) : w.Within (t.Reaches name) r.2 := by
  refine ⟨he.objects_held h hw, fun p hp => ?_⟩
  cases he with
  | read a _ opened =>
    cases hw
    obtain ⟨hname, rfl, _⟩ := opened w rfl
    exact ⟨hp, .inl hname⟩
  | _ => cases hw

/-- Writes, wherever they are, do not take a watch away from its places. -/
theorem Within.step (h : w.Within P s) (hs : s.Step s') : w.Within P s' :=
  ⟨fun o ho => (h.initial o ho).imp fun _ hp => ⟨hp.1, hs.held hp.2⟩, h.seen⟩

end AccessGate.Cluster.Watch
