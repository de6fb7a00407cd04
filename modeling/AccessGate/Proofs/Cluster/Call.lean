/-
Calls on a cluster as data: the operations, and the objects that are put there without one. Each call has an
effect on the cluster with its entry in the log (`answer_effect`). Main statement: a call that fails leaves no
trace but that entry (`failed_call_only_logged`).
-/
import AccessGate.Proofs.Cluster.Watching

namespace AccessGate.Cluster

/-- A call on a cluster: an object that is put there, or an operation. -/
inductive Call where
  | seed (r : ApiResource) (o : Object)
  | operation (t : Target) (a : Action)

/-- What a call is aimed at; an object that is put there goes to its own namespace. -/
def Call.target : Call → Target
  | .seed r o => .of r o.metadata.ns
  | .operation t _ => t

/-- The name that a call is given; empty for a collection. -/
def Call.name : Call → String
  | .seed _ o => o.metadata.name.getD ""
  | .operation _ a => a.name

namespace Store

/-- What a call gives, and the cluster afterwards. -/
def answer (s : Store) (fresh : Fresh) : Call → Except Error Product × Store
  | .seed r o => produce .object (s.seed fresh r o)
  | .operation t a => s.perform fresh t a

/-- The cluster with a call in its log; what is put there is not logged. -/
def recorded (s : Store) : Call → Store
  | .seed .. => s
  | .operation t a => s.logged (a.entry t)

theorem sameContent_recorded (s : Store) (x : Call) : s.SameContent (s.recorded x) := by
  cases x with
  | seed r o => exact ⟨rfl, rfl, rfl⟩
  | operation t a => exact sameContent_logged s (a.entry t)

theorem answer_effect (s : Store) (fresh : Fresh) (x : Call) :
    Effect x.target x.name (s.recorded x) (s.answer fresh x) := by
  cases x with
  | seed r o => exact insertNew_effect s fresh (.of r o.metadata.ns) o
  | operation t a => exact perform_effect s fresh t a

theorem step_answer (s : Store) (fresh : Fresh) (x : Call) : s.Step (s.answer fresh x).2 := by
  cases x with
  | seed r o => exact .seed fresh r o
  | operation t a => exact .perform fresh t a

/-- An effect that gives an error is none. -/
theorem Effect.eq_of_error {s : Store} {t : Target} {name : String} {r : Except Error Product × Store} {e : Error}
    (h : Effect t name s r) (he : r.1 = .error e) : r.2 = s := by
  cases h with
  | failed => rfl
  | read | added | modified | removed => cases he

/-- A call that fails, whatever it is and for whatever reason, leaves the cluster as it was but for the entry of
an operation in the log. So the objects and the version are the same, nothing is published, and no watch, open
before or not, gives anything else than without the call. -/
theorem failed_call_only_logged (s : Store) (fresh : Fresh) (x : Call) {e : Error}
    (h : (s.answer fresh x).1 = .error e) :
    (s.answer fresh x).2 = s.recorded x ∧ s.SameContent (s.answer fresh x).2 ∧
      ∀ (n : Nat) (w : Watch), w.take (s.answer fresh x).2 n = w.take s n := by
  have heq : (s.answer fresh x).2 = s.recorded x := (answer_effect s fresh x).eq_of_error h
  have hsame : s.SameContent (s.answer fresh x).2 := heq ▸ sameContent_recorded s x
  exact ⟨heq, hsame, Watch.take_of_events hsame.events⟩

/-- A type of resource whose objects have a status. -/
def stages : ApiResource :=
  ⟨"kargo.akuity.io", "v1alpha1", "Stage", "stages"⟩

def testStage : Object :=
  { types := some ⟨stages.apiVersion, "Stage"⟩
    metadata := { name := some "test", ns := some "demo" }
    data := [("status", .obj [("phase", .str "Steady")])] }

/-- A cluster with one stage. -/
def oneStage : Store :=
  ((withLogCapacity 2).seed ⟨"u1", ""⟩ stages testStage).2

/-- A patch after which the metadata could not be read. -/
def unreadablePatch : Call :=
  .operation ⟨stages, "demo"⟩ (.patch "test" ⟨.merge, .obj [("metadata", .obj [("labels", .int 5)])]⟩)

/-- The patch fails, and only the log knows of it. -/
theorem unreadable_patch_only_logged :
    (oneStage.answer ⟨"u2", ""⟩ unreadablePatch).1 = .error .serialization ∧
      (oneStage.answer ⟨"u2", ""⟩ unreadablePatch).2 = { oneStage with log := ["patch stages"] } := by
  have h : (oneStage.answer ⟨"u2", ""⟩ unreadablePatch).1 = .error .serialization := by rfl
  exact ⟨h, (failed_call_only_logged oneStage ⟨"u2", ""⟩ unreadablePatch h).1⟩

end Store

end AccessGate.Cluster
