/-
Reviews and scripts of reviewers as documents.
-/
import AccessGate.Json.Fields
import AccessGate.Review.Script

namespace AccessGate

def Attributes.toJson (a : Attributes) : Json :=
  .strings [a.verb, a.group, a.version, a.resource, a.subresource, a.ns, a.name]

def Attributes.ofJson (j : Json) : Attributes :=
  ⟨j.textAt "verb", j.textAt "group", j.textAt "version", j.textAt "resource", j.textAt "subresource",
    j.textAt "namespace", j.textAt "name"⟩

namespace Review

/-- Whether two reviews are for accounts of one namespace, whose order does not count. -/
def areSiblings (r s : Review) : Bool :=
  match r.subject, s.subject with
  | .serviceAccount a, .serviceAccount b => a.ns = b.ns
  | _, _ => false

/-- The reviews that were asked for; neighbours for accounts of one namespace are sorted by subject. -/
def listed (rs : List Review) : Json :=
  let groups := (rs.filter wasAsked).splitBy areSiblings
  let sorted := groups.flatMap fun g =>
    g.mergeSort fun r s => decide (Script.keyOf r.subject ≤ Script.keyOf s.subject)
  .arr (sorted.map fun r => .arr [.str (Script.keyOf r.subject), r.attributes.toJson])

def Response.ofJson : Json → Response
  | .str "allow" => .allow
  | .str "hang" => .hang
  | j =>
    match j.get? "fail" with
    | some m => .fail m.asText
    | none => .forbid

def Script.ofJson (j : Json) : Script :=
  let base : Script := match j.get? "default" with
    | some d => { default := .ofJson d }
    | none => {}
  let withAccounts := (j.itemsAt "service_accounts").foldl
    (fun s a => s.respond (.serviceAccount ⟨a.nthText 0, a.nthText 1⟩) (.ofJson (a.nth 2))) base
  (j.itemsAt "tokens").foldl (fun s t => s.respond (.bearer (t.nthText 0)) (.ofJson (t.nth 1))) withAccounts

end Review

end AccessGate
