/-
Powers of two and of ten, on which bounds of machine numbers and decimal notation rest.
-/
namespace AccessGate

/-- The n-th power of two. -/
def pow2 (n : Nat) : Nat :=
  Nat.pow 2 n

/-- The n-th power of ten. -/
def pow10 (n : Nat) : Nat :=
  Nat.pow 10 n

end AccessGate
