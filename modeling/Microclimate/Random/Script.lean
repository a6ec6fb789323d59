import Microclimate.Random.Source

/-!
# Scripted sources

A scripted source gives the answers it was told to give, in order and whatever is asked for, and
fails when there are none left.

* `Microclimate.Script` – the answers that are left, with its `RandomSource` instance.
-/

namespace Microclimate

/-- The answers that are left. -/
structure Script where
  /-- The integers. -/
  integers : List Int := []
  /-- The normally distributed doubles. -/
  normals : List Float := []
  deriving Inhabited

namespace Script

/-- The next integer. -/
def integer : EStateM Fault Script Int := do
  let s ← get
  match s.integers with
  | [] => throw .drawsExhausted
  | n :: rest =>
    set { s with integers := rest }
    return n

/-- The next double. -/
def normal : EStateM Fault Script Float := do
  let s ← get
  match s.normals with
  | [] => throw .drawsExhausted
  | x :: rest =>
    set { s with normals := rest }
    return x

/-- A script with more answers at its end. -/
def extend (s : Script) (more : Script) : Script :=
  ⟨s.integers ++ more.integers, s.normals ++ more.normals⟩

instance : RandomSource Script where
  integer _ _ := integer
  normal _ _ := normal
  patience s := s.normals.length + 1

end Script

end Microclimate
