import RadioSnapshot.Link.Error

/-!
# Sources of bytes

A link is asked for at most so many bytes at a time and answers with some of
them, with none for now, or with a failure. Nothing more is known of a live link.
A finite source is one that has only so many bytes to give, so whoever reads it until
nothing comes any more gets to an end.
-/

namespace RadioSnapshot

/-- How something with states `σ` is read: it is asked for at most so many bytes. -/
abbrev LinkRead (σ : Type) : Type :=
  (room : Nat) → σ → Except LinkError (List UInt8) × σ

/-- A source with states `σ` that gives finitely many bytes. `supply` bounds those still to
come, so every byte that is read takes one off. -/
structure FiniteSource (σ : Type) where
  read : (room : Nat) → σ → Except LinkError (List UInt8) × σ
  supply : σ → Nat
  length_le_room : ∀ room state data next,
    read room state = (.ok data, next) → data.length ≤ room
  supply_read : ∀ room state data next,
    read room state = (.ok data, next) → supply next + data.length ≤ supply state

end RadioSnapshot
