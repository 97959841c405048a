import RadioSnapshot.Text.CharWidth

/-!
# Ligatures

In some scripts characters that follow each other are shown as one. A text is
looked at from its end: a character behind is a part that waits for what comes in
front of it. The columns that a character in front adds, or takes away, make up for
those that the parts behind it have been given.
-/

namespace RadioSnapshot.Ligature

/-- Characters without columns that still keep Arabic letters in front and behind
apart. -/
def separatingRanges : List (Nat × Nat) :=
  [ (0x605, 0x605), (0x890, 0x891), (0x8E2, 0x8E2), (0x9BE, 0x9BE), (0x9D7, 0x9D7),
    (0xB3E, 0xB3E), (0xB57, 0xB57), (0xBBE, 0xBBE), (0xBD7, 0xBD7), (0xCC0, 0xCC0),
    (0xCC2, 0xCC2), (0xCC7, 0xCC8), (0xCCA, 0xCCB), (0xCD5, 0xCD6), (0xD3E, 0xD3E),
    (0xD4E, 0xD4E), (0xD57, 0xD57), (0xDCF, 0xDCF), (0xDDF, 0xDDF), (0x1160, 0x11FF),
    (0x1715, 0x1715), (0x1734, 0x1734), (0x180E, 0x180E), (0x1B35, 0x1B35), (0x1B3B, 0x1B3B),
    (0x1B3D, 0x1B3D), (0x1B43, 0x1B44), (0x1BAA, 0x1BAA), (0x1BF2, 0x1BF3), (0x200C, 0x200D),
    (0x2065, 0x2069), (0x302E, 0x302F), (0x3164, 0x3164), (0xA8FA, 0xA8FA), (0xA953, 0xA953),
    (0xA9C0, 0xA9C0), (0xD7B0, 0xD7C6), (0xD7CB, 0xD7FB), (0xFFA0, 0xFFA0), (0xFFF0, 0xFFF8),
    (0x111C0, 0x111C0), (0x111C2, 0x111C3), (0x11235, 0x11235), (0x1133E, 0x1133E),
    (0x1134D, 0x1134D), (0x11357, 0x11357), (0x113B8, 0x113B8), (0x113C2, 0x113C2),
    (0x113C5, 0x113C5), (0x113C7, 0x113C9), (0x113CF, 0x113CF), (0x113D1, 0x113D1),
    (0x114B0, 0x114B0), (0x114BD, 0x114BD), (0x115AF, 0x115AF), (0x116B6, 0x116B6),
    (0x11930, 0x11930), (0x1193D, 0x1193D), (0x1193F, 0x1193F), (0x11941, 0x11941),
    (0x11A3A, 0x11A3A), (0x11A84, 0x11A89), (0x11D46, 0x11D46), (0x11F02, 0x11F02),
    (0x11F41, 0x11F41), (0x16FF0, 0x16FF1), (0x1D165, 0x1D166), (0x1D16D, 0x1D172),
    (0xE0000, 0xE0000), (0xE0002, 0xE001F), (0xE0080, 0xE00FF), (0xE01F0, 0xE0FFF) ]

/-- Whether Arabic letters join across a character. -/
def isTransparent (code : Nat) : Bool :=
  inRanges zeroWidthRanges code && !inRanges separatingRanges code

/-- Marks that are not shown. They do not come between the parts of a ligature. -/
def ignorableMarkRanges : List (Nat × Nat) :=
  [ (0x34F, 0x34F), (0x17B4, 0x17B5), (0x180B, 0x180D), (0x180F, 0x180F), (0xFE00, 0xFE0F),
    (0xE0100, 0xE01EF) ]

def isIgnorableMark (code : Nat) : Bool :=
  inRanges ignorableMarkRanges code

def joiner : Nat := 0x200D

/-- Arabic letters of the form of alef. -/
def alefRanges : List (Nat × Nat) :=
  [ (0x622, 0x623), (0x625, 0x625), (0x627, 0x627), (0x671, 0x673), (0x675, 0x675),
    (0x773, 0x774), (0x870, 0x882) ]

/-- Arabic letters of the form of lam. -/
def lamRanges : List (Nat × Nat) :=
  [(0x644, 0x644), (0x6B5, 0x6B8), (0x76A, 0x76A), (0x8A6, 0x8A6), (0x8C7, 0x8C7)]

/-- Khmer letters whose subscript form adds no column. -/
def subscriptRanges : List (Nat × Nat) :=
  [ (0x1780, 0x1782), (0x1784, 0x1787), (0x1789, 0x178C), (0x178E, 0x1793), (0x1795, 0x1798),
    (0x179B, 0x179D), (0x17A0, 0x17A0), (0x17A2, 0x17A2), (0x17A7, 0x17A7), (0x17AB, 0x17AC),
    (0x17AF, 0x17AF) ]

/-- Tifinagh consonants. -/
def tifinaghRanges : List (Nat × Nat) :=
  [(0x2D31, 0x2D65), (0x2D6F, 0x2D6F)]

/-- The sign that makes a subscript of the Khmer letter behind it. -/
def coeng : Nat := 0x17D2

def tifinaghJoiner : Nat := 0x2D7F

/-- A part of a ligature that what stands in front may complete. -/
inductive Part where
  /-- An alef, for a lam. -/
  | alef
  /-- A Hebrew lamed, for an alef. -/
  | lamed
  /-- A Khmer letter, for the sign that makes a subscript of it. -/
  | subscript
  /-- A Buginese ya, for the vowel i. -/
  | ya
  /-- The Buginese vowel i with a ya joined to it, for the letter a. -/
  | vowelWithYa
  /-- A Tifinagh consonant, for another. -/
  | tifinagh
  /-- The Tifinagh joiner with a consonant behind it. -/
  | joinedTifinagh
  /-- One of the Lisu tones that combine with another in front. -/
  | lisuTone
  /-- An Old Turkic i, for an em. -/
  | turkicI
  /-- The Kirat Rai vowel sign e. -/
  | kiratE
  /-- The Kirat Rai vowel sign ai. -/
  | kiratAi
  deriving BEq, DecidableEq, Repr

namespace Part

/-- The part that a character is by itself. -/
def ofCode? (code : Nat) : Option Part :=
  if inRanges alefRanges code then some .alef
  else if inRanges subscriptRanges code then some .subscript
  else if inRanges tifinaghRanges code then some .tifinagh
  else
    match code with
    | 0x5DC => some .lamed
    | 0x1A10 => some .ya
    | 0xA4FC | 0xA4FD => some .lisuTone
    | 0x10C03 => some .turkicI
    | 0x16D67 => some .kiratE
    | 0x16D68 => some .kiratAi
    | _ => none

/-- Whether marks that are not shown may stand in front of a part. The vowel signs
of Kirat Rai follow each other directly. -/
def isLoose : Part → Bool
  | .kiratE | .kiratAi => false
  | _ => true

/-- Whether a character in front leaves a part as it is. -/
def isKeptBy (code : Nat) : Part → Bool
  | .alef => isTransparent code
  | part => part.isLoose && (code = joiner || isIgnorableMark code)

/-- What a character in front adds to the columns, and the part that it makes with
the one behind it, given whether a joiner stands between them. -/
def before? (code : Nat) (joined : Bool) : Part → Option (Int × Option Part)
  | .alef => if inRanges lamRanges code then some (0, none) else none
  | .lamed => if joined ∧ code = 0x5D0 then some (0, none) else none
  | .subscript => if code = coeng then some (-1, none) else none
  | .ya => if joined ∧ code = 0x1A17 then some (0, some .vowelWithYa) else none
  | .vowelWithYa => if code = 0x1A15 then some (0, none) else none
  | .tifinagh =>
      if code = tifinaghJoiner then some (1, some .joinedTifinagh)
      else if joined ∧ inRanges tifinaghRanges code then some (0, none)
      else none
  | .joinedTifinagh => if inRanges tifinaghRanges code then some (-1, none) else none
  | .lisuTone => if 0xA4F8 ≤ code ∧ code ≤ 0xA4FB then some (0, none) else none
  | .turkicI => if joined ∧ code = 0x10C32 then some (0, none) else none
  | .kiratE =>
      match code with
      | 0x16D63 | 0x16D69 => some (0, none)
      | 0x16D67 => some (0, some .kiratAi)
      | 0x16D68 => some (1, some .kiratE)
      | _ => none
  | .kiratAi => if code = 0x16D63 then some (0, none) else none

end Part

end RadioSnapshot.Ligature
