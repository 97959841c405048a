import RadioSnapshot.Text.Emoji
import RadioSnapshot.Text.Ligature

/-!
# Widths of texts on a terminal

A text takes as many columns as its characters, save where several of them are
shown as one: in emoji sequences, in ligatures, and where a variation selector says
how the character in front of it looks. A text is looked at from its end, with what
stands behind a character kept as its context.
-/

namespace RadioSnapshot

/-- A variation selector, as far as it changes the width of the character in front
of it. -/
inductive VariationSelector where
  | text
  | emoji
  /-- A quotation mark is shown narrow or wide. -/
  | quotation (wide : Bool)
  deriving BEq, DecidableEq, Repr

namespace VariationSelector

def ofCode? : Nat → Option VariationSelector
  | 0xFE00 | 0xFE02 => some (.quotation false)
  | 0xFE01 => some (.quotation true)
  | 0xFE0E => some .text
  | 0xFE0F => some .emoji
  | _ => none

def isQuotationMark (code : Nat) : Bool :=
  code == 0x2018 || code == 0x2019 || code == 0x201C || code == 0x201D

end VariationSelector

/-- What stands behind a character, as far as both may be shown as one. -/
inductive Tail where
  | plain
  | emoji (sequence : Emoji.Sequence)
  /-- A part of a ligature, and whether a joiner stands in front of it. -/
  | ligature (part : Ligature.Part) (joined : Bool)
  deriving BEq, DecidableEq, Repr

namespace Tail

/-- The tail that a character is by itself. -/
def ofCode (code : Nat) : Tail :=
  match Ligature.Part.ofCode? code, Emoji.Sequence.ofCode? code with
  | some part, _ => .ligature part false
  | none, some sequence => .emoji sequence
  | none, none => .plain

/-- What is left of a tail behind a selector. -/
def behindSelector : Tail → Tail
  | .ligature part joined => if part.isLoose then .ligature part joined else .plain
  | _ => .plain

/-- Whether a character selected as emoji in front is joined to another emoji. -/
def isJoined : Tail → Bool
  | .emoji sequence => sequence.isJoined
  | _ => false

/-- What is left of a tail behind the selector for emoji, which may be part of an
emoji that is joined to another. -/
def behindEmojiSelector : Tail → Tail
  | tail => if tail.isJoined then tail else tail.behindSelector

/-- What a character adds to the columns, and the tail that it makes with the one
behind it. -/
def before? (code : Nat) : Tail → Option (Int × Tail)
  | .plain => none
  | .emoji sequence =>
      (sequence.before? code).map fun (columns, sequence) => (columns, .emoji sequence)
  | .ligature part joined =>
      if part.isKeptBy code then
        some (0, .ligature part (joined || code == Ligature.joiner))
      else
        (part.before? code joined).map fun (columns, part) =>
          (columns, part.elim .plain (.ligature · false))

end Tail

/-- What stands behind a character. -/
structure TextContext where
  tail : Tail
  selector : Option VariationSelector
  deriving BEq, DecidableEq, Repr

namespace TextContext

/-- Nothing that matters. -/
def plain : TextContext := ⟨.plain, none⟩

/-- The columns of a character that the selector behind it has an effect on, and
the context that both are to what stands in front. -/
def select? (code : Nat) (context : TextContext) : Option (Int × TextContext) :=
  match context.selector with
  | none => none
  | some .emoji =>
      if Emoji.isSelectable code then
        some (if context.tail.isJoined then 0 else 2, ⟨.emoji .emoji, none⟩)
      else none
  | some .text => if Emoji.isNarrowAsText code then some (1, plain) else none
  | some (.quotation wide) =>
      if VariationSelector.isQuotationMark code then some (if wide then 2 else 1, plain)
      else none

/-- The tail behind a character that the selector has no effect on. -/
def unselected (context : TextContext) : Tail :=
  if context.selector = some .emoji then context.tail.behindSelector else context.tail

/-- What a character adds to the columns, and the context that it is, with all
behind it, to what stands in front. -/
def before (code : Nat) (context : TextContext) : Int × TextContext :=
  match context.select? code with
  | some selected => selected
  | none =>
      if code ≤ 0xA0 then (1, plain)
      else
        let tail := context.unselected
        match VariationSelector.ofCode? code with
        | some .emoji => (0, ⟨tail.behindEmojiSelector, some .emoji⟩)
        | some .text => (0, ⟨tail.behindSelector, some .text⟩)
        | selector =>
            match tail.before? code with
            | some (columns, tail) => (columns, ⟨tail, none⟩)
            | none => (charWidth code, ⟨.ofCode code, selector⟩)

end TextContext

/-- The columns that a text takes, with the context that it is. -/
def columnsFrom : List Char → Int × TextContext
  | [] => (0, .plain)
  | char :: rest =>
      let (columns, context) := columnsFrom rest
      let (added, context) := context.before char.toNat
      (columns + added, context)

/-- The columns that a text takes. -/
def displayWidth (text : String) : Nat :=
  (columnsFrom text.toList).1.toNat

end RadioSnapshot
