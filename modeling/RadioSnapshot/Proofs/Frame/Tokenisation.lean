import Mathlib.Data.List.Basic
import RadioSnapshot.Frame.Deframer

/-!
# Tokens of the link

What comes over the link falls into tokens: frames, headers that declare too
much, false starts and plain bytes. No token is the beginning of another, so an
input has one tokenisation only. The deframer computes it: every token comes out
as one event, and what is held is the token that has not ended yet.
-/

namespace RadioSnapshot

/-- The header of a payload whose length is written in these two bytes. -/
theorem Frame.header_declaredLength (high low : UInt8) :
    header (declaredLength high low) = [firstMagic, secondMagic, high, low] := by
  have lowBound := low.toNat_lt
  have upper : (256 * high.toNat + low.toNat) / 256 = high.toNat := by omega
  have lower : UInt8.ofNat (256 * high.toNat + low.toNat) = low := by
    rw [UInt8.ofNat_add, UInt8.ofNat_mul]
    simp
  simp [header, lengthBytes, declaredLength, upper, lower]

/-- A piece of the input that is given out as a whole, under a limit for the
length of a payload. -/
inductive Token (limit : Nat) where
  /-- A byte that begins no frame. -/
  | plain (byte : UInt8) (other : byte ≠ Frame.firstMagic)
  /-- The first magic byte in front of something else. -/
  | falseStart (byte : UInt8) (other : byte ≠ Frame.secondMagic)
  /-- A header that declares more than the limit. -/
  | refused (high low : UInt8) (tooLong : limit < Frame.declaredLength high low)
  /-- A header and the payload that it declares. -/
  | frame (high low : UInt8) (payload : List UInt8)
      (fits : Frame.declaredLength high low ≤ limit)
      (whole : payload.length = Frame.declaredLength high low)

namespace Token

variable {limit : Nat}

def isPlain : Token limit → Bool
  | .plain .. => true
  | _ => false

/-- The bytes of a token. -/
def wire : Token limit → List UInt8
  | .plain byte _ => [byte]
  | .falseStart byte _ => [Frame.firstMagic, byte]
  | .refused high low _ => [Frame.firstMagic, Frame.secondMagic, high, low]
  | .frame high low payload _ _ =>
      Frame.firstMagic :: Frame.secondMagic :: high :: low :: payload

/-- What a token is given out as. -/
def event : Token limit → Deframer.Event
  | .frame _ _ payload _ _ => .frame ⟨payload⟩
  | token => .stray token.wire

@[simp] theorem wire_event (token : Token limit) : token.event.wire = token.wire := by
  cases token with
  | plain | falseStart | refused => rfl
  | frame high low payload fits whole =>
      simp only [event, Deframer.Event.wire, Frame.wire, wire]
      rw [whole, Frame.header_declaredLength]
      rfl

theorem event_ne_pending (token : Token limit) : token.event ≠ .pending := by
  cases token <;> simp [event]

theorem wire_ne_nil (token : Token limit) : token.wire ≠ [] := by
  cases token <;> simp [wire]

/-- Tokens are told apart by their bytes, whatever follows them. -/
theorem eq_of_wire_append_eq {left right : Token limit} {rest others : List UInt8}
    (same : left.wire ++ rest = right.wire ++ others) : left = right := by
  cases left with
  | plain byte other => cases right <;> grind [wire]
  | falseStart byte other => cases right <;> grind [wire]
  | refused high low tooLong => cases right <;> grind [wire]
  | frame high low payload fits whole =>
      cases right with
      | plain | falseStart | refused => grind [wire]
      | frame otherHigh otherLow other otherFits otherWhole =>
          simp only [wire, List.cons_append, List.cons.injEq, true_and] at same
          obtain ⟨rfl, rfl, same⟩ := same
          have samePayload := List.append_inj_left same (whole.trans otherWhole.symm)
          subst samePayload
          rfl

end Token

/-- The bytes are the beginning of a token that has not ended. -/
def Unfinished (limit : Nat) (bytes : List UInt8) : Prop :=
  ∃ token : Token limit, token.isPlain = false ∧ bytes <+: token.wire ∧ bytes ≠ token.wire

/-- An unfinished token has no token in front. -/
theorem Unfinished.ne_wire_append {limit : Nat} {bytes : List UInt8}
    (unfinished : Unfinished limit bytes) (token : Token limit) (rest : List UInt8) :
    bytes ≠ token.wire ++ rest := by
  obtain ⟨whole, _, ⟨missing, completed⟩, proper⟩ := unfinished
  rintro rfl
  have completed : token.wire ++ (rest ++ missing) = whole.wire ++ [] := by
    rw [List.append_nil, ← List.append_assoc]
    exact completed
  have same := Token.eq_of_wire_append_eq completed
  subst same
  simp_all

/-- A way to read an input as tokens, up to one that has not ended. -/
@[ext] structure Tokenisation (limit : Nat) (input : List UInt8) where
  tokens : List (Token limit)
  rest : List UInt8
  wire_append_rest : tokens.flatMap Token.wire ++ rest = input
  unfinished : rest ≠ [] → Unfinished limit rest

namespace Tokenisation

variable {limit : Nat}

private theorem eq_of_wire_eq {left right : List (Token limit)} {rest others : List UInt8}
    (unfinished : rest ≠ [] → Unfinished limit rest)
    (otherUnfinished : others ≠ [] → Unfinished limit others)
    (same : left.flatMap Token.wire ++ rest = right.flatMap Token.wire ++ others) :
    left = right ∧ rest = others := by
  induction left generalizing right with
  | nil =>
      cases right with
      | nil => exact ⟨rfl, same⟩
      | cons token right =>
          simp only [List.flatMap_nil, List.nil_append, List.flatMap_cons,
            List.append_assoc] at same
          have nonempty : rest ≠ [] := by
            rw [same]
            simp [token.wire_ne_nil]
          exact absurd same ((unfinished nonempty).ne_wire_append token _)
  | cons token left ih =>
      cases right with
      | nil =>
          simp only [List.flatMap_nil, List.nil_append, List.flatMap_cons,
            List.append_assoc] at same
          have nonempty : others ≠ [] := by
            rw [← same]
            simp [token.wire_ne_nil]
          exact absurd same.symm ((otherUnfinished nonempty).ne_wire_append token _)
      | cons other right =>
          simp only [List.flatMap_cons, List.append_assoc] at same
          have sameToken := Token.eq_of_wire_append_eq same
          subst sameToken
          obtain ⟨sameTokens, sameRest⟩ := ih (List.append_cancel_left same)
          exact ⟨by rw [sameTokens], sameRest⟩

/-- An input can be read as tokens in one way only. -/
theorem unique {input : List UInt8} (left right : Tokenisation limit input) :
    left = right := by
  obtain ⟨sameTokens, sameRest⟩ := eq_of_wire_eq left.unfinished right.unfinished
    (left.wire_append_rest.trans right.wire_append_rest.symm)
  exact Tokenisation.ext sameTokens sameRest

end Tokenisation

namespace Deframer

variable {limit : Nat}

@[simp] theorem held_idle : idle.held = [] := rfl

/-- The bytes collected may still become a frame, which is complete at its target. -/
def Viable (limit : Nat) : Deframer → Prop
  | .body high low target received =>
      target = Frame.headerSize + Frame.declaredLength high low ∧
        Frame.declaredLength high low ≤ limit ∧
        received.size < Frame.declaredLength high low
  | _ => True

/-- A byte is collected, or it ends the token that the deframer is in. -/
theorem push_cases {deframer : Deframer} (viable : deframer.Viable limit) (byte : UInt8) :
    (∃ next : Deframer, deframer.push limit byte = (.pending, next) ∧
      next.Viable limit ∧ next.held = deframer.held ++ [byte]) ∨
    (∃ token : Token limit, deframer.push limit byte = (token.event, .idle) ∧
      token.wire = deframer.held ++ [byte]) := by
  cases deframer with
  | idle =>
      by_cases first : byte = Frame.firstMagic
      · exact .inl ⟨.started, by simp [push, first], trivial, by simp [held, first]⟩
      · exact .inr ⟨.plain byte first, by simp [push, first, Token.event, Token.wire], rfl⟩
  | started =>
      by_cases second : byte = Frame.secondMagic
      · exact .inl ⟨.magic, by simp [push, second], trivial, by simp [held, second]⟩
      · exact .inr ⟨.falseStart byte second,
          by simp [push, second, Token.event, Token.wire], rfl⟩
  | magic => exact .inl ⟨.length byte, rfl, trivial, rfl⟩
  | length high =>
      by_cases tooLong : limit < Frame.declaredLength high byte
      · exact .inr ⟨.refused high byte tooLong,
          by simp [push, tooLong, Token.event, Token.wire], rfl⟩
      · have fits := Nat.le_of_not_lt tooLong
        by_cases empty : Frame.declaredLength high byte = 0
        · exact .inr ⟨.frame high byte [] fits empty.symm,
            by simp [push, empty, Token.event], rfl⟩
        · let target := Frame.headerSize + Frame.declaredLength high byte
          refine .inl ⟨.body high byte target #[], by simp [push, tooLong, empty, target], ?_,
            by simp [held]⟩
          exact ⟨rfl, fits, Nat.pos_of_ne_zero empty⟩
  | body high low target received =>
      obtain ⟨rfl, fits, short⟩ := viable
      by_cases complete : Frame.declaredLength high low ≤ received.size + 1
      · have whole : (received.toList ++ [byte]).length = Frame.declaredLength high low := by
          simp
          omega
        exact .inr ⟨.frame high low (received.toList ++ [byte]) fits whole,
          by simp [push, complete, Token.event], by simp [Token.wire, held]⟩
      · let target := Frame.headerSize + Frame.declaredLength high low
        refine .inl ⟨.body high low target (received.push byte), by simp [push, complete, target],
          ?_, by simp [held]⟩
        exact ⟨rfl, fits, by simp; omega⟩

/-- What is held is nothing or the beginning of a token. -/
theorem unfinished_held {deframer : Deframer} (viable : deframer.Viable limit)
    (nonempty : deframer.held ≠ []) : Unfinished limit deframer.held := by
  cases deframer with
  | idle => exact absurd rfl nonempty
  | started => exact ⟨.falseStart 0 (by decide), rfl, by simp [held, Token.wire]⟩
  | magic =>
      exact ⟨.frame 0 0 [] (Nat.zero_le limit) rfl, rfl, by simp [held, Token.wire]⟩
  | length high =>
      by_cases tooLong : limit < Frame.declaredLength high 0
      · exact ⟨.refused high 0 tooLong, rfl, by simp [held, Token.wire]⟩
      · let payload := List.replicate (Frame.declaredLength high 0) (0 : UInt8)
        exact ⟨.frame high 0 payload (Nat.le_of_not_lt tooLong) (by simp [payload]), rfl,
          by simp [held, Token.wire]⟩
  | body high low target received =>
      obtain ⟨_, fits, short⟩ := viable
      let missing := List.replicate (Frame.declaredLength high low - received.size) (0 : UInt8)
      have whole : (received.toList ++ missing).length = Frame.declaredLength high low := by
        simp [missing]
        omega
      refine ⟨.frame high low (received.toList ++ missing) fits whole, rfl, ?_, ?_⟩
      · simp [held, Token.wire]
      · simp [held, Token.wire, missing]
        omega

/-- The events that give something out. -/
def Event.emitted (events : List Event) : List Event :=
  events.filter (· ≠ .pending)

/-- Pending events have no bytes. -/
theorem Event.flatMap_wire_emitted (events : List Event) :
    (emitted events).flatMap Event.wire = events.flatMap Event.wire := by
  induction events with
  | nil => rfl
  | cons event events ih =>
      cases event with
      | pending => simpa [emitted, Event.wire] using ih
      | frame complete => simpa [emitted] using ih
      | stray bytes => simpa [emitted] using ih

/-- Whatever the deframer is in the middle of, the bytes held and the input are
given out token by token. -/
theorem exists_tokens_run {deframer : Deframer} (viable : deframer.Viable limit)
    (input : List UInt8) :
    ∃ tokens : List (Token limit),
      Event.emitted (run limit input deframer).1 = tokens.map Token.event ∧
      tokens.flatMap Token.wire ++ (run limit input deframer).2.held =
        deframer.held ++ input ∧
      (run limit input deframer).2.Viable limit := by
  induction input generalizing deframer with
  | nil => exact ⟨[], rfl, by simp [run], viable⟩
  | cons byte input ih =>
      rcases push_cases viable byte with
        ⟨next, step, nextViable, collected⟩ | ⟨token, step, ended⟩
      · obtain ⟨tokens, events, bytes, finalViable⟩ := ih nextViable
        refine ⟨tokens, ?_, ?_, ?_⟩
        · simpa [run, step, Event.emitted] using events
        · simpa [run, step, collected] using bytes
        · simpa [run, step] using finalViable
      · obtain ⟨tokens, events, bytes, finalViable⟩ := @ih .idle trivial
        refine ⟨token :: tokens, ?_, ?_, ?_⟩
        · simpa [run, step, Event.emitted, token.event_ne_pending] using events
        · simp only [held_idle, List.nil_append] at bytes
          simp [run, step, bytes, ended]
        · simpa [run, step] using finalViable

/-- The bytes of the events and those held are the bytes put in. -/
theorem flatMap_wire_run {deframer : Deframer} (viable : deframer.Viable limit)
    (input : List UInt8) :
    (run limit input deframer).1.flatMap Event.wire ++ (run limit input deframer).2.held =
      deframer.held ++ input := by
  obtain ⟨tokens, events, bytes, _⟩ := exists_tokens_run viable input
  rw [← Event.flatMap_wire_emitted, events, List.flatMap_map]
  simpa only [Token.wire_event] using bytes

/-- A fresh deframer computes the one tokenisation of its input: each token is
given out as one event, what is held is the token that has not ended, and the
bytes of the events and those held are the input. -/
theorem run_idle_eq_tokenisation (limit : Nat) (input : List UInt8) :
    ∃ tokenisation : Tokenisation limit input,
      (∀ other : Tokenisation limit input, other = tokenisation) ∧
      Event.emitted (run limit input .idle).1 = tokenisation.tokens.map Token.event ∧
      (run limit input .idle).2.held = tokenisation.rest ∧
      (run limit input .idle).1.flatMap Event.wire ++ (run limit input .idle).2.held =
        input := by
  obtain ⟨tokens, events, bytes, viable⟩ :=
    @exists_tokens_run limit .idle trivial input
  let tokenisation : Tokenisation limit input :=
    ⟨tokens, (run limit input .idle).2.held, bytes, unfinished_held viable⟩
  exact ⟨tokenisation, fun other => other.unique tokenisation, events, rfl,
    @flatMap_wire_run limit .idle trivial input⟩

/-- A false start, a frame and the beginning of what may become another one. -/
example : idle.run 2 [0x94, 0x41, 0x94, 0xC3, 0, 1, 0xC3, 0x94] =
    ([.pending, .stray [0x94, 0x41], .pending, .pending, .pending, .pending, .frame ⟨[0xC3]⟩,
      .pending], .started) := by
  decide

end Deframer

end RadioSnapshot
