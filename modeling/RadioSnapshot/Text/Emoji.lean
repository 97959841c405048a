import RadioSnapshot.Text.CharWidth

/-!
# Emoji sequences

An emoji can be followed by a skin tone, two regional indicators make a flag, tags
spell out the name of a flag, and a joiner makes one emoji of two. Such a sequence
is shown as a single picture.

A text is looked at from its end, because it is the characters behind an emoji
that make a sequence of it. Of emoji that are joined, the last one has the columns.
-/

namespace RadioSnapshot.Emoji

/-- Characters that are emoji by themselves. -/
def emojiRanges : List (Nat × Nat) :=
  [ (0x231A, 0x231B), (0x23E9, 0x23EC), (0x23F0, 0x23F0), (0x23F3, 0x23F3), (0x25FD, 0x25FE),
    (0x2614, 0x2615), (0x2648, 0x2653), (0x267F, 0x267F), (0x2693, 0x2693), (0x26A1, 0x26A1),
    (0x26AA, 0x26AB), (0x26BD, 0x26BE), (0x26C4, 0x26C5), (0x26CE, 0x26CE), (0x26D4, 0x26D4),
    (0x26EA, 0x26EA), (0x26F2, 0x26F3), (0x26F5, 0x26F5), (0x26FA, 0x26FA), (0x26FD, 0x26FD),
    (0x2705, 0x2705), (0x270A, 0x270B), (0x2728, 0x2728), (0x274C, 0x274C), (0x274E, 0x274E),
    (0x2753, 0x2755), (0x2757, 0x2757), (0x2795, 0x2797), (0x27B0, 0x27B0), (0x27BF, 0x27BF),
    (0x2B1B, 0x2B1C), (0x2B50, 0x2B50), (0x2B55, 0x2B55), (0x1F004, 0x1F004),
    (0x1F0CF, 0x1F0CF), (0x1F18E, 0x1F18E), (0x1F191, 0x1F19A), (0x1F201, 0x1F201),
    (0x1F21A, 0x1F21A), (0x1F22F, 0x1F22F), (0x1F232, 0x1F236), (0x1F238, 0x1F23A),
    (0x1F250, 0x1F251), (0x1F300, 0x1F320), (0x1F32D, 0x1F335), (0x1F337, 0x1F37C),
    (0x1F37E, 0x1F393), (0x1F3A0, 0x1F3CA), (0x1F3CF, 0x1F3D3), (0x1F3E0, 0x1F3F0),
    (0x1F3F4, 0x1F3F4), (0x1F3F8, 0x1F43E), (0x1F440, 0x1F440), (0x1F442, 0x1F4FC),
    (0x1F4FF, 0x1F53D), (0x1F54B, 0x1F54E), (0x1F550, 0x1F567), (0x1F57A, 0x1F57A),
    (0x1F595, 0x1F596), (0x1F5A4, 0x1F5A4), (0x1F5FB, 0x1F64F), (0x1F680, 0x1F6C5),
    (0x1F6CC, 0x1F6CC), (0x1F6D0, 0x1F6D2), (0x1F6D5, 0x1F6D9), (0x1F6DC, 0x1F6DF),
    (0x1F6EB, 0x1F6EC), (0x1F6F4, 0x1F6FC), (0x1F7DA, 0x1F7DA), (0x1F7E0, 0x1F7EB),
    (0x1F7F0, 0x1F7F0), (0x1F90C, 0x1F93A), (0x1F93C, 0x1F945), (0x1F947, 0x1F9FF),
    (0x1FA70, 0x1FA7C), (0x1FA80, 0x1FA8C), (0x1FA8E, 0x1FAC6), (0x1FAC8, 0x1FAC8),
    (0x1FACC, 0x1FADD), (0x1FADF, 0x1FAEB), (0x1FAEF, 0x1FAFA) ]

/-- Characters that a selector can make emoji or text of. -/
def selectableRanges : List (Nat × Nat) :=
  [ (0x23, 0x23), (0x2A, 0x2A), (0x30, 0x39), (0xA9, 0xA9), (0xAE, 0xAE), (0x203C, 0x203C),
    (0x2049, 0x2049), (0x2122, 0x2122), (0x2139, 0x2139), (0x2194, 0x2199), (0x21A9, 0x21AA),
    (0x231A, 0x231B), (0x2328, 0x2328), (0x23CF, 0x23CF), (0x23E9, 0x23F3), (0x23F8, 0x23FA),
    (0x24C2, 0x24C2), (0x25AA, 0x25AB), (0x25B6, 0x25B6), (0x25C0, 0x25C0), (0x25FB, 0x25FE),
    (0x2600, 0x2604), (0x260E, 0x260E), (0x2611, 0x2611), (0x2614, 0x2615), (0x2618, 0x2618),
    (0x261D, 0x261D), (0x2620, 0x2620), (0x2622, 0x2623), (0x2626, 0x2626), (0x262A, 0x262A),
    (0x262E, 0x262F), (0x2638, 0x263A), (0x2640, 0x2640), (0x2642, 0x2642), (0x2648, 0x2653),
    (0x265F, 0x2660), (0x2663, 0x2663), (0x2665, 0x2666), (0x2668, 0x2668), (0x267B, 0x267B),
    (0x267E, 0x267F), (0x2692, 0x2697), (0x2699, 0x2699), (0x269B, 0x269C), (0x26A0, 0x26A1),
    (0x26A7, 0x26A7), (0x26AA, 0x26AB), (0x26B0, 0x26B1), (0x26BD, 0x26BE), (0x26C4, 0x26C5),
    (0x26C8, 0x26C8), (0x26CE, 0x26CF), (0x26D1, 0x26D1), (0x26D3, 0x26D4), (0x26E9, 0x26EA),
    (0x26F0, 0x26F5), (0x26F7, 0x26FA), (0x26FD, 0x26FD), (0x2702, 0x2702), (0x2705, 0x2705),
    (0x2708, 0x270D), (0x270F, 0x270F), (0x2712, 0x2712), (0x2714, 0x2714), (0x2716, 0x2716),
    (0x271D, 0x271D), (0x2721, 0x2721), (0x2728, 0x2728), (0x2733, 0x2734), (0x2744, 0x2744),
    (0x2747, 0x2747), (0x274C, 0x274C), (0x274E, 0x274E), (0x2753, 0x2755), (0x2757, 0x2757),
    (0x2763, 0x2764), (0x2795, 0x2797), (0x27A1, 0x27A1), (0x27B0, 0x27B0), (0x27BF, 0x27BF),
    (0x2934, 0x2935), (0x2B05, 0x2B07), (0x2B1B, 0x2B1C), (0x2B50, 0x2B50), (0x2B55, 0x2B55),
    (0x3030, 0x3030), (0x303D, 0x303D), (0x3297, 0x3297), (0x3299, 0x3299), (0x1F004, 0x1F004),
    (0x1F170, 0x1F171), (0x1F17E, 0x1F17F), (0x1F202, 0x1F202), (0x1F21A, 0x1F21A),
    (0x1F22F, 0x1F22F), (0x1F237, 0x1F237), (0x1F30D, 0x1F30F), (0x1F315, 0x1F315),
    (0x1F31C, 0x1F31C), (0x1F321, 0x1F321), (0x1F324, 0x1F32C), (0x1F336, 0x1F336),
    (0x1F378, 0x1F378), (0x1F37D, 0x1F37D), (0x1F393, 0x1F393), (0x1F396, 0x1F397),
    (0x1F399, 0x1F39B), (0x1F39E, 0x1F39F), (0x1F3A7, 0x1F3A7), (0x1F3AC, 0x1F3AE),
    (0x1F3C2, 0x1F3C2), (0x1F3C4, 0x1F3C4), (0x1F3C6, 0x1F3C6), (0x1F3CA, 0x1F3CE),
    (0x1F3D4, 0x1F3E0), (0x1F3ED, 0x1F3ED), (0x1F3F3, 0x1F3F3), (0x1F3F5, 0x1F3F5),
    (0x1F3F7, 0x1F3F7), (0x1F408, 0x1F408), (0x1F415, 0x1F415), (0x1F41F, 0x1F41F),
    (0x1F426, 0x1F426), (0x1F43F, 0x1F43F), (0x1F441, 0x1F442), (0x1F446, 0x1F449),
    (0x1F44D, 0x1F44E), (0x1F453, 0x1F453), (0x1F46A, 0x1F46A), (0x1F47D, 0x1F47D),
    (0x1F4A3, 0x1F4A3), (0x1F4B0, 0x1F4B0), (0x1F4B3, 0x1F4B3), (0x1F4BB, 0x1F4BB),
    (0x1F4BF, 0x1F4BF), (0x1F4CB, 0x1F4CB), (0x1F4DA, 0x1F4DA), (0x1F4DF, 0x1F4DF),
    (0x1F4E4, 0x1F4E6), (0x1F4EA, 0x1F4ED), (0x1F4F7, 0x1F4F7), (0x1F4F9, 0x1F4FB),
    (0x1F4FD, 0x1F4FD), (0x1F508, 0x1F508), (0x1F50D, 0x1F50D), (0x1F512, 0x1F513),
    (0x1F549, 0x1F54A), (0x1F550, 0x1F567), (0x1F56F, 0x1F570), (0x1F573, 0x1F579),
    (0x1F587, 0x1F587), (0x1F58A, 0x1F58D), (0x1F590, 0x1F590), (0x1F5A5, 0x1F5A5),
    (0x1F5A8, 0x1F5A8), (0x1F5B1, 0x1F5B2), (0x1F5BC, 0x1F5BC), (0x1F5C2, 0x1F5C4),
    (0x1F5D1, 0x1F5D3), (0x1F5DC, 0x1F5DE), (0x1F5E1, 0x1F5E1), (0x1F5E3, 0x1F5E3),
    (0x1F5E8, 0x1F5E8), (0x1F5EF, 0x1F5EF), (0x1F5F3, 0x1F5F3), (0x1F5FA, 0x1F5FA),
    (0x1F610, 0x1F610), (0x1F687, 0x1F687), (0x1F68D, 0x1F68D), (0x1F691, 0x1F691),
    (0x1F694, 0x1F694), (0x1F698, 0x1F698), (0x1F6AD, 0x1F6AD), (0x1F6B2, 0x1F6B2),
    (0x1F6B9, 0x1F6BA), (0x1F6BC, 0x1F6BC), (0x1F6CB, 0x1F6CB), (0x1F6CD, 0x1F6CF),
    (0x1F6E0, 0x1F6E5), (0x1F6E9, 0x1F6E9), (0x1F6F0, 0x1F6F0), (0x1F6F3, 0x1F6F3) ]

/-- Characters that a skin tone can follow. -/
def tonedRanges : List (Nat × Nat) :=
  [ (0x261D, 0x261D), (0x26F9, 0x26F9), (0x270A, 0x270D), (0x1F385, 0x1F385),
    (0x1F3C2, 0x1F3C4), (0x1F3C7, 0x1F3C7), (0x1F3CA, 0x1F3CC), (0x1F442, 0x1F443),
    (0x1F446, 0x1F450), (0x1F466, 0x1F478), (0x1F47C, 0x1F47C), (0x1F481, 0x1F483),
    (0x1F485, 0x1F487), (0x1F48F, 0x1F48F), (0x1F491, 0x1F491), (0x1F4AA, 0x1F4AA),
    (0x1F574, 0x1F575), (0x1F57A, 0x1F57A), (0x1F590, 0x1F590), (0x1F595, 0x1F596),
    (0x1F645, 0x1F647), (0x1F64B, 0x1F64F), (0x1F6A3, 0x1F6A3), (0x1F6B4, 0x1F6B6),
    (0x1F6C0, 0x1F6C0), (0x1F6CC, 0x1F6CC), (0x1F90C, 0x1F90C), (0x1F90F, 0x1F90F),
    (0x1F918, 0x1F91F), (0x1F926, 0x1F926), (0x1F930, 0x1F939), (0x1F93C, 0x1F93E),
    (0x1F977, 0x1F977), (0x1F9B5, 0x1F9B6), (0x1F9B8, 0x1F9B9), (0x1F9BB, 0x1F9BB),
    (0x1F9CD, 0x1F9CF), (0x1F9D1, 0x1F9DD), (0x1FAC3, 0x1FAC5), (0x1FAF0, 0x1FAFA) ]

def isEmoji (code : Nat) : Bool :=
  inRanges emojiRanges code

/-- Whether the selector for emoji has an effect on a character. -/
def isSelectable (code : Nat) : Bool :=
  inRanges selectableRanges code

/-- Whether the selector for text makes a character narrow. Ideographs in a square
stay wide. -/
def isNarrowAsText (code : Nat) : Bool :=
  isSelectable code && isEmoji code && !(0x1F200 ≤ code && code ≤ 0x1F2FF)

def joiner : Nat := 0x200D

/-- The mark that encloses a digit in a keycap. -/
def keycapMark : Nat := 0x20E3

/-- The black flag, which a sequence of tags makes another flag of. -/
def taggedFlag : Nat := 0x1F3F4

/-- The tag at the end of a sequence of tags. -/
def lastTag : Nat := 0xE007F

def isSkinTone (code : Nat) : Bool :=
  0x1F3FB ≤ code && code ≤ 0x1F3FF

def isIndicator (code : Nat) : Bool :=
  0x1F1E6 ≤ code && code ≤ 0x1F1FF

def isTagLetter (code : Nat) : Bool :=
  0xE0061 ≤ code && code ≤ 0xE007A

def isTagDigit (code : Nat) : Bool :=
  0xE0030 ≤ code && code ≤ 0xE0039

/-- What stands behind a character, as far as it can become part of an emoji. -/
inductive Sequence where
  /-- An emoji, with all that belongs to it. -/
  | emoji
  | skinTone
  /-- A regional indicator, with others behind it or not. -/
  | indicator (more : Bool)
  /-- The joiner, with an emoji behind it. -/
  | joiner
  /-- The keycap mark, with the joiner behind it. -/
  | keycap
  /-- So many regional indicators, with the joiner behind them. -/
  | joinedIndicators (count : Nat)
  /-- So many letters at the end of tags, with the joiner behind them. -/
  | tagLetters (count : Nat)
  /-- So many digits in front of the letters at the end of such tags. -/
  | tagDigits (count : Nat)
  deriving BEq, DecidableEq, Repr

namespace Sequence

/-- The sequence that a character begins by itself. -/
def ofCode? (code : Nat) : Option Sequence :=
  if isIndicator code then some (.indicator false)
  else if isSkinTone code then some .skinTone
  else if isEmoji code then some .emoji
  else none

/-- Whether a joiner can stand in front. -/
def isJoinable : Sequence → Bool
  | .emoji | .skinTone | .indicator true => true
  | .joinedIndicators count => 2 ≤ count
  | _ => false

/-- The sequence with a character in front of a joiner. Indicators pair from the
left, so each one changes whether the pair next to the joiner is complete, and with
it whether those columns are the emoji's. -/
def joined? (code : Nat) : Option (Int × Sequence) :=
  if code = keycapMark then some (0, .keycap)
  else if isIndicator code then some (1, .joinedIndicators 1)
  else if isSkinTone code then some (0, .skinTone)
  else if code = lastTag then some (0, .tagLetters 0)
  else if isEmoji code then some (0, .emoji)
  else none

/-- The sequence with one more tag in front, or with the flag that the tags belong
to. A region's name has three to six letters, or three digits and up to four
letters. -/
def tagged? (code letters digits : Nat) : Option Sequence :=
  if digits = 0 then
    if isTagLetter code ∧ letters < 6 then some (.tagLetters (letters + 1))
    else if isTagDigit code ∧ letters ≤ 4 then some (.tagDigits 1)
    else if code = taggedFlag ∧ 3 ≤ letters then some .emoji
    else none
  else if isTagDigit code ∧ digits < 3 then some (.tagDigits (digits + 1))
  else if code = taggedFlag ∧ digits = 3 then some .emoji
  else none

/-- The sequence with a character in front that becomes part of it, and the columns
that it adds or takes away. -/
def before? (code : Nat) (sequence : Sequence) : Option (Int × Sequence) :=
  if code = Emoji.joiner then
    if sequence.isJoinable then some (0, .joiner) else none
  else
    match sequence with
    | .emoji | .keycap => none
    | .skinTone => if inRanges tonedRanges code then some (0, .emoji) else none
    | .indicator _ => if isIndicator code then some (1, .indicator true) else none
    | .joiner => joined? code
    | .joinedIndicators count =>
        if isIndicator code then
          some (if count % 2 = 1 then -1 else 3, .joinedIndicators (count + 1))
        else none
    | .tagLetters letters => (tagged? code letters 0).map (0, ·)
    | .tagDigits digits => (tagged? code 0 digits).map (0, ·)

/-- Whether a character in front, once it is selected as emoji, is joined to the
emoji behind. -/
def isJoined : Sequence → Bool
  | .joiner | .keycap => true
  | _ => false

end Sequence

end RadioSnapshot.Emoji
