import Mathlib.Tactic.SplitIfs
import RadioSnapshot.Proofs.Decimal.Literal
import RadioSnapshot.Proofs.Text.HexText

/-!
# Texts of JSON values are read back

A value's text is one line, and a reader finds in it what the value says: its texts with
whatever quotes, backslashes and control characters are in them, its numbers, and its members
under their names, as long as no object has two members of one name. A word that is no finite
number is read as null.
-/

namespace RadioSnapshot

open Document

namespace Json

mutual

/-- What a value says. -/
def document : Json → Document
  | .null => .null
  | .bool value => .bool value
  | .integer value => .integer value
  | .binary32 value => if value.isFinite then .fractional value.text else .null
  | .string text => .string text
  | .array elements => .array (documents elements)
  | .object members => .object (memberDocuments members)

def documents : List Json → List Document
  | [] => []
  | element :: rest => element.document :: documents rest

def memberDocuments : List (String × Json) → List (String × Document)
  | [] => []
  | (name, value) :: rest => (name, value.document) :: memberDocuments rest

end

@[simp] theorem documents_eq_map (elements : List Json) :
    documents elements = elements.map document := by
  induction elements with
  | nil => rfl
  | cons element rest ih => rw [documents, ih, List.map_cons]

@[simp] theorem memberDocuments_eq_map (members : List (String × Json)) :
    memberDocuments members = members.map fun (name, value) => (name, value.document) := by
  induction members with
  | nil => rfl
  | cons member rest ih => rw [memberDocuments, ih, List.map_cons]

mutual

/-- No object inside has two members of one name. -/
def Distinct : Json → Prop
  | .array elements => AllDistinct elements
  | .object members => (members.map Prod.fst).Nodup ∧ MembersDistinct members
  | _ => True

def AllDistinct : List Json → Prop
  | [] => True
  | element :: rest => element.Distinct ∧ AllDistinct rest

def MembersDistinct : List (String × Json) → Prop
  | [] => True
  | (_, value) :: rest => value.Distinct ∧ MembersDistinct rest

end

theorem allDistinct_of_forall {elements : List Json}
    (each : ∀ element ∈ elements, element.Distinct) : AllDistinct elements := by
  induction elements with
  | nil => trivial
  | cons element rest ih =>
      obtain ⟨first, others⟩ := List.forall_mem_cons.mp each
      exact ⟨first, ih others⟩

theorem membersDistinct_of_forall {members : List (String × Json)}
    (each : ∀ member ∈ members, member.2.Distinct) : MembersDistinct members := by
  induction members with
  | nil => trivial
  | cons member rest ih =>
      obtain ⟨first, others⟩ := List.forall_mem_cons.mp each
      exact ⟨first, ih others⟩

/-- A value that may be missing. -/
theorem distinct_ofOption {α : Type} {encode : α → Json}
    (distinct : ∀ value, (encode value).Distinct) (value : Option α) :
    (ofOption encode value).Distinct := by
  cases value with
  | none => trivial
  | some value => exact distinct value

/-! ## One line -/

theorem inline_escape (char : Char) : ∀ written ∈ escape char, Inline written := by
  rw [escape]
  split_ifs with quote backslash backspace formFeed lineFeed carriageReturn tab control
  iterate 7 exact inline_of_all rfl
  · exact List.forall_mem_append.mpr ⟨inline_of_all rfl, Hex.inline_digits _⟩
  · exact List.forall_mem_singleton.mpr (Nat.not_lt.mp control)

theorem inline_quote (text : String) : ∀ char ∈ quote text, Inline char := by
  have characters : ∀ char ∈ text.toList.flatMap escape, Inline char := by
    intro written member
    obtain ⟨char, _, part⟩ := List.mem_flatMap.mp member
    exact inline_escape char written part
  rw [quote]
  exact List.forall_mem_append.mpr
    ⟨List.forall_mem_cons.mpr ⟨by decide, characters⟩, inline_of_all rfl⟩

mutual

/-- All of a value's text is on one line. -/
theorem inline_chars : (value : Json) → ∀ char ∈ value.chars, Inline char
  | .null | .bool true | .bool false => by rw [chars]; exact inline_of_all rfl
  | .integer (.ofNat value) => (digits_toDigits value).inline
  | .integer (.negSucc value) =>
      List.forall_mem_cons.mpr ⟨by decide, (digits_toDigits (value + 1)).inline⟩
  | .binary32 value => by
      rw [chars]
      split
      · exact value.literal_text.inline
      · exact inline_of_all rfl
  | .string text => inline_quote text
  | .array elements => by
      rw [chars]
      exact List.forall_mem_append.mpr
        ⟨List.forall_mem_cons.mpr ⟨by decide, inline_elementChars elements⟩, inline_of_all rfl⟩
  | .object members => by
      rw [chars]
      exact List.forall_mem_append.mpr
        ⟨List.forall_mem_cons.mpr ⟨by decide, inline_memberChars members⟩, inline_of_all rfl⟩

theorem inline_elementChars : (elements : List Json) → ∀ char ∈ elementChars elements, Inline char
  | [] => List.forall_mem_nil _
  | [element] => inline_chars element
  | element :: next :: rest => by
      rw [elementChars]
      exact List.forall_mem_append.mpr ⟨inline_chars element,
        List.forall_mem_cons.mpr ⟨by decide, inline_elementChars (next :: rest)⟩⟩

theorem inline_memberChars : (members : List (String × Json)) →
    ∀ char ∈ memberChars members, Inline char
  | [] => List.forall_mem_nil _
  | [(name, value)] => by
      rw [memberChars]
      exact List.forall_mem_append.mpr ⟨inline_quote name,
        List.forall_mem_cons.mpr ⟨by decide, inline_chars value⟩⟩
  | (name, value) :: next :: rest => by
      rw [memberChars, List.append_assoc, List.cons_append]
      exact List.forall_mem_append.mpr ⟨inline_quote name,
        List.forall_mem_cons.mpr ⟨by decide, List.forall_mem_append.mpr ⟨inline_chars value,
          List.forall_mem_cons.mpr ⟨by decide, inline_memberChars (next :: rest)⟩⟩⟩⟩

end

/-! ## Texts -/

theorem hexValue?_digit : ∀ value < 16, hexValue? (Hex.digit value) = some value := by
  decide

/-- A character by its number. -/
theorem codePoint?_hexDigits {number : Nat} (small : number < 256) (rest : List Char) :
    codePoint? ('0' :: '0' :: Hex.digits (UInt8.ofNat number) ++ rest) =
      some (Char.ofNat number, rest) := by
  have value : (UInt8.ofNat number).toNat = number := UInt8.toNat_ofNat_of_lt' small
  have zero : hexValue? '0' = some 0 := rfl
  have high := hexValue?_digit (number / 16) (by omega)
  have low := hexValue?_digit (number % 16) (Nat.mod_lt number (by decide))
  have sum : ((0 * 16 + 0) * 16 + number / 16) * 16 + number % 16 = number := by omega
  simp only [codePoint?, Hex.digits, value, List.cons_append, List.nil_append, unit?, zero, high,
    low, Option.bind_eq_bind, Option.bind_some, sum]
  exact if_pos (.inl (by omega))

/-- An escaped character is read as itself. -/
theorem character?_escape (char : Char) (rest : List Char) :
    character? (escape char ++ rest) = some (char, rest) := by
  rw [escape]
  split_ifs with quote backslash backspace formFeed lineFeed carriageReturn tab control
  · rw [quote]; rfl
  · rw [backslash]; rfl
  · rw [backspace]; rfl
  · rw [formFeed]; rfl
  · rw [lineFeed]; rfl
  · rw [carriageReturn]; rfl
  · rw [tab]; rfl
  · change codePoint? ('0' :: '0' :: Hex.digits (UInt8.ofNat char.toNat) ++ rest) = _
    rw [codePoint?_hexDigits (by omega), Char.ofNat_toNat]
  · simp [character?, backslash, control]

/-- No escaped character is a quote that closes the text. -/
theorem head?_escape_ne (char : Char) : (escape char).head? ≠ some '"' := by
  rw [escape]
  split_ifs with quote backslash backspace formFeed lineFeed carriageReturn tab control
  iterate 8 simp
  · simp [quote]

theorem escape_ne_nil (char : Char) : escape char ≠ [] := by
  rw [escape]
  split_ifs <;> simp

theorem characters?_escape (char : Char) (calls : Nat) (rest : List Char) :
    characters? (calls + 1) (escape char ++ rest) =
      (characters? calls rest).map fun (others, rest) => (char :: others, rest) := by
  have unclosed : ∀ others, escape char ++ rest = '"' :: others → False := by
    intro others closed
    apply head?_escape_ne char
    rw [← List.head?_append_of_ne_nil _ (escape_ne_nil char), closed]
    rfl
  rw [characters?, character?_escape]
  · cases read : characters? calls rest <;> simp [read]
  · exact unclosed

/-- The characters between quotes are read as they are. -/
theorem characters?_quoted (text : List Char) {calls : Nat} (enough : text.length < calls)
    (rest : List Char) :
    characters? calls (text.flatMap escape ++ '"' :: rest) = some (text, rest) := by
  induction text generalizing calls with
  | nil =>
      obtain ⟨calls, rfl⟩ := Nat.exists_eq_add_one_of_ne_zero (Nat.ne_of_gt enough)
      rfl
  | cons char text ih =>
      obtain ⟨calls, rfl⟩ :=
        Nat.exists_eq_add_one_of_ne_zero (Nat.ne_of_gt (Nat.zero_lt_of_lt enough))
      rw [List.flatMap_cons, List.append_assoc, characters?_escape,
        ih (Nat.lt_of_succ_lt_succ enough)]
      rfl

theorem length_lt_quote (text : String) : text.toList.length + 1 < (quote text).length := by
  have each : text.toList.length ≤ (text.toList.flatMap escape).length := by
    induction text.toList with
    | nil => exact Nat.le_refl 0
    | cons char chars ih =>
        have some := List.length_pos_iff.mpr (escape_ne_nil char)
        rw [List.flatMap_cons, List.length_append, List.length_cons]
        omega
  rw [quote, List.length_append, List.length_cons, List.length_singleton]
  omega

/-! ## Values -/

theorem isSpace_of_isDigit {char : Char} (digit : char.isDigit = true) :
    isSpace char = false := by
  rw [Bool.eq_false_iff]
  intro space
  simp only [isSpace, Bool.or_eq_true, beq_iff_eq] at space
  rcases space with ((rfl | rfl) | rfl) | rfl <;> cases digit

/-- What begins as a number does begins with a sign or a digit. -/
theorem numeral_eq_cons (negative : Bool) {whole : List Char} (given : Whole whole)
    (chars : List Char) :
    ∃ first others, signChars negative ++ whole ++ chars = first :: others ∧
      (first = '-' ∨ first.isDigit = true) := by
  obtain ⟨first, others, rfl⟩ := List.exists_cons_of_ne_nil given.some
  cases negative with
  | true => exact ⟨'-', _, rfl, .inl rfl⟩
  | false => exact ⟨first, _, rfl, .inr (given.digits first List.mem_cons_self)⟩

theorem isSpace_of_numeral {first : Char} (starts : first = '-' ∨ first.isDigit = true) :
    isSpace first = false := by
  obtain rfl | digit := starts
  · rfl
  · exact isSpace_of_isDigit digit

theorem skip_cons {first : Char} (unspaced : isSpace first = false) (others : List Char) :
    skip (first :: others) = first :: others := by
  rw [skip, List.dropWhile_cons_of_neg (by rw [unspaced]; decide)]

/-- What begins as a number does is read as one. -/
theorem value?_number (negative : Bool) {whole : List Char} (given : Whole whole)
    (chars : List Char) (calls : Nat) :
    value? (calls + 1) (signChars negative ++ whole ++ chars) =
      number? (signChars negative ++ whole ++ chars) := by
  obtain ⟨first, others, shape, starts⟩ := numeral_eq_cons negative given chars
  have other {letter : Char} (apart : ¬(letter = '-' ∨ letter.isDigit = true)) :
      first ≠ letter := by
    rintro rfl
    exact apart starts
  rw [shape, value?, skip_cons (isSpace_of_numeral starts)]
  split
  iterate 6
    next same => exact absurd (List.cons.inj same).1 (other (by decide))
  rfl

theorem value?_literal {literal : List Char} (given : Literal literal) {rest : List Char}
    (closes : Closes rest) (calls : Nat) :
    value? (calls + 1) (literal ++ rest) = some (.fractional literal, rest) := by
  rw [← number?_literal given closes]
  obtain ⟨negative, whole, behind, wholePart, rfl⟩ := given.exists_whole
  rw [List.append_assoc]
  exact value?_number negative wholePart _ calls

theorem value?_integer (value : Int) {rest : List Char} (closes : Closes rest) (calls : Nat) :
    value? (calls + 1) ((integer value).chars ++ rest) = some (.integer value, rest) := by
  obtain ⟨negative, number, shape, meaning⟩ : ∃ (negative : Bool) (number : Nat),
      (integer value).chars = signChars negative ++ Nat.toDigits 10 number ∧
        (if negative then -(number : Int) else number) = value := by
    cases value with
    | ofNat number => exact ⟨false, number, rfl, rfl⟩
    | negSucc number => exact ⟨true, number + 1, rfl, rfl⟩
  have read := number?_append negative (whole_toDigits number) .missing .missing closes
  rw [List.append_nil, List.append_nil, Nat.ofDigitChars_ten_toDigits, meaning] at read
  rw [shape, value?_number negative (whole_toDigits number), read]
  rfl

/-- What a value begins with is no blank and does not close an array. -/
theorem chars_eq_cons (value : Json) :
    ∃ first others, value.chars = first :: others ∧ isSpace first = false ∧ first ≠ ']' := by
  have numeral (negative : Bool) {whole : List Char} (given : Whole whole) (chars : List Char) :
      ∃ first others, signChars negative ++ whole ++ chars = first :: others ∧
        isSpace first = false ∧ first ≠ ']' := by
    obtain ⟨first, others, shape, starts⟩ := numeral_eq_cons negative given chars
    refine ⟨first, others, shape, isSpace_of_numeral starts, ?_⟩
    rintro rfl
    exact absurd starts (by decide)
  cases value with
  | null => exact ⟨_, _, rfl, rfl, by decide⟩
  | bool value => cases value <;> exact ⟨_, _, rfl, rfl, by decide⟩
  | integer value =>
      cases value with
      | ofNat number =>
          have shape := numeral false (whole_toDigits number) []
          rw [List.append_nil] at shape
          exact shape
      | negSucc number => exact ⟨_, _, rfl, rfl, by decide⟩
  | binary32 value =>
      rw [chars]
      split
      · obtain ⟨negative, whole, behind, wholePart, shape⟩ := value.literal_text.exists_whole
        rw [shape]
        exact numeral negative wholePart behind
      · exact ⟨_, _, rfl, rfl, by decide⟩
  | string text => exact ⟨_, _, rfl, rfl, by decide⟩
  | array elements => exact ⟨_, _, rfl, rfl, by decide⟩
  | object members => exact ⟨_, _, rfl, rfl, by decide⟩

/-- An array that is not empty. -/
theorem value?_array {first : Char} (unspaced : isSpace first = false) (unclosed : first ≠ ']')
    (others : List Char) (calls : Nat) :
    value? (calls + 1) ('[' :: first :: others) =
      (elements? calls (first :: others)).map fun (elements, rest) =>
        (.array elements, rest) := by
  have opened : skip ('[' :: first :: others) = '[' :: first :: others := rfl
  simp only [value?, opened, skip_cons unspaced]
  split
  next same => exact absurd (List.cons.inj same).1 unclosed
  next => cases read : elements? calls (first :: others) <;> simp

theorem elementChars_eq_cons (element : Json) (rest : List Json) :
    ∃ first others, elementChars (element :: rest) = first :: others ∧
      isSpace first = false ∧ first ≠ ']' := by
  obtain ⟨first, others, shape, opens⟩ := element.chars_eq_cons
  cases rest with
  | nil => exact ⟨first, others, shape, opens⟩
  | cons next rest =>
      rw [elementChars, shape]
      exact ⟨first, _, rfl, opens⟩

theorem memberChars_eq_cons (name : String) (value : Json) (rest : List (String × Json)) :
    ∃ others, memberChars ((name, value) :: rest) = '"' :: others := by
  cases rest <;> exact ⟨_, rfl⟩

/-- An object that is not empty. -/
theorem value?_object (others : List Char) (calls : Nat) :
    value? (calls + 1) ('{' :: '"' :: others) = (do
      let (members, rest) ← members? calls ('"' :: others)
      if (members.map Prod.fst).Nodup then some (.object members, rest) else none) := rfl

theorem skip_comma (chars : List Char) : skip (',' :: chars) = ',' :: chars := rfl

/-- A name is read as it is. -/
theorem name?_quote (name : String) {calls : Nat} (room : name.toList.length < calls)
    (rest : List Char) : name? calls (quote name ++ ':' :: rest) = some (name, rest) := by
  have opened : skip (quote name ++ ':' :: rest) =
      '"' :: (name.toList.flatMap escape ++ '"' :: ':' :: rest) := by
    rw [quote, List.append_assoc]
    rfl
  have colon : skip (':' :: rest) = ':' :: rest := rfl
  simp only [name?, opened, characters?_quoted name.toList room, colon, Option.bind_eq_bind,
    Option.bind_some, String.ofList_toList]

mutual

/-- A value's text is read as what the value says, whatever follows. -/
theorem value?_chars : (value : Json) → value.Distinct → {calls : Nat} → {rest : List Char} →
    value.chars.length ≤ calls → Closes rest →
      value? calls (value.chars ++ rest) = some (value.document, rest)
  | .null, _, calls + 1, rest, _, _ => rfl
  | .bool true, _, calls + 1, rest, _, _ => rfl
  | .bool false, _, calls + 1, rest, _, _ => rfl
  | .integer value, _, calls + 1, rest, _, closes => value?_integer value closes calls
  | .binary32 value, _, calls + 1, rest, _, closes => by
      rw [chars, document]
      split
      · exact value?_literal value.literal_text closes calls
      · rfl
  | .string text, _, calls + 1, rest, enough, _ => by
      have room := length_lt_quote text
      rw [chars] at enough
      rw [chars, quote, List.append_assoc, document]
      change (do
        let (chars, rest) ← characters? calls (text.toList.flatMap escape ++ '"' :: rest)
        some (Document.string (.ofList chars), rest)) = _
      rw [characters?_quoted text.toList (by omega) rest]
      simp
  | .array [], _, calls + 1, rest, _, _ => rfl
  | .array (element :: others), distinct, calls + 1, rest, enough, _ => by
      rw [chars, List.length_append, List.length_cons, List.length_singleton] at enough
      obtain ⟨first, more, shape, unspaced, unclosed⟩ := elementChars_eq_cons element others
      have read : elements? calls (elementChars (element :: others) ++ ']' :: rest) =
          some (documents (element :: others), rest) :=
        elements?_chars element others distinct.1 distinct.2 (by omega)
      have text : (array (element :: others)).chars ++ rest =
          '[' :: first :: (more ++ ']' :: rest) := by
        rw [chars, shape]
        simp
      rw [shape, List.cons_append] at read
      rw [text, value?_array unspaced unclosed, read]
      rfl
  | .object [], _, calls + 1, rest, _, _ => rfl
  | .object ((name, value) :: others), distinct, calls + 1, rest, enough, _ => by
      rw [chars, List.length_append, List.length_cons, List.length_singleton] at enough
      obtain ⟨more, shape⟩ := memberChars_eq_cons name value others
      have read : members? calls (memberChars ((name, value) :: others) ++ '}' :: rest) =
          some (memberDocuments ((name, value) :: others), rest) :=
        members?_chars name value others distinct.2.1 distinct.2.2 (by omega)
      have names : ((memberDocuments ((name, value) :: others)).map Prod.fst).Nodup := by
        rw [memberDocuments_eq_map, List.map_map]
        exact distinct.1
      have text : (object ((name, value) :: others)).chars ++ rest =
          '{' :: '"' :: (more ++ '}' :: rest) := by
        rw [chars, shape]
        simp
      rw [shape, List.cons_append] at read
      rw [text, value?_object, read]
      exact if_pos names
  | value, _, 0, _, enough, _ => by
      obtain ⟨first, others, shape, _⟩ := value.chars_eq_cons
      rw [shape] at enough
      cases enough

theorem elements?_chars : (element : Json) → (others : List Json) → element.Distinct →
    AllDistinct others → {calls : Nat} → {rest : List Char} →
      (elementChars (element :: others)).length < calls →
        elements? calls (elementChars (element :: others) ++ ']' :: rest) =
          some (documents (element :: others), rest)
  | element, [], distinct, _, calls + 1, rest, enough => by
      have closes := closes_cons (.inr (.inl rfl)) rest
      have read := value?_chars element distinct (Nat.le_of_lt_succ enough) closes
      rw [elementChars]
      simp only [elements?, read, Option.bind_eq_bind, Option.bind_some]
      rfl
  | element, next :: others, distinct, allDistinct, calls + 1, rest, enough => by
      have closes := closes_cons (.inl rfl) (elementChars (next :: others) ++ ']' :: rest)
      rw [elementChars, List.length_append, List.length_cons] at enough
      have fits : element.chars.length ≤ calls := by omega
      have read := value?_chars element distinct fits closes
      have more : elements? calls (elementChars (next :: others) ++ ']' :: rest) =
          some (documents (next :: others), rest) :=
        elements?_chars next others allDistinct.1 allDistinct.2 (by omega)
      rw [elementChars, List.append_assoc, List.cons_append]
      simp only [elements?, read, skip_comma, more, Option.bind_eq_bind, Option.bind_some]
      rfl

theorem members?_chars : (name : String) → (value : Json) → (others : List (String × Json)) →
    value.Distinct → MembersDistinct others → {calls : Nat} → {rest : List Char} →
      (memberChars ((name, value) :: others)).length < calls →
        members? calls (memberChars ((name, value) :: others) ++ '}' :: rest) =
          some (memberDocuments ((name, value) :: others), rest)
  | name, value, [], distinct, _, calls + 1, rest, enough => by
      have closes := closes_cons (.inr (.inr rfl)) rest
      have length := length_lt_quote name
      rw [memberChars, List.length_append, List.length_cons] at enough
      have room : name.toList.length < calls := by omega
      have fits : value.chars.length ≤ calls := by omega
      have named := name?_quote name room (value.chars ++ '}' :: rest)
      have read := value?_chars value distinct fits closes
      rw [memberChars, List.append_assoc, List.cons_append]
      simp only [members?, named, read, Option.bind_eq_bind, Option.bind_some]
      rfl
  | name, value, (nextName, nextValue) :: others, distinct, allDistinct, calls + 1, rest,
      enough => by
      have closes := closes_cons (.inl rfl)
        (memberChars ((nextName, nextValue) :: others) ++ '}' :: rest)
      have length := length_lt_quote name
      rw [memberChars, List.length_append, List.length_append, List.length_cons,
        List.length_cons] at enough
      have room : name.toList.length < calls := by omega
      have fits : value.chars.length ≤ calls := by omega
      have named := name?_quote name room (value.chars ++
        ',' :: (memberChars ((nextName, nextValue) :: others) ++ '}' :: rest))
      have read := value?_chars value distinct fits closes
      have more : members? calls (memberChars ((nextName, nextValue) :: others) ++
          '}' :: rest) = some (memberDocuments ((nextName, nextValue) :: others), rest) :=
        members?_chars nextName nextValue others allDistinct.1 allDistinct.2 (by omega)
      rw [memberChars, List.append_assoc, List.append_assoc, List.cons_append, List.cons_append]
      simp only [members?, named, read, skip_comma, more, Option.bind_eq_bind, Option.bind_some]
      rfl

end

/-- A value's text is read as what the value says. -/
theorem read?_render {value : Json} (distinct : value.Distinct) :
    read? value.render = some value.document := by
  have read := value?_chars value distinct (Nat.le_refl _) closes_nil
  rw [List.append_nil] at read
  rw [read?, render, String.length_ofList, String.toList_ofList, read]
  rfl

end Json

end RadioSnapshot
