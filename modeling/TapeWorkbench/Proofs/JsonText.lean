import Mathlib.Tactic.SplitIfs
import TapeWorkbench.Json.Printer
import TapeWorkbench.Json.Reader
import TapeWorkbench.Proofs.Numeral

/-!
# JSON texts of values

`Spells` says which characters are a text of a value, for the values that the printers are
given: numbers are numerals of natural numbers and strings have a text.  It leaves open how much
white space there is between the tokens, and so covers both printers.

The reader gives back the value of every such text (`read?_of_spells`).  Both printers write
texts of the value they are given (`writes_compactOnto`, `writes_indentedOnto`), whence what
they write is read back as what was written (`read?_compact`, `read?_indented`).
-/

namespace TapeWorkbench
namespace Json

/-- White space alone. -/
def Blank (gap : List Char) : Prop :=
  ∀ c ∈ gap, isSpace c = true

/-- A text as a string between its quotation marks. -/
def quotedChars (text : String) : List Char :=
  '"' :: (text.toList.flatMap escaped ++ ['"'])

/-- Texts of the items of a list, with commas between them. -/
inductive Separated {α : Type} (spells : α → List Char → Prop) : List α → List Char → Prop
  | last {item chars} : spells item chars → Separated spells [item] chars
  | more {item chars before after items rest} : spells item chars → Blank before → Blank after →
      Separated spells items rest →
      Separated spells (item :: items) (chars ++ (before ++ ',' :: (after ++ rest)))

mutual

/-- The characters are a text of the value, without white space around it. -/
inductive Spells : Value → List Char → Prop
  | null : Spells .null ['n', 'u', 'l', 'l']
  | boolTrue : Spells (.bool true) ['t', 'r', 'u', 'e']
  | boolFalse : Spells (.bool false) ['f', 'a', 'l', 's', 'e']
  | number (number : Nat) : Spells (.number (Decimal.digits number)) (Decimal.digits number)
  | string (text : String) : Spells (.string (some text)) (quotedChars text)
  | emptyArray {gap} : Blank gap → Spells (.array []) ('[' :: (gap ++ [']']))
  | array {before after elements chars} : Blank before → Blank after →
      Separated Spells elements chars →
      Spells (.array elements) ('[' :: (before ++ (chars ++ (after ++ [']']))))
  | emptyObject {gap} : Blank gap → Spells (.object []) ('{' :: (gap ++ ['}']))
  | object {before after members chars} : Blank before → Blank after →
      Separated SpellsMember members chars →
      Spells (.object members) ('{' :: (before ++ (chars ++ (after ++ ['}']))))

/-- The characters are a text of an object's member. -/
inductive SpellsMember : Option String × Value → List Char → Prop
  | member (name : String) {value before after chars} : Blank before → Blank after →
      Spells value chars →
      SpellsMember (some name, value)
        (quotedChars name ++ (before ++ ':' :: (after ++ chars)))

end

section WhiteSpace

theorem blank_nil : Blank [] := by
  simp [Blank]

theorem skipSpace_append {gap rest : List Char} (blank : Blank gap) :
    skipSpace (gap ++ rest) = skipSpace rest :=
  List.dropWhile_append_of_pos blank

theorem skipSpace_cons {c : Char} {rest : List Char} (solid : isSpace c = false) :
    skipSpace (c :: rest) = c :: rest := by
  simp [skipSpace, solid]

theorem skipSpace_gap {gap rest : List Char} {c : Char} (blank : Blank gap)
    (solid : isSpace c = false) : skipSpace (gap ++ c :: rest) = c :: rest := by
  rw [skipSpace_append blank, skipSpace_cons solid]

end WhiteSpace

section Strings

theorem hexNumber?_control : ∀ code < 32,
    hexNumber? ['0', '0', hexDigitChar (code / 16), hexDigitChar (code % 16)] = some code := by
  decide

/-- An escaped character is read as that character. -/
theorem readItems_escaped (done : List StringItem) (c : Char) (rest : List Char) :
    readItems done (escaped c ++ rest) = readItems (.char c :: done) rest := by
  unfold escaped
  split_ifs with quote backslash backspace tab feed page carriage control
  · subst quote; rfl
  · subst backslash; rfl
  · subst backspace; rfl
  · subst tab; rfl
  · subst feed; rfl
  · subst page; rfl
  · subst carriage; rfl
  · have plain : StringItem.ofCode c.toNat = .char c := by
      have low : ¬ 0xD800 ≤ c.toNat := by omega
      simp [StringItem.ofCode, low]
    simp only [List.cons_append, List.nil_append, readItems]
    rw [hexNumber?_control _ control]
    simp only [plain]
  · simp [readItems, backslash, control]

theorem readItems_flatMap (done : List StringItem) (text rest : List Char) :
    readItems done (text.flatMap escaped ++ '"' :: rest) =
      some (done.reverse ++ text.map .char, rest) := by
  induction text generalizing done with
  | nil => simp [readItems]
  | cons c text ih =>
      rw [List.flatMap_cons, List.append_assoc, readItems_escaped, ih]
      simp

theorem textAfter?_map_char (done text : List Char) :
    StringItem.textAfter? done (text.map .char) = some (String.ofList (done.reverse ++ text)) := by
  induction text generalizing done with
  | nil => simp [StringItem.textAfter?]
  | cons c text ih => simp [StringItem.textAfter?, ih]

theorem readString_quoted (text : String) (rest : List Char) :
    readString (text.toList.flatMap escaped ++ '"' :: rest) = some (some text, rest) := by
  simp [readString, readItems_flatMap, textAfter?_map_char]

end Strings

/-- What can follow a value: white space, a comma, a closing bracket or nothing. -/
def EndsValue (rest : List Char) : Prop :=
  ∀ c ∈ rest.head?, isSpace c = true ∨ c = ',' ∨ c = ']' ∨ c = '}'

section Numbers

theorem endsValue_gap {gap rest : List Char} (blank : Blank gap) (ends : EndsValue rest) :
    EndsValue (gap ++ rest) := by
  cases gap with
  | nil => exact ends
  | cons c gap =>
      intro first member
      obtain rfl : c = first := by simpa using member
      exact .inl (blank c (by simp))

/-- No number goes on with a character that can follow a value. -/
theorem EndsValue.cases {rest : List Char} (ends : EndsValue rest) :
    rest = [] ∨ ∃ c behind, rest = c :: behind ∧ Decimal.isDigit c = false ∧ c ≠ '.' ∧
      c ≠ 'e' ∧ c ≠ 'E' := by
  cases rest with
  | nil => exact .inl rfl
  | cons c behind =>
      refine .inr ⟨c, behind, rfl, ?_⟩
      have chars : c = ' ' ∨ c = '\t' ∨ c = '\n' ∨ c = '\r' ∨ c = ',' ∨ c = ']' ∨ c = '}' := by
        simpa [isSpace, or_assoc] using ends c (by simp)
      rcases chars with rfl | rfl | rfl | rfl | rfl | rfl | rfl <;> decide

theorem takeWhile_isDigit_digits (number : Nat) {rest : List Char} (ends : EndsValue rest) :
    (Decimal.digits number ++ rest).takeWhile Decimal.isDigit = Decimal.digits number ∧
      (Decimal.digits number ++ rest).dropWhile Decimal.isDigit = rest := by
  rw [List.takeWhile_append_of_pos fun c member => Decimal.isDigit_of_mem_digits member,
    List.dropWhile_append_of_pos fun c member => Decimal.isDigit_of_mem_digits member]
  rcases ends.cases with rfl | ⟨c, behind, rfl, stop, -⟩
  · simp
  · simp [stop]

theorem readWhole_digits (number : Nat) {rest : List Char} (ends : EndsValue rest) :
    readWhole (Decimal.digits number ++ rest) = some (Decimal.digits number, rest) := by
  rcases Nat.eq_zero_or_pos number with rfl | positive
  · simp [Decimal.digits_zero, readWhole]
  · obtain ⟨taken, left⟩ := takeWhile_isDigit_digits number ends
    have leading := Decimal.head?_digits_ne_zero positive
    have first := fun c => @Decimal.isDigit_of_mem_digits number c
    cases digits : Decimal.digits number with
    | nil => exact absurd digits (Decimal.digits_ne_nil number)
    | cons d ds =>
        rw [digits] at taken left leading first
        have nonzero : d ≠ '0' := by simpa using leading
        have start : ((d :: ds) ++ rest).head?.any Decimal.isDigit = true := by
          simpa using first d (by simp)
        have whole : readWhole (d :: ds ++ rest) = readDigits (d :: ds ++ rest) := by
          simp [readWhole, nonzero]
        rw [whole, readDigits, if_pos start, taken, left]

/-- A numeral is read as it stands. -/
theorem readNumber_digits (number : Nat) {rest : List Char} (ends : EndsValue rest) :
    readNumber (Decimal.digits number ++ rest) = some (Decimal.digits number, rest) := by
  have unsigned : ∀ c ∈ (Decimal.digits number ++ rest).head?, c ≠ '-' := by
    intro c member
    have digit : Decimal.isDigit c = true := by
      apply Decimal.isDigit_of_mem_digits
      rw [List.head?_append, Option.or_of_isSome
        (List.isSome_head?.mpr (Decimal.digits_ne_nil number))] at member
      exact List.mem_of_mem_head? member
    rintro rfl
    exact absurd digit (by decide)
  have fraction : readFraction rest = some ([], rest) := by
    rcases ends.cases with rfl | ⟨c, behind, rfl, -, point, -⟩
    · rfl
    · simp [readFraction, point]
  have exponent : readExponent rest = some ([], rest) := by
    rcases ends.cases with rfl | ⟨c, behind, rfl, -, -, lower, upper⟩
    · rfl
    · simp [readExponent, lower, upper]
  rw [readNumber]
  · simp [readWhole_digits number ends, fraction, exponent]
  · intro behind minus
    exact unsigned '-' (by simp [minus]) rfl

end Numbers

section Values

/-- A text of a value begins with no white space and closes no bracket. -/
theorem Spells.begins {value : Value} {chars : List Char} (spelled : Spells value chars) :
    ∃ c behind, chars = c :: behind ∧ isSpace c = false ∧ c ≠ ']' := by
  cases spelled with
  | number number =>
      cases digits : Decimal.digits number with
      | nil => exact absurd digits (Decimal.digits_ne_nil number)
      | cons c behind =>
          have digit : Decimal.isDigit c = true :=
            Decimal.isDigit_of_mem_digits (digits ▸ List.mem_cons_self)
          refine ⟨c, behind, rfl, ?_, ?_⟩
          · rw [Bool.eq_false_iff]
            intro space
            have chars : c = ' ' ∨ c = '\t' ∨ c = '\n' ∨ c = '\r' := by
              simpa [isSpace, or_assoc] using space
            rcases chars with rfl | rfl | rfl | rfl <;> exact absurd digit (by decide)
          · rintro rfl
            exact absurd digit (by decide)
  | _ => exact ⟨_, _, rfl, by decide, by decide⟩

theorem SpellsMember.begins {member : Option String × Value} {chars : List Char}
    (spelled : SpellsMember member chars) : ∃ behind, chars = '"' :: behind := by
  cases spelled
  exact ⟨_, rfl⟩

/-- Texts of a list begin with a text of its first item. -/
theorem Separated.begins {α : Type} {spells : α → List Char → Prop} {items : List α}
    {chars : List Char} (separated : Separated spells items chars) :
    ∃ item first behind, spells item first ∧ chars = first ++ behind := by
  cases separated with
  | last spelled => exact ⟨_, _, [], spelled, by simp⟩
  | more spelled => exact ⟨_, _, _, spelled, rfl⟩

theorem readValue_number (bound number : Nat) {gap rest : List Char} (blank : Blank gap)
    (ends : EndsValue rest) :
    readValue (bound + 1) (gap ++ (Decimal.digits number ++ rest)) =
      some (.number (Decimal.digits number), rest) := by
  have read := readNumber_digits number ends
  have spelled := Spells.number number
  obtain ⟨c, behind, digits, solid, -⟩ := spelled.begins
  have digit : Decimal.isDigit c = true :=
    Decimal.isDigit_of_mem_digits (digits ▸ List.mem_cons_self)
  rw [digits, List.cons_append] at read
  rw [digits, List.cons_append, readValue, skipSpace_gap blank solid]
  split
  case h_7 => rw [read]; rfl
  all_goals
    rename_i equal
    obtain ⟨rfl, -⟩ := List.cons.inj equal
    exact absurd digit (by decide)

/-- With the bound, every text of a value that is not longer is read as the value. -/
def ReadsValues (bound : Nat) : Prop :=
  ∀ {value chars gap rest}, Spells value chars → Blank gap → EndsValue rest →
    chars.length ≤ bound → readValue bound (gap ++ (chars ++ rest)) = some (value, rest)

/-- With the bound, every text of elements that is shorter is read as those elements. -/
def ReadsElements (bound : Nat) : Prop :=
  ∀ {elements chars before after}, Separated Spells elements chars →
    Blank before → Blank after → chars.length < bound → ∀ done rest,
      readElements bound done (before ++ (chars ++ (after ++ ']' :: rest))) =
        some (.array (done.reverse ++ elements), rest)

/-- With the bound, every text of members that is shorter is read as those members. -/
def ReadsMembers (bound : Nat) : Prop :=
  ∀ {members chars before after}, Separated SpellsMember members chars →
    Blank before → Blank after → chars.length < bound → ∀ done rest,
      readMembers bound done (before ++ (chars ++ (after ++ '}' :: rest))) =
        some (.object (done.reverse ++ members), rest)

theorem readsValues_zero : ReadsValues 0 := by
  intro value chars gap rest spelled _ _ short
  obtain ⟨c, behind, rfl, -⟩ := spelled.begins
  simp at short

theorem readsValues_succ {bound : Nat} (elements : ReadsElements bound)
    (members : ReadsMembers bound) : ReadsValues (bound + 1) := by
  intro value chars gap rest spelled blank ends short
  cases spelled with
  | null | boolTrue | boolFalse =>
      rw [readValue, List.cons_append, skipSpace_gap blank (by decide)]
      rfl
  | number number => exact readValue_number bound number blank ends
  | string text =>
      rw [readValue, quotedChars, List.cons_append, skipSpace_gap blank (by decide),
        List.append_assoc]
      simp [readString_quoted]
  | emptyArray empty =>
      rw [readValue, List.cons_append, skipSpace_gap blank (by decide), List.append_assoc]
      simp only [List.cons_append, List.nil_append,
        skipSpace_gap empty (by decide : isSpace ']' = false)]
  | array blankBefore blankAfter separated =>
      simp only [List.length_cons, List.length_append, List.length_nil] at short
      have inner := elements separated blankBefore blankAfter (by omega) [] rest
      obtain ⟨item, _, behind, spelled, rfl⟩ := separated.begins
      obtain ⟨c, chars, rfl, solid, closing⟩ := spelled.begins
      rw [readValue, List.cons_append, skipSpace_gap blank (by decide)]
      simp only [List.append_assoc, List.cons_append, List.nil_append] at inner ⊢
      rw [skipSpace_gap blankBefore solid, inner]
      split
      · simp_all
      · rfl
  | emptyObject empty =>
      rw [readValue, List.cons_append, skipSpace_gap blank (by decide), List.append_assoc]
      simp only [List.cons_append, List.nil_append,
        skipSpace_gap empty (by decide : isSpace '}' = false)]
  | object blankBefore blankAfter separated =>
      simp only [List.length_cons, List.length_append, List.length_nil] at short
      have inner := members separated blankBefore blankAfter (by omega) [] rest
      obtain ⟨member, _, behind, spelled, rfl⟩ := separated.begins
      obtain ⟨chars, rfl⟩ := spelled.begins
      rw [readValue, List.cons_append, skipSpace_gap blank (by decide)]
      simp only [List.append_assoc, List.cons_append, List.nil_append] at inner ⊢
      rw [skipSpace_gap blankBefore (by decide : isSpace '"' = false), inner]
      split
      · simp_all
      · rfl

theorem endsValue_cons {c : Char} {rest : List Char} (closing : c = ',' ∨ c = ']' ∨ c = '}') :
    EndsValue (c :: rest) := by
  intro first member
  obtain rfl : c = first := by simpa using member
  exact .inr closing

theorem readsElements_succ {bound : Nat} (values : ReadsValues bound)
    (elements : ReadsElements bound) : ReadsElements (bound + 1) := by
  intro items chars before after separated blankBefore blankAfter short done rest
  cases separated with
  | last spelled =>
      have closed : EndsValue (after ++ ']' :: rest) :=
        endsValue_gap blankAfter (endsValue_cons (by simp))
      rw [readElements, values spelled blankBefore closed (by omega)]
      simp [skipSpace_gap blankAfter (by decide : isSpace ']' = false)]
  | more spelled blankComma blankNext separated =>
      rename_i item chars beforeComma afterComma items behind
      simp only [List.length_cons, List.length_append] at short
      have closed : EndsValue (beforeComma ++ ',' :: (afterComma ++
          (behind ++ (after ++ ']' :: rest)))) :=
        endsValue_gap blankComma (endsValue_cons (by simp))
      have first := values spelled blankBefore closed (by omega)
      have others := elements separated blankNext blankAfter (by omega) (item :: done) rest
      simp only [List.append_assoc, List.cons_append]
      rw [readElements, first]
      simp [skipSpace_gap blankComma (by decide : isSpace ',' = false), others]

/-- A member of an object is read, and then what follows its value decides. -/
theorem readMembers_member {bound : Nat} (values : ReadsValues bound)
    {member : Option String × Value} {chars : List Char} (spelled : SpellsMember member chars)
    (done : List (Option String × Value)) {gap rest : List Char} (blank : Blank gap)
    (ends : EndsValue rest) (short : chars.length ≤ bound) :
    (∀ behind, skipSpace rest = ',' :: behind →
      readMembers (bound + 1) done (gap ++ (chars ++ rest)) =
        readMembers bound (member :: done) behind) ∧
    (∀ behind, skipSpace rest = '}' :: behind →
      readMembers (bound + 1) done (gap ++ (chars ++ rest)) =
        some (.object (member :: done).reverse, behind)) := by
  cases spelled with
  | member name blankColon blankValue value =>
      simp only [List.length_cons, List.length_append] at short
      have read := values value blankValue ends (by omega)
      simp only [quotedChars, List.append_assoc, List.cons_append, List.nil_append]
      rw [readMembers, skipSpace_gap blank (by decide)]
      simp only [readString_quoted, skipSpace_gap blankColon (by decide : isSpace ':' = false),
        read]
      constructor
      · intro behind comma
        simp only [comma]
      · intro behind closing
        simp only [closing]

theorem readsMembers_succ {bound : Nat} (values : ReadsValues bound)
    (members : ReadsMembers bound) : ReadsMembers (bound + 1) := by
  intro items chars before after separated blankBefore blankAfter short done rest
  cases separated with
  | last spelled =>
      have closed : EndsValue (after ++ '}' :: rest) :=
        endsValue_gap blankAfter (endsValue_cons (by simp))
      have closing : skipSpace (after ++ '}' :: rest) = '}' :: rest :=
        skipSpace_gap blankAfter (by decide)
      rw [(readMembers_member values spelled done blankBefore closed (by omega)).2 _ closing]
      simp
  | more spelled blankComma blankNext separated =>
      rename_i item chars beforeComma afterComma items behind
      simp only [List.length_cons, List.length_append] at short
      have closed : EndsValue (beforeComma ++ ',' :: (afterComma ++
          (behind ++ (after ++ '}' :: rest)))) :=
        endsValue_gap blankComma (endsValue_cons (by simp))
      have comma : skipSpace (beforeComma ++ ',' :: (afterComma ++
          (behind ++ (after ++ '}' :: rest)))) = ',' :: (afterComma ++
            (behind ++ (after ++ '}' :: rest))) := skipSpace_gap blankComma (by decide)
      have first := (readMembers_member values spelled done blankBefore closed (by omega)).1 _ comma
      have others := members separated blankNext blankAfter (by omega) (item :: done) rest
      simp only [List.append_assoc, List.cons_append]
      rw [first, others]
      simp

/-- The three reading functions, for every bound: each calls the others with the next smaller
bound, and a text is longer than those of its parts. -/
theorem reads (bound : Nat) : ReadsValues bound ∧ ReadsElements bound ∧ ReadsMembers bound := by
  induction bound with
  | zero =>
      refine ⟨readsValues_zero, ?_, ?_⟩
      · intro elements chars before after separated _ _ short
        exact absurd short (Nat.not_lt_zero _)
      · intro members chars before after separated _ _ short
        exact absurd short (Nat.not_lt_zero _)
  | succ bound ih =>
      obtain ⟨values, elements, members⟩ := ih
      exact ⟨readsValues_succ elements members, readsElements_succ values elements,
        readsMembers_succ values members⟩

/-- A text of a value is read as that value, with white space behind it or without. -/
theorem read?_of_spells_gap {value : Value} {text : String} {chars gap : List Char}
    (spelled : Spells value chars) (blank : Blank gap) (parts : text.toList = chars ++ gap) :
    read? text = some value := by
  have values : ReadsValues (2 * text.toList.length + 2) := (reads _).1
  have bare : EndsValue [] := by simp [EndsValue]
  have ends : EndsValue gap := by simpa using endsValue_gap blank bare
  have nothing : skipSpace gap = [] := by
    rw [← List.append_nil gap, skipSpace_append blank]
    rfl
  have short : chars.length ≤ 2 * text.toList.length + 2 := by
    rw [parts, List.length_append]
    omega
  have read := values spelled blank_nil ends short
  rw [List.nil_append, ← parts] at read
  rw [Json.read?]
  simp only [read, nothing]
  rfl

theorem read?_of_spells {value : Value} {text : String} (spelled : Spells value text.toList) :
    read? text = some value :=
  read?_of_spells_gap spelled blank_nil (List.append_nil _).symm

end Values

/-- A value whose numbers are natural numbers and whose strings and names have a text. -/
inductive Plain : Value → Prop
  | null : Plain .null
  | bool (value : Bool) : Plain (.bool value)
  | number (number : Nat) : Plain (.number (Decimal.digits number))
  | string (text : String) : Plain (.string (some text))
  | array {elements} : (∀ element ∈ elements, Plain element) → Plain (.array elements)
  | object {members} : (∀ member ∈ members, member.1.isSome) →
      (∀ member ∈ members, Plain member.2) → Plain (.object members)

/-- Behind what is written already, the function writes a text of the item. -/
def Writes {α : Type} (spells : α → List Char → Prop) (write : String → α → String)
    (item : α) : Prop :=
  ∀ written, ∃ chars, (write written item).toList = written.toList ++ chars ∧ spells item chars

section Printers

theorem toList_quotedText (text : String) : (quotedText (some text)).toList = quotedChars text := by
  simp [quotedText, quoted, quotedChars]

theorem blank_newline (depth : Nat) : Blank (newline depth).toList := by
  intro c member
  have space : c = '\n' ∨ c = ' ' := by
    simp only [newline, String.toList_append, String.toList_ofList, List.mem_append,
      List.mem_replicate] at member
    rcases member with feed | ⟨-, space⟩
    · exact .inl (by simpa using feed)
    · exact .inr space
  rcases space with rfl | rfl <;> decide

theorem toList_comma_newline (depth : Nat) :
    ("," ++ newline depth).toList = ',' :: (newline depth).toList :=
  String.toList_append

/-- Items written one after the other, a comma and white space between them. -/
theorem writes_separated {α : Type} {spells : α → List Char → Prop}
    {write : String → α → String} {writeAll : String → List α → String}
    {separator : String} {gap : List Char} (comma : separator.toList = ',' :: gap)
    (blank : Blank gap) (one : ∀ written item, writeAll written [item] = write written item)
    (more : ∀ written item next items, writeAll written (item :: next :: items) =
      writeAll (write written item ++ separator) (next :: items))
    {items : List α} (each : ∀ item ∈ items, Writes spells write item) (nonempty : items ≠ []) :
    Writes (Separated spells) writeAll items := by
  induction items with
  | nil => exact absurd rfl nonempty
  | cons item items ih =>
      intro written
      obtain ⟨first, wrote, spelled⟩ := each item (by simp) written
      cases items with
      | nil => exact ⟨first, by rw [one, wrote], .last spelled⟩
      | cons next items =>
          obtain ⟨others, wroteOthers, separated⟩ := ih
            (fun other member => each other (List.mem_cons_of_mem _ member)) (by simp)
            (write written item ++ separator)
          refine ⟨first ++ ([] ++ ',' :: (gap ++ others)), ?_,
            .more spelled blank_nil blank separated⟩
          rw [more, wroteOthers, String.toList_append, wrote, comma]
          simp

theorem writes_member {write : String → Value → String} {colon : String} {gap : List Char}
    (spelling : colon.toList = ':' :: gap) (blank : Blank gap) {member : Option String × Value}
    (named : member.1.isSome) (value : Writes Spells write member.2) :
    Writes SpellsMember
      (fun written member => write (written ++ quotedText member.1 ++ colon) member.2) member := by
  intro written
  obtain ⟨name, memberValue⟩ := member
  obtain ⟨text, rfl⟩ := Option.isSome_iff_exists.mp named
  obtain ⟨chars, wrote, spelled⟩ := value (written ++ quotedText (some text) ++ colon)
  refine ⟨_, ?_, .member text blank_nil blank spelled⟩
  simp [wrote, toList_quotedText, spelling]

theorem writes_array {elements : List Value} {writeAll : String → List Value → String}
    (all : Writes (Separated Spells) writeAll elements) {opening closing : String}
    {before after : List Char} (opens : opening.toList = '[' :: before)
    (closes : closing.toList = after ++ [']']) (blankBefore : Blank before)
    (blankAfter : Blank after) :
    Writes Spells (fun written _ => writeAll (written ++ opening) elements ++ closing)
      (.array elements) := by
  intro written
  obtain ⟨chars, wrote, separated⟩ := all (written ++ opening)
  refine ⟨_, ?_, .array blankBefore blankAfter separated⟩
  simp [wrote, opens, closes]

theorem writes_object {members : List (Option String × Value)}
    {writeAll : String → List (Option String × Value) → String}
    (all : Writes (Separated SpellsMember) writeAll members) {opening closing : String}
    {before after : List Char} (opens : opening.toList = '{' :: before)
    (closes : closing.toList = after ++ ['}']) (blankBefore : Blank before)
    (blankAfter : Blank after) :
    Writes Spells (fun written _ => writeAll (written ++ opening) members ++ closing)
      (.object members) := by
  intro written
  obtain ⟨chars, wrote, separated⟩ := all (written ++ opening)
  refine ⟨_, ?_, .object blankBefore blankAfter separated⟩
  simp [wrote, opens, closes]

/-- The compact form is a text of the value. -/
theorem writes_compactOnto {value : Value} (plain : Plain value) :
    Writes Spells compactOnto value := by
  induction plain with
  | null => exact fun written => ⟨_, by simp [compactOnto], .null⟩
  | bool value =>
      intro written
      cases value with
      | true => exact ⟨_, by simp [compactOnto], .boolTrue⟩
      | false => exact ⟨_, by simp [compactOnto], .boolFalse⟩
  | number number => exact fun written => ⟨_, by simp [compactOnto], .number number⟩
  | string text => exact fun written => ⟨_, by simp [compactOnto, toList_quotedText], .string text⟩
  | @array elements _ ih =>
      cases elements with
      | nil =>
          intro written
          exact ⟨_, by simp [compactOnto, compactElementsOnto], .emptyArray blank_nil⟩
      | cons element elements =>
          have all : Writes (Separated Spells) compactElementsOnto (element :: elements) :=
            writes_separated rfl blank_nil (fun _ _ => rfl) (fun _ _ _ _ => rfl) ih (by simp)
          exact writes_array all rfl rfl blank_nil blank_nil
  | @object members named _ ih =>
      cases members with
      | nil =>
          intro written
          exact ⟨_, by simp [compactOnto, compactMembersOnto], .emptyObject blank_nil⟩
      | cons member members =>
          have colon : ":".toList = ':' :: [] := rfl
          have all : Writes (Separated SpellsMember) compactMembersOnto (member :: members) :=
            writes_separated rfl blank_nil (fun _ _ => rfl) (fun _ _ _ _ => rfl)
              (fun other isMember =>
                writes_member colon blank_nil (named other isMember) (ih other isMember)) (by simp)
          exact writes_object all rfl rfl blank_nil blank_nil

/-- The indented form is a text of the value. -/
theorem writes_indentedOnto {value : Value} (plain : Plain value) (depth : Nat) :
    Writes Spells (indentedOnto depth) value := by
  induction plain generalizing depth with
  | null => exact fun written => ⟨_, by simp [indentedOnto], .null⟩
  | bool value =>
      intro written
      cases value with
      | true => exact ⟨_, by simp [indentedOnto], .boolTrue⟩
      | false => exact ⟨_, by simp [indentedOnto], .boolFalse⟩
  | number number => exact fun written => ⟨_, by simp [indentedOnto], .number number⟩
  | string text => exact fun written => ⟨_, by simp [indentedOnto, toList_quotedText], .string text⟩
  | @array elements _ ih =>
      cases elements with
      | nil => exact fun written => ⟨_, by simp [indentedOnto], .emptyArray blank_nil⟩
      | cons element elements =>
          have all : Writes (Separated Spells) (indentedElementsOnto (depth + 1))
              (element :: elements) :=
            writes_separated (toList_comma_newline (depth + 1)) (blank_newline (depth + 1))
              (fun _ _ => rfl) (fun _ _ _ _ => by rw [← String.append_assoc]; rfl)
              (fun other isMember => ih other isMember (depth + 1)) (by simp)
          have opens : ("[" ++ newline (depth + 1)).toList = '[' :: (newline (depth + 1)).toList :=
            String.toList_append
          have closes : (newline depth ++ "]").toList = (newline depth).toList ++ [']'] :=
            String.toList_append
          intro written
          obtain ⟨chars, wrote, spelled⟩ := writes_array all opens closes
            (blank_newline (depth + 1)) (blank_newline depth) written
          exact ⟨chars, by simpa [indentedOnto, String.append_assoc] using wrote, spelled⟩
  | @object members named _ ih =>
      cases members with
      | nil => exact fun written => ⟨_, by simp [indentedOnto], .emptyObject blank_nil⟩
      | cons member members =>
          have colon : ": ".toList = ':' :: [' '] := rfl
          have all : Writes (Separated SpellsMember) (indentedMembersOnto (depth + 1))
              (member :: members) :=
            writes_separated (toList_comma_newline (depth + 1)) (blank_newline (depth + 1))
              (fun _ _ => rfl) (fun _ _ _ _ => by rw [← String.append_assoc]; rfl)
              (fun other isMember => writes_member colon (by simp [Blank, isSpace])
                (named other isMember) (ih other isMember (depth + 1))) (by simp)
          have opens : ("\x7b" ++ newline (depth + 1)).toList =
              '{' :: (newline (depth + 1)).toList := String.toList_append
          have closes : (newline depth ++ "\x7d").toList = (newline depth).toList ++ ['}'] :=
            String.toList_append
          intro written
          obtain ⟨chars, wrote, spelled⟩ := writes_object all opens closes
            (blank_newline (depth + 1)) (blank_newline depth) written
          exact ⟨chars, by simpa [indentedOnto, String.append_assoc] using wrote, spelled⟩

/-- What is written in compact form is read as what was written. -/
theorem read?_compact {value : Value} (plain : Plain value) :
    read? (compact value) = some value := by
  obtain ⟨chars, wrote, spelled⟩ := writes_compactOnto plain ""
  apply read?_of_spells
  rw [compact, wrote]
  exact spelled

/-- What is written in indented form is read as what was written. -/
theorem read?_indented {value : Value} (plain : Plain value) :
    read? (indented value) = some value := by
  obtain ⟨chars, wrote, spelled⟩ := writes_indentedOnto plain 0 ""
  apply read?_of_spells
  rw [indented, wrote]
  exact spelled

theorem read?_indented_append {value : Value} (plain : Plain value) {gap : String}
    (blank : Blank gap.toList) : read? (indented value ++ gap) = some value := by
  obtain ⟨chars, wrote, spelled⟩ := writes_indentedOnto plain 0 ""
  refine read?_of_spells_gap spelled blank ?_
  rw [String.toList_append, indented, wrote]
  rfl

end Printers

end Json
end TapeWorkbench
