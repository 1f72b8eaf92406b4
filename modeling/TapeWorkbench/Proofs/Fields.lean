import TapeWorkbench.Proofs.Words

/-!
# What the readers of single fields accept

Each reader succeeds exactly if its field stands in front, and then it is behind the
field.  A field that blanks follow is the first word of what is left, so reading
fields one after the other is reading words (`words_of_crossBlanks` and
`exists_crossBlanks`).
-/

namespace TapeWorkbench
namespace Program

/-- At least one digit, and nothing but digits. -/
def IsNumeral (text : List Char) : Prop :=
  text ≠ [] ∧ ∀ c ∈ text, Decimal.isDigit c = true

theorem isBlank_of_isDigit {c : Char} (digit : Decimal.isDigit c = true) : isBlank c = false := by
  cases blank : isBlank c with
  | false => rfl
  | true =>
      have choices : c = ' ' ∨ c = '\t' := by simpa [isBlank] using blank
      rcases choices with rfl | rfl
      · simp [Decimal.isDigit] at digit
      · simp [Decimal.isDigit] at digit

theorem IsNumeral.isWord {text : List Char} (numeral : IsNumeral text) : IsWord text :=
  ⟨numeral.1, fun c member => isBlank_of_isDigit (numeral.2 c member)⟩

theorem AtWordEnd.not_isDigit {rest : List Char} (ends : AtWordEnd rest) :
    (rest.head?.all fun c => !Decimal.isDigit c) = true := by
  cases rest with
  | nil => rfl
  | cons c rest =>
      have blank : isBlank c = true := by simpa [AtWordEnd] using ends
      cases digit : Decimal.isDigit c with
      | false => simp [digit]
      | true => simp [isBlank_of_isDigit digit] at blank

/-- Reading as far as a condition holds takes all of what is in front of the first
failure, and nothing of what is behind. -/
theorem takeWhile_append_of_stops {p : Char → Bool} {text rest : List Char}
    (holds : ∀ c ∈ text, p c = true) (stops : (rest.head?.all fun c => !p c) = true) :
    (text ++ rest).takeWhile p = text ∧ (text ++ rest).dropWhile p = rest := by
  rw [List.takeWhile_append_of_pos holds, List.dropWhile_append_of_pos holds]
  cases rest with
  | nil => simp
  | cons c rest =>
      have fails : p c = false := by simpa using stops
      simp [fails]

namespace Cursor

theorem takeWhile_eq_iff {cursor behind : Cursor} {p : Char → Bool} {text : List Char} :
    cursor.takeWhile p = (text, behind) ↔
      cursor.rest = text ++ behind.rest ∧ (∀ c ∈ text, p c = true) ∧
        (behind.rest.head?.all fun c => !p c) = true ∧
        behind.offset = cursor.offset + text.length := by
  obtain ⟨offset, rest⟩ := cursor
  obtain ⟨offset', rest'⟩ := behind
  simp only [takeWhile, Prod.mk.injEq, mk.injEq]
  constructor
  · rintro ⟨rfl, rfl, rfl⟩
    exact ⟨List.takeWhile_append_dropWhile.symm, fun c member => List.mem_takeWhile_imp member,
      head?_dropWhile_all p rest, rfl⟩
  · rintro ⟨rfl, holds, stops, rfl⟩
    obtain ⟨taken, dropped⟩ := takeWhile_append_of_stops holds stops
    rw [taken, dropped]
    exact ⟨rfl, rfl, rfl⟩

theorem takeWhile_nonempty_iff {cursor behind : Cursor} {p : Char → Bool} {text : List Char} :
    cursor.rest.head?.any p = true ∧ cursor.takeWhile p = (text, behind) ↔
      cursor.rest = text ++ behind.rest ∧ (text ≠ [] ∧ ∀ c ∈ text, p c = true) ∧
        (behind.rest.head?.all fun c => !p c) = true ∧
        behind.offset = cursor.offset + text.length := by
  rw [takeWhile_eq_iff]
  constructor
  · rintro ⟨starts, split, holds, stops, moved⟩
    refine ⟨split, ⟨?_, holds⟩, stops, moved⟩
    rintro rfl
    rw [split, List.nil_append] at starts
    cases after : behind.rest.head? with
    | none => simp [after] at starts
    | some c => simp_all
  · rintro ⟨split, ⟨nonempty, holds⟩, stops, moved⟩
    refine ⟨?_, split, holds, stops, moved⟩
    cases text with
    | nil => exact absurd rfl nonempty
    | cons c text =>
        rw [split]
        simpa using holds c List.mem_cons_self

theorem readDigits_eq_ok_iff {cursor behind : Cursor} {digits : List Char} :
    cursor.readDigits = .ok (digits, behind) ↔
      cursor.rest = digits ++ behind.rest ∧ IsNumeral digits ∧
        (behind.rest.head?.all fun c => !Decimal.isDigit c) = true ∧
        behind.offset = cursor.offset + digits.length := by
  rw [IsNumeral, ← takeWhile_nonempty_iff]
  unfold readDigits
  split
  · rename_i starts
    simp [starts]
  · rename_i starts
    simp [starts]

theorem readState_eq_ok_iff {cursor behind : Cursor} {state : List Char} :
    cursor.readState = .ok (state, behind) ↔
      cursor.rest = state ++ behind.rest ∧ IsWord state ∧ AtWordEnd behind.rest ∧
        behind.offset = cursor.offset + state.length := by
  have taken := @takeWhile_nonempty_iff cursor behind (fun c => !isBlank c) state
  simp only [Bool.not_not, Bool.not_eq_true'] at taken
  rw [IsWord, AtWordEnd, ← taken]
  unfold readState
  split
  · rename_i starts
    simp [starts]
  · rename_i starts
    simp [starts]

theorem readMove_eq_ok_iff {cursor behind : Cursor} {move : Move} :
    cursor.readMove = .ok (move, behind) ↔
      ∃ letter, cursor.rest = letter :: behind.rest ∧ moveOfLetter? letter = some move ∧
        behind.offset = cursor.offset + 1 := by
  obtain ⟨offset, rest⟩ := cursor
  obtain ⟨offset', rest'⟩ := behind
  cases rest with
  | nil => simp [readMove]
  | cons letter rest =>
      simp only [readMove]
      cases known : moveOfLetter? letter with
      | none => simp +contextual [known]
      | some other =>
          simp only [Except.ok.injEq, Prod.mk.injEq, mk.injEq, List.cons.injEq]
          constructor
          · rintro ⟨rfl, rfl, rfl⟩
            exact ⟨letter, ⟨rfl, rfl⟩, known, rfl⟩
          · rintro ⟨_, ⟨rfl, rfl⟩, same, rfl⟩
            exact ⟨Option.some.inj (known.symm.trans same), rfl, rfl⟩

theorem crossBlanks_eq_ok_iff {cursor next : Cursor} {start : Nat} :
    cursor.crossBlanks start = .ok next ↔
      cursor.rest.head?.any isBlank = true ∧ next = cursor.skipBlanks := by
  unfold crossBlanks
  split
  · rename_i starts
    simp [starts, eq_comm]
  · rename_i starts
    simp [starts]

/-- Where fields are read, no blank stands: there is a word, or the end. -/
def Bare (cursor : Cursor) : Prop :=
  cursor.rest.dropWhile isBlank = cursor.rest

theorem bare_skipBlanks (cursor : Cursor) : cursor.skipBlanks.Bare := by
  have stops := head?_dropWhile_all isBlank cursor.rest
  change (cursor.rest.dropWhile isBlank).dropWhile isBlank = cursor.rest.dropWhile isBlank
  cases behind : cursor.rest.dropWhile isBlank with
  | nil => rfl
  | cons c rest =>
      have letter : isBlank c = false := by simpa [behind] using stops
      simp [letter]

theorem words_skipBlanks (cursor : Cursor) : words cursor.skipBlanks.rest = words cursor.rest :=
  words_dropWhile_blank cursor.rest

/-- A field that blanks follow is a word, and the other words are behind the blanks. -/
theorem words_of_crossBlanks {cursor behind next : Cursor} {start : Nat} {word : List Char}
    (split : cursor.rest = word ++ behind.rest) (isWord : IsWord word)
    (crossed : behind.crossBlanks start = .ok next) :
    words cursor.rest = word :: words next.rest := by
  obtain ⟨blank, rfl⟩ := crossBlanks_eq_ok_iff.mp crossed
  have ends : AtWordEnd behind.rest := by
    cases after : behind.rest.head? with
    | none => simp [after] at blank
    | some c => simpa [AtWordEnd, after] using blank
  rw [split, words_append isWord ends, words_skipBlanks]

/-- The first of several words is a field that blanks follow. -/
theorem exists_crossBlanks {cursor : Cursor} {word other : List Char} {others : List (List Char)}
    (bare : cursor.Bare) (split : words cursor.rest = word :: other :: others) :
    ∃ behind next : Cursor,
      cursor.rest = word ++ behind.rest ∧ IsWord word ∧ AtWordEnd behind.rest ∧
        behind.offset = cursor.offset + word.length ∧
        (∀ start, behind.crossBlanks start = .ok next) ∧ next.Bare ∧
        words next.rest = other :: others := by
  obtain ⟨rest, parts, isWord, ends, behind⟩ := words_eq_cons_iff.mp split
  rw [bare] at parts
  let after : Cursor := ⟨cursor.offset + word.length, rest⟩
  refine ⟨after, after.skipBlanks, parts, isWord, ends, rfl, ?_, bare_skipBlanks after,
    (words_skipBlanks after).trans behind⟩
  intro start
  refine crossBlanks_eq_ok_iff.mpr ⟨?_, rfl⟩
  cases rest with
  | nil => simp at behind
  | cons c rest => simpa [AtWordEnd, after] using ends

/-! ### The end of the line -/

/-- The offset of the end of the line. -/
def reach (cursor : Cursor) : Nat :=
  cursor.offset + cursor.rest.length

theorem offset_le_reach (cursor : Cursor) : cursor.offset ≤ cursor.reach :=
  Nat.le_add_right _ _

theorem reach_of_split {cursor behind : Cursor} (text : List Char)
    (split : cursor.rest = text ++ behind.rest)
    (moved : behind.offset = cursor.offset + text.length) : behind.reach = cursor.reach := by
  rw [reach, reach, split, moved, List.length_append, Nat.add_assoc]

theorem reach_skipBlanks (cursor : Cursor) : cursor.skipBlanks.reach = cursor.reach :=
  reach_of_split _ List.takeWhile_append_dropWhile.symm rfl

theorem reach_skipMarker (cursor : Cursor) : cursor.skipMarker.2.reach = cursor.reach := by
  unfold skipMarker
  split
  · rename_i rest marked
    exact reach_of_split ['!'] marked rfl
  · rfl

end Cursor
end Program
end TapeWorkbench
