import Mathlib.Data.List.Basic
import Std.Data.String

/-!
Text formats that identify a record: hexadecimal text of byte strings, records
of separated fields with decimal integers in them, and chains that hash one
record after another. The record text determines its fields as long as no
differing field contains the separator, and two chains that end in one digest
have hashed the same items unless two of their messages collided on the way.
-/

namespace RwkvSrs.RecordText

set_option autoImplicit false

def hexDigit (value : Nat) : Char := "0123456789abcdef".toList.getD value '0'

def hexNibble (digit : Char) : Option Nat :=
  if '0' ≤ digit ∧ digit ≤ '9' then some (digit.toNat - 48)
  else if 'a' ≤ digit ∧ digit ≤ 'f' then some (digit.toNat - 97 + 10)
  else if 'A' ≤ digit ∧ digit ≤ 'F' then some (digit.toNat - 65 + 10)
  else none

def hexPair (byte : UInt8) : List Char := [hexDigit (byte.toNat / 16), hexDigit (byte.toNat % 16)]

def encodeHex (bytes : List UInt8) : String := String.ofList (bytes.flatMap hexPair)

/-- The bytes of consecutive digit pairs. -/
def decodePairs : List Char → Option (List UInt8)
  | [] => some []
  | [_] => none
  | high :: low :: rest => do
      let upper ← hexNibble high
      let lower ← hexNibble low
      let bytes ← decodePairs rest
      return UInt8.ofNat (upper * 16 + lower) :: bytes

theorem nibble_of_digit {value : Nat} (small : value < 16) :
    hexNibble (hexDigit value) = some value := by
  revert value
  decide

theorem decode_pair (byte : UInt8) (rest : List Char) :
    decodePairs (hexPair byte ++ rest) = (decodePairs rest).map (byte :: ·) := by
  have bounded := byte.toNat_lt
  have high := nibble_of_digit (show byte.toNat / 16 < 16 by omega)
  have low := nibble_of_digit (show byte.toNat % 16 < 16 by omega)
  have halves : byte.toNat / 16 * 16 + byte.toNat % 16 = byte.toNat := by omega
  have whole : UInt8.ofNat (byte.toNat / 16 * 16 + byte.toNat % 16) = byte := by
    rw [halves, UInt8.ofNat_toNat]
  simp only [hexPair, List.cons_append, List.nil_append, decodePairs, high, low]
  cases decodePairs rest with
  | none => rfl
  | some bytes =>
      change some (UInt8.ofNat _ :: bytes) = some (byte :: bytes)
      rw [whole]

theorem decode_encode (bytes : List UInt8) :
    decodePairs (encodeHex bytes).toList = some bytes := by
  have encoded : (encodeHex bytes).toList = bytes.flatMap hexPair := by simp [encodeHex]
  rw [encoded]
  induction bytes with
  | nil => rfl
  | cons byte bytes ih =>
      rw [List.flatMap_cons, decode_pair, ih (by simp [encodeHex])]
      rfl

theorem encode_injective {left right : List UInt8} (same : encodeHex left = encodeHex right) :
    left = right := by
  have decoded := decode_encode left
  rw [same, decode_encode] at decoded
  exact (Option.some.inj decoded).symm

theorem decoded_digits {digits : List Char} {bytes : List UInt8}
    (decoded : decodePairs digits = some bytes) :
    ∀ digit ∈ digits, (hexNibble digit).isSome := by
  induction digits using decodePairs.induct generalizing bytes with
  | case1 => simp
  | case2 digit => cases decoded
  | case3 high low rest ih =>
      simp only [decodePairs, Option.bind_eq_bind, Option.bind_eq_some_iff, Option.pure_def,
        Option.some.injEq] at decoded
      obtain ⟨upper, isUpper, lower, isLower, found, tail, rfl⟩ := decoded
      intro digit member
      rcases List.mem_cons.mp member with rfl | later
      · rw [isUpper]
        rfl
      · rcases List.mem_cons.mp later with rfl | deeper
        · rw [isLower]
          rfl
        · exact ih tail digit deeper

theorem decimal_natural_clean (number : Nat) : ',' ∉ number.repr.toList := by
  intro member
  rw [Nat.toList_repr] at member
  have digit : Char.isDigit ',' = true :=
    Nat.isDigit_of_mem_toDigits (by decide) (by decide) member
  exact Bool.noConfusion digit

theorem decimal_clean (number : Int) : ',' ∉ number.repr.toList := by
  rw [Int.repr_eq_if]
  split
  · apply decimal_natural_clean
  · intro member
    rw [String.toList_append, List.mem_append] at member
    rcases member with sign | digit
    · simp at sign
    · exact decimal_natural_clean _ digit

/-- The fields of a record, each under its quoted name, separated by commas. -/
def recordFields : List (String × String) → String
  | [] => ""
  | [(name, text)] => "\"" ++ name ++ "\":" ++ text
  | (name, text) :: field :: fields =>
      "\"" ++ name ++ "\":" ++ text ++ "," ++ recordFields (field :: fields)

def recordText (fields : List (String × String)) : String := "\x7b" ++ recordFields fields ++ "\x7d"

theorem separated {left right rest more : List Char} (leftClean : ',' ∉ left)
    (rightClean : ',' ∉ right) (same : left ++ ',' :: rest = right ++ ',' :: more) :
    left = right ∧ rest = more := by
  induction left generalizing right with
  | nil =>
      cases right with
      | nil =>
          simp only [List.nil_append, List.cons.injEq, true_and] at same
          exact ⟨rfl, same⟩
      | cons first right =>
          simp only [List.nil_append, List.cons_append, List.cons.injEq] at same
          simp [← same.1] at rightClean
  | cons first left ih =>
      cases right with
      | nil =>
          simp only [List.nil_append, List.cons_append, List.cons.injEq] at same
          simp [same.1] at leftClean
      | cons second right =>
          simp only [List.cons_append, List.cons.injEq] at same
          have tails := ih (fun member => leftClean (List.mem_cons_of_mem _ member))
            (fun member => rightClean (List.mem_cons_of_mem _ member)) same.2
          exact ⟨by rw [same.1, tails.1], tails.2⟩

/-- Two texts of one field that can be told apart: the separator occurs in neither, unless
they are the same text. -/
def Separable (left right : String) : Prop :=
  left = right ∨ (',' ∉ left.toList ∧ ',' ∉ right.toList)

theorem record_fields_injective {names left right : List String}
    (separable : List.Forall₂ Separable left right)
    (same : recordFields (names.zip left) = recordFields (names.zip right))
    (named : left.length = names.length) : left = right := by
  induction separable generalizing names with
  | nil => rfl
  | cons apart others ih =>
      rename_i one other left right
      cases names with
      | nil => simp at named
      | cons name names =>
          cases names with
          | nil =>
              cases others with
              | nil =>
                  have texts := congrArg String.toList same
                  simp only [List.zip_cons_cons, List.zip_nil_right, recordFields,
                    String.toList_append, List.append_cancel_left_eq, String.toList_inj] at texts
                  rw [texts]
              | cons _ _ => simp at named
          | cons next names =>
              cases others with
              | nil => simp at named
              | cons _ _ =>
                  have texts := congrArg String.toList same
                  simp only [List.zip_cons_cons, recordFields, String.toList_append,
                    List.append_assoc, List.append_cancel_left_eq] at texts
                  have tailNamed := Nat.succ.inj named
                  rcases apart with equal | clean
                  · subst equal
                    have rest := List.append_cancel_left (List.append_cancel_left texts)
                    have tails := @ih (next :: names) (String.toList_inj.mp rest) tailNamed
                    rw [tails]
                  · have found := separated clean.1 clean.2 texts
                    have tails :=
                      @ih (next :: names) (String.toList_inj.mp found.2) tailNamed
                    rw [String.toList_inj.mp found.1, tails]

theorem record_text_injective {names left right : List String}
    (separable : List.Forall₂ Separable left right)
    (same : recordText (names.zip left) = recordText (names.zip right))
    (named : left.length = names.length) : left = right := by
  have texts := congrArg String.toList same
  simp only [recordText, String.toList_append, List.append_assoc, List.append_cancel_left_eq,
    List.append_cancel_right_eq] at texts
  exact record_fields_injective separable (String.toList_inj.mp texts) named

section Chains

variable {State Item : Type} (hash : State → Item → State)

/-- The two chains hash different messages into one state at some common position. -/
def ChainCollision : State → State → List Item → List Item → Prop
  | first, second, item :: items, other :: others =>
      ((first, item) ≠ (second, other) ∧ hash first item = hash second other) ∨
        ChainCollision (hash first item) (hash second other) items others
  | _, _, _, _ => False

theorem chain_eq_or_collision {first second : State} {left right : List Item}
    (length : left.length = right.length) (same : left.foldl hash first = right.foldl hash second) :
    (first = second ∧ left = right) ∨ ChainCollision hash first second left right := by
  induction left generalizing first second right with
  | nil =>
      cases right with
      | nil => exact Or.inl ⟨same, rfl⟩
      | cons _ _ => simp at length
  | cons item left ih =>
      cases right with
      | nil => simp at length
      | cons other right =>
          have rest := ih (Nat.succ.inj length) same
          rcases rest with ⟨reached, tails⟩ | collision
          · by_cases message : (first, item) = (second, other)
            · cases message
              exact Or.inl ⟨rfl, by rw [tails]⟩
            · exact Or.inr (Or.inl ⟨message, reached⟩)
          · exact Or.inr (Or.inr collision)

end Chains

end RwkvSrs.RecordText
