import ResourceWatch.Json.Literal
import ResourceWatch.Proofs.ByteOrder
import ResourceWatch.Proofs.TrimAndCut
import ResourceWatch.Text.Percent

/-! # Reading a query back

A query is cut at every ampersand, each part of it at its first equality sign, and what stands
between is decoded: a percent sign and two digits give one byte, and the bytes are read in
UTF-8. Whatever the keys and values are, this gives them back, since the written form of a text
has none of the characters that a query is cut at.
-/

namespace ResourceWatch.Text.Percent

/-- The bytes that a written form stands for. A percent sign needs two digits in base sixteen
behind it, and any other character stands for itself. -/
def decodeBytes? : List Char → Option (List UInt8)
  | [] => some []
  | c :: rest =>
    if c = '%' then
      match rest with
      | high :: low :: rest =>
        match Json.Piece.hexDigit? high, Json.Piece.hexDigit? low with
        | some high, some low => (decodeBytes? rest).map (UInt8.ofNat (16 * high + low) :: ·)
        | _, _ => none
      | _ => none
    else (decodeBytes? rest).map (String.utf8EncodeChar c ++ ·)

/-- The text that a written form stands for, if its bytes are UTF-8. -/
def decode? (form : List Char) : Option String :=
  (decodeBytes? form).bind fun bytes => String.fromUTF8? (ByteArray.mk bytes.toArray)

/-- The pair that a part of a query stands for. -/
def decodePair? (part : List Char) : Option (String × String) := do
  let (key, value) ← cutAt ['='] part
  return (← decode? key, ← decode? value)

/-- The pairs that a query stands for. -/
def decodePairs? (query : List Char) : Option (List (String × String)) :=
  (splitOn '&' query).mapM decodePair?

/-! ## Bytes -/

theorem hexDigit?_hexDigit {n : Nat} (hn : n < 16) :
    Json.Piece.hexDigit? (hexDigit n) = some n := by
  revert n
  decide

/-- A byte that is written as a character is the only byte of this character. -/
theorem utf8EncodeChar_of_isPlain {byte : UInt8} (hplain : isPlain byte = true) :
    Char.ofNat byte.toNat ≠ '%' ∧ String.utf8EncodeChar (Char.ofNat byte.toNat) = [byte] := by
  have hbytes : ∀ n < 256, isPlain (UInt8.ofNat n) = true →
      Char.ofNat n ≠ '%' ∧ String.utf8EncodeChar (Char.ofNat n) = [UInt8.ofNat n] := by
    decide +kernel
  have hbyte := hbytes byte.toNat byte.toNat_lt
  rw [UInt8.ofNat_toNat] at hbyte
  exact hbyte hplain

theorem decodeBytes?_encodeByte (byte : UInt8) (rest : List Char) :
    decodeBytes? (encodeByte byte ++ rest) = (decodeBytes? rest).map (byte :: ·) := by
  rw [encodeByte]
  split
  next hplain =>
    obtain ⟨hpercent, hbyte⟩ := utf8EncodeChar_of_isPlain hplain
    rw [List.singleton_append, decodeBytes?.eq_def]
    simp only [if_neg hpercent, hbyte]
    rfl
  next =>
    have hlt := byte.toNat_lt
    have hhigh := hexDigit?_hexDigit (n := byte.toNat / 16) (by omega)
    have hlow := hexDigit?_hexDigit (n := byte.toNat % 16) (by omega)
    simp only [List.cons_append, List.nil_append, decodeBytes?, if_true, hhigh, hlow,
      Nat.div_add_mod, UInt8.ofNat_toNat]

theorem decodeBytes?_flatMap (bytes : List UInt8) :
    decodeBytes? (bytes.flatMap encodeByte) = some bytes := by
  induction bytes with
  | nil => rfl
  | cons byte rest ih => rw [List.flatMap_cons, decodeBytes?_encodeByte, ih, Option.map_some]

/-! ## Texts -/

theorem fromUTF8?_toUTF8 (text : String) : String.fromUTF8? text.toUTF8 = some text := by
  rw [String.fromUTF8?, String.toUTF8_eq_toByteArray, dif_pos text.isValidUTF8]
  rfl

theorem decode?_encode (text : String) : decode? (encode text) = some text := by
  have hbytes : ByteArray.mk (bytes text).toArray = text.toUTF8 := rfl
  rw [decode?, encode, decodeBytes?_flatMap, Option.bind_some, ← bytes_eq_flatMap, hbytes,
    fromUTF8?_toUTF8]

/-- The characters of a written form. -/
def isFormChar (c : Char) : Bool :=
  c.isAlphanum || c = '-' || c = '_' || c = '.' || c = '~' || c = '%'

theorem isFormChar_hexDigit {n : Nat} (hn : n < 16) : isFormChar (hexDigit n) = true := by
  revert n
  decide

theorem isFormChar_of_mem_encode {text : String} {c : Char} (hc : c ∈ encode text) :
    isFormChar c = true := by
  obtain ⟨byte, -, hc⟩ := List.mem_flatMap.mp hc
  rw [encodeByte] at hc
  split at hc
  next hplain =>
    rw [List.mem_singleton] at hc
    subst hc
    rw [isFormChar]
    exact Bool.or_eq_true_iff.mpr (.inl hplain)
  next =>
    have hlt := byte.toNat_lt
    rcases List.mem_cons.mp hc with rfl | hc
    · rfl
    rcases List.mem_cons.mp hc with rfl | hc
    · exact isFormChar_hexDigit (by omega)
    · rw [List.mem_singleton.mp hc]
      exact isFormChar_hexDigit (by omega)

/-- A character that no written form has is in none. -/
theorem not_mem_encode {c : Char} (hc : isFormChar c = false) (text : String) :
    c ∉ encode text := by
  intro hmem
  rw [isFormChar_of_mem_encode hmem] at hc
  cases hc

/-! ## Pairs -/

/-- The written form of a pair. -/
def encodePair (pair : String × String) : List Char := encode pair.1 ++ '=' :: encode pair.2

theorem encodePairs_eq_joinWith (pairs : List (String × String)) :
    encodePairs pairs = joinWith '&' (pairs.map encodePair) := by
  induction pairs with
  | nil => rfl
  | cons pair rest ih =>
      cases rest with
      | nil => rfl
      | cons next more =>
          calc encodePairs (pair :: next :: more)
              = encodePair pair ++ '&' :: encodePairs (next :: more) := rfl
            _ = joinWith '&' ((pair :: next :: more).map encodePair) := by rw [ih]; rfl

theorem not_mem_encodePair {c : Char} (hc : isFormChar c = false) (hequal : c ≠ '=')
    (pair : String × String) : c ∉ encodePair pair := by
  simp [encodePair, not_mem_encode hc, hequal]

theorem not_mem_encodePairs {c : Char} (hc : isFormChar c = false) (hequal : c ≠ '=')
    (hampersand : c ≠ '&') (pairs : List (String × String)) : c ∉ encodePairs pairs := by
  rw [encodePairs_eq_joinWith]
  apply not_mem_joinWith hampersand
  intro part hpart
  obtain ⟨pair, -, rfl⟩ := List.mem_map.mp hpart
  exact not_mem_encodePair hc hequal pair

theorem decodePair?_encodePair (pair : String × String) :
    decodePair? (encodePair pair) = some pair := by
  have hkey : '=' ∉ encode pair.1 := not_mem_encode (by decide) pair.1
  have hcut : cutAt ['='] (encodePair pair) = some (encode pair.1, encode pair.2) :=
    cutAt_append hkey [] (encode pair.2)
  rw [decodePair?, hcut]
  simp [decode?_encode]

theorem decodePairs?_encodePairs {pairs : List (String × String)} (hne : pairs ≠ []) :
    decodePairs? (encodePairs pairs) = some pairs := by
  have hparts : ∀ part ∈ pairs.map encodePair, '&' ∉ part := by
    intro part hpart
    obtain ⟨pair, -, rfl⟩ := List.mem_map.mp hpart
    exact not_mem_encodePair (by decide) (by decide) pair
  have hsplit : splitOn '&' (encodePairs pairs) = pairs.map encodePair := by
    rw [encodePairs_eq_joinWith, splitOn_joinWith (by simpa using hne) hparts]
  rw [decodePairs?, hsplit]
  clear hne hparts hsplit
  induction pairs with
  | nil => rfl
  | cons pair rest ih => simp [decodePair?_encodePair, ih]

/-- Blanks, separators and characters of several bytes survive. -/
example : decodePairs? "a%20b=c%26d&%C3%A9=".toList = some [("a b", "c&d"), ("é", "")] := by
  decide +kernel

end ResourceWatch.Text.Percent
