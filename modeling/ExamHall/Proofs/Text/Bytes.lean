import ExamHall.Text.Bytes
import Mathlib.Data.List.Basic
import Mathlib.Logic.Function.Basic

/-!
# Bytes and how they are written

The bytes of a text, the hexadecimal notation of bytes and their notation in
base 64 can all be read back.
-/

/-!
## Texts of bytes

Different texts have different bytes, and different bytes are written
differently in hexadecimal notation, with two characters for each byte.
-/

namespace ExamHall.Text

/-! ### The bytes of a text -/

theorem toList_loop_eq (bytes : ByteArray) (index : Nat) (done : List UInt8) :
    ByteArray.toList.loop bytes index done =
      done.reverse ++ bytes.data.toList.drop index := by
  fun_induction ByteArray.toList.loop bytes index done with
  | case1 index done inside ih =>
      have here : bytes.data.toList.drop index =
          bytes.get! index :: bytes.data.toList.drop (index + 1) := by
        have bound : index < bytes.data.toList.length := by simpa using inside
        rw [List.drop_eq_getElem_cons bound, Array.getElem_toList,
          ByteArray.get!]
        congr 1
        exact (getElem!_pos bytes.data index inside).symm
      rw [ih, here, List.reverse_cons, List.append_assoc, List.singleton_append]
  | case2 index done outside =>
      have none : bytes.data.toList.drop index = [] := by
        apply List.drop_eq_nil_of_le
        simpa using outside
      rw [none, List.append_nil]

theorem toList_eq_data (bytes : ByteArray) :
    bytes.toList = bytes.data.toList := by
  rw [ByteArray.toList, toList_loop_eq]
  rfl

theorem utf8_injective : Function.Injective utf8 := by
  intro left right same
  rw [utf8, utf8, toList_eq_data, toList_eq_data] at same
  apply String.toByteArray_inj.mp
  exact ByteArray.ext (Array.toList_inj.mp same)

/-! ### Hexadecimal notation -/

theorem hexChar_inj {left right : Nat} (small : left < 16) (small' : right < 16)
    (same : hexChar left = hexChar right) : left = right := by
  have apart : ∀ left < 16, ∀ right < 16, hexChar left = hexChar right →
      left = right := by
    decide
  exact apart left small right small' same

theorem hex_injective : Function.Injective hex := by
  intro left right same
  replace same := String.ofList_inj.mp same
  induction left generalizing right with
  | nil =>
      cases right with
      | nil => rfl
      | cons _ _ => cases same
  | cons byte rest ih =>
      cases right with
      | nil => cases same
      | cons other others =>
          simp only [List.flatMap_cons, List.cons_append, List.nil_append,
            List.cons.injEq] at same
          obtain ⟨high, low, later⟩ := same
          have bound := byte.toNat_lt
          have bound' := other.toNat_lt
          have quotient := hexChar_inj (by omega) (by omega) high
          have rest' := hexChar_inj (by omega) (by omega) low
          have here : byte = other := UInt8.toNat_inj.mp (by omega)
          rw [here, ih later]

theorem length_hex (bytes : List UInt8) :
    (hex bytes).length = 2 * bytes.length := by
  rw [hex, String.length_ofList]
  induction bytes with
  | nil => rfl
  | cons byte rest ih =>
      rw [List.flatMap_cons, List.length_append, ih, List.length_cons,
        List.length_cons, List.length_cons, List.length_nil]
      omega

theorem exists_hexChar_of_mem {bytes : List UInt8} {c : Char}
    (inside : c ∈ (hex bytes).toList) : ∃ nibble < 16, c = hexChar nibble := by
  rw [hex, String.toList_ofList] at inside
  obtain ⟨byte, -, written⟩ := List.mem_flatMap.mp inside
  have bound := byte.toNat_lt
  rcases List.mem_cons.mp written with high | low
  · exact ⟨_, by omega, high⟩
  · exact ⟨_, by omega, List.mem_singleton.mp low⟩

end ExamHall.Text

/-!
## Base 64

Bytes that are written in base 64 are read back.  What is written has no
characters but those that stand for six bits.
-/

namespace ExamHall.Text

theorem base64Value?_base64Char :
    ∀ value < 64, base64Value? (base64Char value) = some value := by
  decide +kernel

/-- The values that bytes are written with. -/
def base64Values : List UInt8 → List Nat
  | a :: b :: c :: rest =>
    let bits := (a.toNat * 256 + b.toNat) * 256 + c.toNat
    bits / 262144 :: bits / 4096 % 64 :: bits / 64 % 64 :: bits % 64 ::
      base64Values rest
  | [a, b] =>
    let bits := (a.toNat * 256 + b.toNat) * 4
    [bits / 4096, bits / 64 % 64, bits % 64]
  | [a] => [a.toNat / 4, a.toNat % 4 * 16]
  | [] => []

theorem base64Chars_eq_map (bytes : List UInt8) :
    base64Chars bytes = (base64Values bytes).map base64Char := by
  fun_induction base64Chars bytes with
  | case1 a b c rest bits ih => simp only [base64Values, List.map_cons, ih]; rfl
  | case2 | case3 | case4 => rfl

theorem base64Values_lt (bytes : List UInt8) :
    ∀ value ∈ base64Values bytes, value < 64 := by
  fun_induction base64Values bytes with
  | case1 a b c rest bits ih =>
      have := a.toNat_lt
      have := b.toNat_lt
      have := c.toNat_lt
      simp only [List.forall_mem_cons]
      exact ⟨by omega, by omega, by omega, by omega, ih⟩
  | case2 a b bits =>
      have := a.toNat_lt
      have := b.toNat_lt
      simp only [List.forall_mem_cons]
      exact ⟨by omega, by omega, by omega, fun _ => nofun⟩
  | case3 a =>
      have := a.toNat_lt
      simp only [List.forall_mem_cons]
      exact ⟨by omega, by omega, fun _ => nofun⟩
  | case4 => exact fun _ => nofun

theorem ofNat_eq_of_toNat {number : Nat} (byte : UInt8)
    (same : number = byte.toNat) : UInt8.ofNat number = byte := by
  rw [same, UInt8.ofNat_toNat]

theorem base64Bytes?_base64Values (bytes : List UInt8) :
    base64Bytes? (base64Values bytes) = some bytes := by
  fun_induction base64Values bytes with
  | case1 a b c rest bits ih =>
      have := a.toNat_lt
      have := b.toNat_lt
      have := c.toNat_lt
      rw [base64Bytes?, ih, Option.map_some, ofNat_eq_of_toNat a (by omega),
        ofNat_eq_of_toNat b (by omega), ofNat_eq_of_toNat c (by omega)]
  | case2 a b bits =>
      have := a.toNat_lt
      have := b.toNat_lt
      rw [base64Bytes?, if_pos (by omega), ofNat_eq_of_toNat a (by omega),
        ofNat_eq_of_toNat b (by omega)]
  | case3 a =>
      have := a.toNat_lt
      rw [base64Bytes?, if_pos (by omega), ofNat_eq_of_toNat a (by omega)]
  | case4 => rfl

theorem mapM_base64Value? {values : List Nat}
    (small : ∀ value ∈ values, value < 64) :
    (values.map base64Char).mapM base64Value? = some values := by
  induction values with
  | nil => rfl
  | cons value rest ih =>
      obtain ⟨here, later⟩ := List.forall_mem_cons.mp small
      rw [List.map_cons, List.mapM_cons, base64Value?_base64Char value here,
        ih later]
      rfl

/-- What has been written in base 64 is read back. -/
theorem ofBase64?_base64Chars (bytes : List UInt8) :
    ofBase64? (base64Chars bytes) = some bytes := by
  rw [ofBase64?, base64Chars_eq_map, mapM_base64Value? (base64Values_lt bytes)]
  exact base64Bytes?_base64Values bytes

/-- What is written in base 64 has no other characters than those that stand for
six bits. -/
theorem exists_base64Char_of_mem {c : Char} {bytes : List UInt8}
    (inside : c ∈ base64Chars bytes) : ∃ value < 64, base64Char value = c := by
  rw [base64Chars_eq_map] at inside
  obtain ⟨value, present, same⟩ := List.mem_map.mp inside
  exact ⟨value, base64Values_lt bytes value present, same⟩

end ExamHall.Text
