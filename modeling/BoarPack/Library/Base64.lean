import Mathlib.Data.List.Basic

/-! Base64: groups of three bytes as four digits, with padding. Reading is lenient: both alphabets are read, what is
in neither is skipped, and padding ends the text. -/
namespace Base64

def character (digit : Nat) : Char :=
  if digit < 26 then Char.ofNat (digit + 65)
  else if digit < 52 then Char.ofNat (digit + 71)
  else if digit < 62 then Char.ofNat (digit - 4)
  else if digit = 62 then '+'
  else '/'

def value (c : Char) : Option Nat :=
  if 'A' ≤ c ∧ c ≤ 'Z' then some (c.toNat - 65)
  else if 'a' ≤ c ∧ c ≤ 'z' then some (c.toNat - 71)
  else if '0' ≤ c ∧ c ≤ '9' then some (c.toNat + 4)
  else if c = '+' ∨ c = '-' then some 62
  else if c = '/' ∨ c = '_' then some 63
  else none

def digits : List UInt8 → List Nat
  | [] => []
  | [a] => [a.toNat / 4,a.toNat % 4 * 16]
  | [a,b] => [a.toNat / 4,a.toNat % 4 * 16 + b.toNat / 16,b.toNat % 16 * 4]
  | a :: b :: c :: rest =>
    a.toNat / 4 :: (a.toNat % 4 * 16 + b.toNat / 16) :: (b.toNat % 16 * 4 + c.toNat / 64) :: c.toNat % 64 :: digits rest

/-- Digits that do not make up a byte are dropped. -/
def bytes : List Nat → List UInt8
  | [] | [_] => []
  | [p,q] => [UInt8.ofNat (p * 4 + q / 16)]
  | [p,q,r] => [UInt8.ofNat (p * 4 + q / 16),UInt8.ofNat (q % 16 * 16 + r / 4)]
  | p :: q :: r :: s :: rest =>
    UInt8.ofNat (p * 4 + q / 16) :: UInt8.ofNat (q % 16 * 16 + r / 4) :: UInt8.ofNat (r % 4 * 64 + s) :: bytes rest

def padding (length : Nat) : List Char := List.replicate ((3 - length % 3) % 3) '='

def encode (data : List UInt8) : List Char := (digits data).map character ++ padding data.length

def decode (text : List Char) : List UInt8 := bytes ((text.takeWhile (· ≠ '=')).filterMap value)

theorem value_character : ∀ digit < 64, value (character digit) = some digit ∧ character digit ≠ '=' := by
  decide

theorem digits_lt (data : List UInt8) : ∀ digit ∈ digits data, digit < 64 := by
  induction data using digits.induct with
  | case1 => simp [digits]
  | case2 a =>
    have first := a.toNat_lt
    simp [digits]
    omega
  | case3 a b =>
    have first := a.toNat_lt
    have second := b.toNat_lt
    simp [digits]
    omega
  | case4 a b c rest ih =>
    have first := a.toNat_lt
    have second := b.toNat_lt
    have third := c.toNat_lt
    simp only [digits,List.forall_mem_cons]
    exact ⟨by omega,by omega,by omega,by omega,ih⟩

section Group

variable (a b c : UInt8)

theorem first_byte : UInt8.ofNat (a.toNat / 4 * 4 + (a.toNat % 4 * 16 + b.toNat / 16) / 16) = a := by
  have bound := b.toNat_lt
  have same : a.toNat / 4 * 4 + (a.toNat % 4 * 16 + b.toNat / 16) / 16 = a.toNat := by omega
  rw [same,UInt8.ofNat_toNat]

theorem second_byte :
    UInt8.ofNat ((a.toNat % 4 * 16 + b.toNat / 16) % 16 * 16 + (b.toNat % 16 * 4 + c.toNat / 64) / 4) = b := by
  have second := b.toNat_lt
  have third := c.toNat_lt
  have same : (a.toNat % 4 * 16 + b.toNat / 16) % 16 * 16 + (b.toNat % 16 * 4 + c.toNat / 64) / 4 = b.toNat := by omega
  rw [same,UInt8.ofNat_toNat]

theorem third_byte : UInt8.ofNat ((b.toNat % 16 * 4 + c.toNat / 64) % 4 * 64 + c.toNat % 64) = c := by
  have bound := c.toNat_lt
  have same : (b.toNat % 16 * 4 + c.toNat / 64) % 4 * 64 + c.toNat % 64 = c.toNat := by omega
  rw [same,UInt8.ofNat_toNat]

end Group

theorem bytes_digits (data : List UInt8) : bytes (digits data) = data := by
  induction data using digits.induct with
  | case1 => rfl
  | case2 a =>
    have first := first_byte a 0
    simpa [digits,bytes] using first
  | case3 a b =>
    have first := first_byte a b
    have second := second_byte a b 0
    rw [digits,bytes,first]
    simpa using second
  | case4 a b c rest ih => rw [digits,bytes,first_byte,second_byte,third_byte,ih]

theorem takeWhile_encode (data : List UInt8) : (encode data).takeWhile (· ≠ '=') = (digits data).map character := by
  have none_pads : ∀ c ∈ (digits data).map character, decide (c ≠ '=') = true := by
    intro c member
    obtain ⟨digit,inside,rfl⟩ := List.mem_map.mp member
    exact decide_eq_true (value_character digit (digits_lt data digit inside)).2
  rw [encode,List.takeWhile_append_of_pos none_pads,padding]
  cases (3 - data.length % 3) % 3 with
  | zero => simp
  | succ pads => simp [List.replicate_succ]

theorem filterMap_value (data : List UInt8) : ((digits data).map character).filterMap value = digits data := by
  have read : ∀ digit ∈ digits data, (value ∘ character) digit = some digit :=
    fun digit inside => (value_character digit (digits_lt data digit inside)).1
  rw [List.filterMap_map,List.filterMap_congr read]
  exact List.filterMap_some

theorem decode_encode (data : List UInt8) : decode (encode data) = data := by
  rw [decode,takeWhile_encode,filterMap_value,bytes_digits]

end Base64
