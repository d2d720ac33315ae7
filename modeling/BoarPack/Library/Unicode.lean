import Mathlib.Data.List.Basic

/-! Texts as code units of UTF-16, which need not be well formed, as characters, and as bytes of UTF-8. A surrogate
without its other half is read as the replacement character. -/
namespace Unicode

abbrev Text : Type := List UInt16

def replacement : Char := Char.ofNat 0xFFFD

section

variable (u v : UInt16)

def isHigh : Bool := 0xD800 ≤ u.toNat && u.toNat < 0xDC00

def isLow : Bool := 0xDC00 ≤ u.toNat && u.toNat < 0xE000

def single : Char := if isHigh u || isLow u then replacement else Char.ofNat u.toNat

def pair : Char := Char.ofNat (0x10000 + (u.toNat - 0xD800) * 0x400 + (v.toNat - 0xDC00))

end

def scalars : Text → List Char
  | [] => []
  | [u] => [single u]
  | u :: v :: rest => if isHigh u && isLow v then pair u v :: scalars rest else single u :: scalars (v :: rest)

def unitsOf (c : Char) : Text :=
  if c.toNat < 0x10000 then [UInt16.ofNat c.toNat]
  else [UInt16.ofNat (0xD800 + (c.toNat - 0x10000) / 0x400),UInt16.ofNat (0xDC00 + (c.toNat - 0x10000) % 0x400)]

def units (text : List Char) : Text := text.flatMap unitsOf

def utf8 (text : List Char) : List UInt8 := text.flatMap String.utf8EncodeChar

theorem units_cons (c : Char) (text : List Char) : units (c :: text) = unitsOf c ++ units text := List.flatMap_cons

theorem utf8_cons (c : Char) (text : List Char) : utf8 (c :: text) = String.utf8EncodeChar c ++ utf8 text :=
  List.flatMap_cons

theorem utf8_injective : Function.Injective utf8 := by
  intro text other same
  have encoded : text.utf8Encode = other.utf8Encode := congrArg List.toByteArray same
  have decoded := congrArg ByteArray.utf8Decode? encoded
  rw [List.utf8Decode?_utf8Encode,List.utf8Decode?_utf8Encode] at decoded
  simpa using decoded

theorem utf8_toList (str : String) : utf8 str.toList = str.toUTF8.data.toList := by
  rw [String.toUTF8_eq_toByteArray,← String.utf8Encode_toList]
  exact List.toList_data_toByteArray.symm

theorem length_utf8_ascii {text : List Char} (ascii : ∀ c ∈ text, c.val ≤ 127) : (utf8 text).length = text.length := by
  induction text with
  | nil => rfl
  | cons c rest ih =>
    obtain ⟨first,later⟩ := List.forall_mem_cons.mp ascii
    have one := Char.utf8Size_eq_one_iff.mpr first
    rw [utf8_cons,List.length_append,String.length_utf8EncodeChar,one,ih later,List.length_cons,Nat.add_comm]

theorem toNat_ofNat {n : Nat} (valid : n.isValidChar) : (Char.ofNat n).toNat = n := by
  rw [Char.ofNat,dif_pos valid]
  rfl

section Units

variable {u v : UInt16}

theorem toNat_pair (high : isHigh u = true) (low : isLow v = true) :
    (pair u v).toNat = 0x10000 + (u.toNat - 0xD800) * 0x400 + (v.toNat - 0xDC00) := by
  simp only [isHigh,isLow,Bool.and_eq_true,decide_eq_true_eq] at high low
  apply toNat_ofNat
  exact Or.inr ⟨by omega,by omega⟩

theorem toNat_single (high : isHigh u = false) (low : isLow u = false) : (single u).toNat = u.toNat := by
  have bound := u.toNat_lt
  rw [single,high,low]
  simp only [isHigh,isLow,Bool.and_eq_false_iff,decide_eq_false_iff_not] at high low
  apply toNat_ofNat
  rw [Nat.isValidChar]
  omega

theorem unitsOf_pair (high : isHigh u = true) (low : isLow v = true) : unitsOf (pair u v) = [u,v] := by
  have value := toNat_pair high low
  simp only [isHigh,isLow,Bool.and_eq_true,decide_eq_true_eq] at high low
  have upper : 0xD800 + ((pair u v).toNat - 0x10000) / 0x400 = u.toNat := by omega
  have lower : 0xDC00 + ((pair u v).toNat - 0x10000) % 0x400 = v.toNat := by omega
  rw [unitsOf,if_neg (by omega),upper,lower,UInt16.ofNat_toNat,UInt16.ofNat_toNat]

theorem unitsOf_single (whole : single u ≠ replacement) : unitsOf (single u) = [u] := by
  have bound := u.toNat_lt
  cases high : isHigh u with
  | true => exact absurd (by simp [single,high]) whole
  | false =>
    cases low : isLow u with
    | true => exact absurd (by simp [single,low]) whole
    | false =>
      have value := toNat_single high low
      rw [unitsOf,if_pos (by omega),value,UInt16.ofNat_toNat]

theorem pair_ne_replacement (high : isHigh u = true) (low : isLow v = true) : pair u v ≠ replacement := by
  intro same
  have value := toNat_pair high low
  have small : replacement.toNat = 0xFFFD := by decide
  rw [same,small] at value
  omega

end Units

theorem scalars_pair {u v : UInt16} (high : isHigh u = true) (low : isLow v = true) (rest : Text) :
    scalars (u :: v :: rest) = pair u v :: scalars rest := by
  simp [scalars,high,low]

theorem scalars_alone {u : UInt16} (alone : isHigh u = false) (text : Text) :
    scalars (u :: text) = single u :: scalars text := by
  cases text with
  | nil => rfl
  | cons v rest => simp [scalars,alone]

/-- Characters that were read without a replacement give back the code units. -/
theorem units_scalars (text : Text) (whole : replacement ∉ scalars text) : units (scalars text) = text := by
  induction text using scalars.induct with
  | case1 => rfl
  | case2 u =>
    have kept : single u ≠ replacement := fun same => whole (List.mem_singleton.mpr same.symm)
    simp [scalars,units,unitsOf_single kept]
  | case3 u v rest paired ih =>
    obtain ⟨high,low⟩ := Bool.and_eq_true_iff.mp paired
    rw [scalars_pair high low] at whole ⊢
    have later := ih (fun inside => whole (List.mem_cons_of_mem _ inside))
    rw [units_cons,unitsOf_pair high low,later]
    rfl
  | case4 u v rest unpaired ih =>
    have read : scalars (u :: v :: rest) = single u :: scalars (v :: rest) := by
      rw [scalars,if_neg unpaired]
    rw [read] at whole ⊢
    have kept : single u ≠ replacement := fun same => whole (same ▸ List.mem_cons_self)
    have later := ih (fun inside => whole (List.mem_cons_of_mem _ inside))
    rw [units_cons,unitsOf_single kept,later]
    rfl

theorem replaced (u : UInt16) :
    ∃ other, other ≠ u ∧ isHigh other = false ∧ single other = replacement := by
  by_cases same : u = 0xFFFD
  · exact ⟨0xDC00,by rw [same]; decide,by decide,by decide⟩
  · exact ⟨0xFFFD,Ne.symm same,by decide,by decide⟩

/-- Where there is a replacement character, other code units are read as the same characters. -/
theorem ambiguous (text : Text) (replacing : replacement ∈ scalars text) :
    ∃ other, other ≠ text ∧ scalars other = scalars text := by
  induction text using scalars.induct with
  | case1 => cases replacing
  | case2 u =>
    obtain ⟨other,differs,_,read⟩ := replaced u
    refine ⟨[other],by simpa using differs,?_⟩
    rw [scalars,scalars,read,List.mem_singleton.mp replacing]
  | case3 u v rest paired ih =>
    obtain ⟨high,low⟩ := Bool.and_eq_true_iff.mp paired
    rw [scalars_pair high low] at replacing ⊢
    rcases List.mem_cons.mp replacing with here | later
    · exact absurd here.symm (pair_ne_replacement high low)
    · obtain ⟨other,differs,read⟩ := ih later
      refine ⟨u :: v :: other,by simpa using differs,?_⟩
      rw [scalars_pair high low,read]
  | case4 u v rest unpaired ih =>
    have whole : scalars (u :: v :: rest) = single u :: scalars (v :: rest) := by
      rw [scalars,if_neg unpaired]
    rw [whole] at replacing ⊢
    by_cases here : single u = replacement
    · obtain ⟨other,differs,alone,read⟩ := replaced u
      refine ⟨other :: v :: rest,by simpa using differs,?_⟩
      rw [scalars_alone alone,read,here]
    · have alone : isHigh u = false := by
        cases high : isHigh u with
        | true => exact absurd (by simp [single,high]) here
        | false => rfl
      obtain ⟨other,differs,read⟩ := ih (List.mem_of_ne_of_mem (Ne.symm here) replacing)
      refine ⟨u :: other,by simpa using differs,?_⟩
      rw [scalars_alone alone,read]

theorem scalars_append {v : UInt16} (low : isLow v = false) (text : Text) :
    scalars (text ++ [v]) = scalars text ++ [single v] := by
  induction text using scalars.induct with
  | case1 => rfl
  | case2 u => simp [scalars,low]
  | case3 u w rest paired ih =>
    obtain ⟨high,half⟩ := Bool.and_eq_true_iff.mp paired
    rw [List.cons_append,List.cons_append,scalars_pair high half,scalars_pair high half,ih,List.cons_append]
  | case4 u w rest unpaired ih =>
    rw [List.cons_append,List.cons_append,scalars,scalars,if_neg unpaired,if_neg unpaired]
    rw [List.cons_append] at ih
    rw [ih,List.cons_append]

end Unicode
