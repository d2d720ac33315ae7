import BoarPack.Library.Unicode
import Mathlib.Data.List.Basic

/-! Percent-encoding: characters that are kept, and the others as the bytes of their UTF-8, each `%` with two digits.
Reading is lenient: a `%` without its digits stands for itself. -/
namespace Percent
open Unicode

def digit (n : Nat) : Char := if n < 10 then Char.ofNat (n + 48) else Char.ofNat (n + 55)

def value (c : Char) : Option Nat :=
  if '0' ≤ c ∧ c ≤ '9' then some (c.toNat - 48)
  else if 'A' ≤ c ∧ c ≤ 'F' then some (c.toNat - 55)
  else if 'a' ≤ c ∧ c ≤ 'f' then some (c.toNat - 87)
  else none

def encodeByte (byte : UInt8) : List Char := ['%',digit (byte.toNat / 16),digit (byte.toNat % 16)]

section

variable (kept : Char → Bool)

def encodeChar (c : Char) : List Char := if kept c then [c] else (String.utf8EncodeChar c).flatMap encodeByte

def encode (text : List Char) : List Char := text.flatMap (encodeChar kept)

end

/-- The byte that a text begins with, and what follows it. -/
def escape : List Char → Option (UInt8 × List Char)
  | '%' :: a :: b :: rest =>
    match value a,value b with
    | some high,some low => some (UInt8.ofNat (high * 16 + low),rest)
    | _,_ => none
  | _ => none

theorem length_escape {text rest : List Char} {byte : UInt8} (found : escape text = some (byte,rest)) :
    rest.length < text.length := by
  unfold escape at found
  split at found
  next a b behind =>
    split at found
    next =>
      cases found
      simp only [List.length_cons]
      omega
    next => cases found
  next => cases found

def bytes (text : List Char) : List UInt8 :=
  match text with
  | [] => []
  | c :: rest =>
    match _found : escape (c :: rest) with
    | some (byte,behind) => byte :: bytes behind
    | none => String.utf8EncodeChar c ++ bytes rest
termination_by text.length
decreasing_by
  · exact length_escape _found
  · simp

def decode (text : List Char) : Option (List Char) := ((bytes text).toByteArray.utf8Decode?).map Array.toList

@[simp] theorem bytes_nil : bytes [] = [] := by rw [bytes]

theorem value_digit : ∀ n < 16, value (digit n) = some n := by decide

theorem escape_encodeByte (byte : UInt8) (rest : List Char) : escape (encodeByte byte ++ rest) = some (byte,rest) := by
  have bound := byte.toNat_lt
  have whole : byte.toNat / 16 * 16 + byte.toNat % 16 = byte.toNat := by omega
  simp only [encodeByte,List.cons_append,List.nil_append,escape]
  rw [value_digit _ (by omega),value_digit _ (by omega)]
  simp only [whole,UInt8.ofNat_toNat]

theorem bytes_encodeByte (byte : UInt8) (rest : List Char) : bytes (encodeByte byte ++ rest) = byte :: bytes rest := by
  have found := escape_encodeByte byte rest
  rw [encodeByte,List.cons_append] at found ⊢
  rw [bytes]
  split
  next other behind here =>
    rw [here] at found
    cases found
    rfl
  next nothing =>
    rw [nothing] at found
    cases found

theorem bytes_encodeBytes (data : List UInt8) (rest : List Char) :
    bytes (data.flatMap encodeByte ++ rest) = data ++ bytes rest := by
  induction data with
  | nil => rfl
  | cons byte data ih => rw [List.flatMap_cons,List.append_assoc,bytes_encodeByte,ih,List.cons_append]

theorem escape_plain {c : Char} (plain : c ≠ '%') (rest : List Char) : escape (c :: rest) = none := by
  unfold escape
  split
  next shape => cases shape; exact absurd rfl plain
  next => rfl

theorem bytes_plain {c : Char} (plain : c ≠ '%') (rest : List Char) :
    bytes (c :: rest) = String.utf8EncodeChar c ++ bytes rest := by
  have nothing := escape_plain plain rest
  rw [bytes]
  split
  next here => rw [here] at nothing; cases nothing
  next => rfl

section

variable {kept : Char → Bool}

theorem encode_cons (c : Char) (text : List Char) : encode kept (c :: text) = encodeChar kept c ++ encode kept text :=
  List.flatMap_cons

theorem bytes_encode (escaped : kept '%' = false) (text : List Char) : bytes (encode kept text) = utf8 text := by
  induction text with
  | nil => exact bytes_nil
  | cons c text ih =>
    rw [encode_cons,utf8_cons,encodeChar]
    cases keeps : kept c with
    | true =>
      have plain : c ≠ '%' := by
        rintro rfl
        rw [escaped] at keeps
        cases keeps
      rw [if_pos rfl,List.singleton_append,bytes_plain plain,ih]
    | false => rw [if_neg Bool.false_ne_true,bytes_encodeBytes,ih]

/-- Reading gives back what was encoded. -/
theorem decode_encode (escaped : kept '%' = false) (text : List Char) : decode (encode kept text) = some text := by
  have read : (utf8 text).toByteArray.utf8Decode? = some text.toArray := by
    have decoded := List.utf8Decode?_utf8Encode (l := text)
    exact decoded
  rw [decode,bytes_encode escaped,read]
  rfl

theorem digit_hex : ∀ n < 16, value (digit n) ≠ none := by decide

/-- What an encoded text is made of. -/
theorem mem_encodeChar {c d : Char} (inside : d ∈ encodeChar kept c) :
    (kept c = true ∧ d = c) ∨ (kept c = false ∧ (d = '%' ∨ value d ≠ none)) := by
  rw [encodeChar] at inside
  cases keeps : kept c with
  | true =>
    rw [keeps,if_pos rfl,List.mem_singleton] at inside
    exact Or.inl ⟨rfl,inside⟩
  | false =>
    rw [keeps,if_neg Bool.false_ne_true] at inside
    obtain ⟨byte,_,here⟩ := List.mem_flatMap.mp inside
    have bound := byte.toNat_lt
    rw [encodeByte,List.mem_cons,List.mem_cons,List.mem_singleton] at here
    refine Or.inr ⟨rfl,?_⟩
    rcases here with mark | high | low
    · exact Or.inl mark
    · exact Or.inr (high ▸ digit_hex _ (by omega))
    · exact Or.inr (low ▸ digit_hex _ (by omega))

/-- A character that no escape is made of stays where it was, and is not added. -/
theorem mem_encode_iff {d : Char} (mark : d ≠ '%') (other : value d = none) (text : List Char) :
    d ∈ encode kept text ↔ kept d = true ∧ d ∈ text := by
  rw [encode,List.mem_flatMap]
  constructor
  · rintro ⟨c,member,inside⟩
    rcases mem_encodeChar inside with ⟨keeps,rfl⟩ | ⟨_,escape⟩
    · exact ⟨keeps,member⟩
    · rcases escape with same | hex
      · exact absurd same mark
      · exact absurd other hex
  · rintro ⟨keeps,member⟩
    exact ⟨d,member,by simp [encodeChar,keeps]⟩

theorem takeWhile_encode {stop : Char → Bool} (stays : ∀ c, stop c = true → kept c = true ∧ c ≠ '%' ∧ value c = none)
    (text : List Char) :
    (encode kept text).takeWhile (fun c => !stop c) = encode kept (text.takeWhile (fun c => !stop c)) := by
  induction text with
  | nil => rfl
  | cons c text ih =>
    rw [encode_cons]
    cases stops : stop c with
    | true =>
      have whole : encodeChar kept c = [c] := by rw [encodeChar,(stays c stops).1,if_pos rfl]
      simp [whole,stops,encode]
    | false =>
      have passes : ∀ d ∈ encodeChar kept c, (!stop d) = true := by
        intro d inside
        rw [Bool.not_eq_true',← Bool.not_eq_true]
        intro halts
        rcases mem_encodeChar inside with ⟨_,rfl⟩ | ⟨_,escape⟩
        · exact Bool.noConfusion (stops.symm.trans halts)
        · rcases escape with equal | hex
          · exact (stays d halts).2.1 equal
          · exact hex (stays d halts).2.2
      rw [List.takeWhile_append_of_pos passes,ih]
      simp [stops,encode_cons]

theorem encode_kept {text : List Char} (keeps : ∀ c ∈ text, kept c = true) : encode kept text = text := by
  induction text with
  | nil => rfl
  | cons c text ih =>
    obtain ⟨first,later⟩ := List.forall_mem_cons.mp keeps
    rw [encode_cons,ih later,encodeChar,first,if_pos rfl,List.singleton_append]

theorem splitOn_clean_append {d : Char} {piece : List Char} (clean : d ∉ piece) (text : List Char) :
    (piece ++ text).splitOn d = (text.splitOn d).modifyHead (piece ++ ·) := by
  induction piece with
  | nil =>
    obtain ⟨first,others,shape⟩ := List.exists_cons_of_ne_nil (List.splitOn_ne_nil d text)
    rw [List.nil_append,shape]
    rfl
  | cons c piece ih =>
    rw [List.mem_cons,not_or] at clean
    rw [List.cons_append,List.splitOn_cons_eq_if_modifyHead,ih clean.2]
    obtain ⟨first,others,shape⟩ := List.exists_cons_of_ne_nil (List.splitOn_ne_nil d text)
    simp [shape,Ne.symm clean.1]

/-- Splitting at a character that is kept comes to the same before and after. -/
theorem splitOn_encode {d : Char} (mark : d ≠ '%') (other : value d = none) (keeps : kept d = true) (text : List Char) :
    (encode kept text).splitOn d = (text.splitOn d).map (encode kept) := by
  induction text with
  | nil => simp [encode]
  | cons c text ih =>
    obtain ⟨first,others,shape⟩ := List.exists_cons_of_ne_nil (List.splitOn_ne_nil d text)
    rw [encode_cons]
    by_cases same : c = d
    · subst same
      have whole : encodeChar kept c = [c] := by rw [encodeChar,keeps,if_pos rfl]
      rw [whole,List.singleton_append,List.splitOn_cons_eq_if_modifyHead,List.splitOn_cons_eq_if_modifyHead,ih]
      simp [encode]
    · have clean : d ∉ encodeChar kept c := by
        intro inside
        rcases mem_encodeChar inside with ⟨_,equal⟩ | ⟨_,escape⟩
        · exact same equal.symm
        · rcases escape with equal | hex
          · exact mark equal
          · exact hex other
      rw [splitOn_clean_append clean,ih,List.splitOn_cons_eq_if_modifyHead,shape]
      simp [same,encode_cons]

end

end Percent
