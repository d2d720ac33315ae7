import BoarPack.Users.Service

/-! API tokens: the shape of the credential, the table, and the bearer strategy.
A credential is `<token uuid>.<secret>`. `findOne` with `relations: ['user']` loads
the relation with the same soft-delete filter as a direct lookup, so a token of a
deleted user comes back with a `null` user. -/
namespace BoarPack.Tokens
open Users

def isHexDigit (c : Char) : Bool :=
  ('0' ≤ c && c ≤ '9') || ('a' ≤ c && c ≤ 'f') || ('A' ≤ c && c ≤ 'F')

def isVariantDigit (c : Char) : Bool :=
  c == '8' || c == '9' || c == 'a' || c == 'b' || c == 'A' || c == 'B'

def uuidPattern : List (Char → Bool) :=
  List.replicate 8 isHexDigit ++ [(· == '-')] ++ List.replicate 4 isHexDigit ++ [(· == '-'),(· == '4')] ++
    List.replicate 3 isHexDigit ++ [(· == '-'),isVariantDigit] ++ List.replicate 3 isHexDigit ++
    [(· == '-')] ++ List.replicate 12 isHexDigit

def consume : List (Char → Bool) → List Char → Option (List Char)
  | [], rest => some rest
  | _ :: _, [] => none
  | pattern :: patterns, c :: rest => if pattern c then consume patterns rest else none

def isApiTokenCredential (credential : String) : Bool :=
  match consume uuidPattern credential.toList with
  | some ('.' :: secret) => !secret.isEmpty && secret.all (· != '.')
  | _ => false

structure Token where
  id : String
  name : String
  hash : String
  userId : String
  deriving DecidableEq, Repr

abbrev Table := List Token

def findOne (platform : Platform) (table : Table) (id : String) : Option Token :=
  table.find? (fun token => platform.uuidEq token.id id)

namespace TokensAuthStrategy

def validate (platform : Platform) (tokens : Table) (users : Users.Table) (token : String) :
    Except Exception TUser :=
  let parts := split '.' token
  let id := parts.headD ""
  let hash := parts[1]?.getD ""
  if !platform.isUuidV4 id || hash == "" then .error (.unauthorized ("Invalid token " ++ token))
  else match findOne platform tokens id with
    | none => .error (.unauthorized "Invalid token")
    | some tokenEntity =>
      if !platform.compare hash tokenEntity.hash then .error (.unauthorized "Invalid token")
      else match Users.findOne users tokenEntity.userId with
        -- The destructuring of the missing relation, which no check guards.
        | none => .error (.typeError "Cannot destructure property 'pass' of 'tokenEntity.user' as it is null.")
        | some user => .ok { user.withoutPass with tokenId := some tokenEntity.id }

end TokensAuthStrategy

private theorem consume_append (patterns : List (Char → Bool)) (chars rest left : List Char)
    (consumed : consume patterns chars = some left) :
    consume patterns (chars ++ rest) = some (left ++ rest) := by
  induction patterns generalizing chars with
  | nil => cases Option.some.inj consumed; rfl
  | cons pattern patterns ih =>
    cases chars with
    | nil => cases consumed
    | cons c chars =>
      simp only [consume] at consumed
      split at consumed
      next matched => simpa [consume,matched] using ih chars consumed
      next failed => cases consumed

private theorem consume_avoids (patterns : List (Char → Bool)) (avoided : Char)
    (none_matches : ∀ pattern ∈ patterns, pattern avoided = false) (chars : List Char)
    (consumed : consume patterns chars = some []) : avoided ∉ chars := by
  induction patterns generalizing chars with
  | nil => cases Option.some.inj consumed; simp
  | cons pattern patterns ih =>
    cases chars with
    | nil => simp
    | cons c chars =>
      simp only [consume] at consumed
      split at consumed
      next matched =>
        have later := ih (fun p member => none_matches p (by simp [member])) chars consumed
        have differs : avoided ≠ c := by
          intro same
          have clash := none_matches pattern (by simp)
          rw [same,matched] at clash
          cases clash
        simp [differs,later]
      next failed => cases consumed

private theorem consume_taken (patterns : List (Char → Bool)) (chars left : List Char)
    (consumed : consume patterns chars = some left) :
    ∃ taken, chars = taken ++ left ∧ consume patterns taken = some [] := by
  induction patterns generalizing chars with
  | nil => exact ⟨[],Option.some.inj consumed,rfl⟩
  | cons pattern patterns ih =>
    cases chars with
    | nil => cases consumed
    | cons c chars =>
      simp only [consume] at consumed
      split at consumed
      next matched =>
        obtain ⟨taken,rfl,whole⟩ := ih chars consumed
        exact ⟨c :: taken,rfl,by simpa [consume,matched] using whole⟩
      next failed => cases consumed

def isUuidText (id : String) : Bool :=
  consume uuidPattern id.toList == some []

/-- A platform that computes: case mapping of ASCII, a transparent password hash, and
uuids compared without regard to case. -/
def plainPlatform : Platform where
  toLowerCase string := String.ofList (string.toList.map Char.toLower)
  toUpperCase string := String.ofList (string.toList.map Char.toUpper)
  compare password hash := hash == "$2b$" ++ password
  hash _ password := "$2b$" ++ password
  isUuidV4 := isUuidText
  uuidEq left right := left.toList.map Char.toLower == right.toList.map Char.toLower

private theorem uuidText_no_dot (id : String) (text : isUuidText id = true) : '.' ∉ id.toList :=
  consume_avoids uuidPattern '.' (by decide) id.toList (by simpa [isUuidText] using text)

theorem issued_isApiTokenCredential (id secret : String) (text : isUuidText id = true)
    (filled : secret ≠ "") (dotless : '.' ∉ secret.toList) :
    isApiTokenCredential (id ++ "." ++ secret) = true := by
  have consumed : consume uuidPattern id.toList = some [] := by simpa [isUuidText] using text
  have whole := consume_append uuidPattern id.toList ('.' :: secret.toList) [] consumed
  have chars : (id ++ "." ++ secret).toList = id.toList ++ '.' :: secret.toList := by simp
  have nonempty : secret.toList ≠ [] := by simpa using filled
  unfold isApiTokenCredential
  rw [chars,whole]
  simp only [List.nil_append,Bool.and_eq_true,Bool.not_eq_true',List.isEmpty_eq_false_iff,List.all_eq_true,
    bne_iff_ne]
  exact ⟨nonempty,fun c member same => dotless (same ▸ member)⟩

theorem split_issued (id secret : String) (text : isUuidText id = true) (dotless : '.' ∉ secret.toList) :
    split '.' (id ++ "." ++ secret) = [id,secret] := by
  have dot : "." = String.singleton '.' := by decide
  rw [dot,split_piece '.' id secret (uuidText_no_dot id text),split_whole '.' secret dotless]

/-- What the pattern accepts is an issued credential. -/
theorem issued_of_isApiTokenCredential (credential : String) (matched : isApiTokenCredential credential = true) :
    ∃ id secret, credential = id ++ "." ++ secret ∧ isUuidText id = true ∧ secret ≠ "" ∧ '.' ∉ secret.toList := by
  unfold isApiTokenCredential at matched
  split at matched
  next secret consumed =>
    obtain ⟨id,whole,text⟩ := consume_taken uuidPattern credential.toList ('.' :: secret) consumed
    simp only [Bool.and_eq_true,Bool.not_eq_true',List.isEmpty_eq_false_iff,List.all_eq_true,bne_iff_ne] at matched
    refine ⟨String.ofList id,String.ofList secret,?_,by simpa [isUuidText] using text,by simpa using matched.1,?_⟩
    · apply String.toList_injective
      simp [whole]
    · rw [String.toList_ofList]
      exact fun dot => matched.2 '.' dot rfl
  next => cases matched

theorem validate_issued (platform : Platform) (tokens : Table) (users : Users.Table) (id secret : String)
    (text : isUuidText id = true) (filled : secret ≠ "") (dotless : '.' ∉ secret.toList)
    (valid : platform.isUuidV4 id = true) :
    TokensAuthStrategy.validate platform tokens users (id ++ "." ++ secret) =
      match findOne platform tokens id with
      | none => .error (.unauthorized "Invalid token")
      | some row =>
        if !platform.compare secret row.hash then .error (.unauthorized "Invalid token")
        else match Users.findOne users row.userId with
          | none => .error (.typeError "Cannot destructure property 'pass' of 'tokenEntity.user' as it is null.")
          | some user => .ok { user.withoutPass with tokenId := some row.id } := by
  have accepted : (!platform.isUuidV4 id || secret == "") = false := by simp [valid,filled]
  unfold TokensAuthStrategy.validate
  rw [split_issued id secret text dotless]
  change (if (!platform.isUuidV4 id || secret == "") = true then _ else _) = _
  rw [accepted]
  rfl

end BoarPack.Tokens
