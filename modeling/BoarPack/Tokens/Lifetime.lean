import BoarPack.Tokens.Controller

/-! An API token opens the system from the answer of `createOne` that showed its value until it is deleted, to whoever
presents the value, as its owner. -/
namespace BoarPack.Tokens.Controllers
open Unicode Transition

variable {Q B : Type}

def Withdraws (platform : Platform) (id : String) (entry : Request Q B × Answer) : Prop :=
  entry.2 = .deleted ∧ ∃ path query, entry.1.route = .deleteOneBase path query ∧ platform.uuidEq id path = true

/-- The token was handed out, and no later request deleted it. -/
def Standing (platform : Platform) (trace : List (Request Q B × Answer)) (token : TokenWithValueDto) : Prop :=
  ∃ earlier request later, trace = earlier ++ (request,.created token) :: later ∧
    ∀ entry ∈ later, ¬ Withdraws platform token.id entry

/-- The first piece of the credential is the id of the token, in any spelling that the packages take; the second one
with the id is the value. Further pieces are not looked at. -/
def Presents (platform : Platform) (credential : String) (token : TokenWithValueDto) : Prop :=
  ∃ id secret rest, split '.' credential = id :: secret :: rest ∧ platform.isUuidV4 id = true ∧
    platform.uuidEq token.id id = true ∧ token.value = token.id ++ "." ++ secret

/-- No field gets through to an update but those that the DTO declares. -/
def Declared (crud : TypeOrmCrudService Q B) (request : Request Q B) : Prop :=
  match request.route with
  | .updateOneBase _ dto _ => (dto.piped crud).user = none ∧ (dto.piped crud).rest = none
  | _ => True

/-- What is used of the packages and of Postgres; bcrypt reads 72 bytes of a password. -/
structure Discerning (platform : Platform) : Prop where
  valid : ∀ id, isUuidText id = true → platform.isUuidV4 id = true
  same : ∀ id, isUuidText id = true → platform.uuidEq id id = true
  symm : ∀ id other, platform.uuidEq id other = true → platform.uuidEq other id = true
  trans : ∀ id other third, platform.uuidEq id other = true → platform.uuidEq other third = true →
    platform.uuidEq id third = true
  hashed : ∀ salt password other, (utf8 password.toList).length < 72 →
    (platform.compare other (platform.hash salt password) = true ↔ other = password)

/-- The row holds what was handed out, its name apart, which an update may change. -/
structure Holds (platform : Platform) (row : Token) (token : TokenWithValueDto) : Prop where
  id : row.id = token.id
  owner : row.userId = token.userId
  secret : ∃ salt, ∃ rawBytes : Vector UInt8 32, row.hash = platform.hash salt (hex rawBytes.toList) ∧
    token.value = token.id ++ "." ++ hex rawBytes.toList

structure Kept (platform : Platform) (s : State Q B) : Prop where
  distinct : ∀ row ∈ s.tokens, ∀ other ∈ s.tokens, platform.uuidEq row.id other.id = true → row = other
  texts : ∀ row ∈ s.tokens, isUuidText row.id = true
  stored : ∀ token, Standing platform s.trace token → ∃ row ∈ s.tokens, Holds platform row token
  issued : ∀ row ∈ s.tokens, ∃ token, Standing platform s.trace token ∧ Holds platform row token

section Hex

private theorem hexDigit_plain : ∀ n < 16, hexDigit n ≠ '.' ∧ (hexDigit n).val ≤ 127 := by decide

private theorem hex_plain (bytes : List UInt8) : ∀ c ∈ (hex bytes).toList, c ≠ '.' ∧ c.val ≤ 127 := by
  intro c member
  rw [hex,String.toList_ofList] at member
  obtain ⟨byte,_,inside⟩ := List.mem_flatMap.mp member
  have bound := byte.toNat_lt
  rcases List.mem_cons.mp inside with rfl | low
  · exact hexDigit_plain _ (by omega)
  · rw [List.mem_singleton.mp low]
    exact hexDigit_plain _ (by omega)

private theorem hex_length (bytes : List UInt8) : (hex bytes).toList.length = 2 * bytes.length := by
  rw [hex,String.toList_ofList]
  induction bytes with
  | nil => rfl
  | cons byte rest ih =>
    rw [List.flatMap_cons,List.length_append,ih]
    simp only [List.length_cons,List.length_nil]
    omega

private theorem hex_short (rawBytes : Vector UInt8 32) : (utf8 (hex rawBytes.toList).toList).length < 72 := by
  rw [length_utf8_ascii (fun c member => (hex_plain _ c member).2),hex_length,Vector.length_toList]
  omega

private theorem hex_filled (rawBytes : Vector UInt8 32) : hex rawBytes.toList ≠ "" := by
  intro empty
  have none_left := hex_length rawBytes.toList
  rw [empty,Vector.length_toList] at none_left
  cases none_left

private theorem hex_dotless (bytes : List UInt8) : '.' ∉ (hex bytes).toList :=
  fun member => (hex_plain bytes '.' member).1 rfl

end Hex

section Lifetime

variable {platform : Platform} {crud : TypeOrmCrudService Q B} {s t : State Q B} {request : Request Q B}
  {answer : Answer}

private theorem standing_append (trace : List (Request Q B × Answer)) (entry : Request Q B × Answer)
    (token : TokenWithValueDto) :
    Standing platform (trace ++ [entry]) token ↔
      entry.2 = .created token ∨ Standing platform trace token ∧ ¬ Withdraws platform token.id entry := by
  constructor
  · intro standing
    obtain ⟨earlier,request,later,parts,kept⟩ := standing
    rcases List.eq_nil_or_concat later with rfl | ⟨before,last,rfl⟩
    · obtain ⟨_,single⟩ := List.append_inj' parts rfl
      rw [List.singleton_inj.mp single]
      exact Or.inl rfl
    · rw [List.concat_eq_append] at parts kept
      rw [← List.cons_append,← List.append_assoc] at parts
      obtain ⟨rfl,single⟩ := List.append_inj' parts rfl
      rw [List.singleton_inj.mp single]
      exact Or.inr ⟨⟨earlier,request,before,rfl,fun entry member => kept entry (List.mem_append_left _ member)⟩,
        kept last (by simp)⟩
  · intro cases_
    rcases cases_ with handed | ⟨⟨earlier,request,later,rfl,kept⟩,stays⟩
    · obtain ⟨request,answer⟩ := entry
      obtain rfl : answer = .created token := handed
      exact ⟨trace,request,[],rfl,by simp⟩
    · refine ⟨earlier,request,later ++ [entry],by simp,?_⟩
      intro other member
      rcases List.mem_append.mp member with old | new
      · exact kept other old
      · rw [List.mem_singleton.mp new]
        exact stays

/-- An answer that is about no token handed out or taken back. -/
theorem standing_same (trace : List (Request Q B × Answer)) (not_created : ∀ token, answer ≠ .created token)
    (not_deleted : answer ≠ .deleted) (token : TokenWithValueDto) :
    Standing platform (trace ++ [(request,answer)]) token ↔ Standing platform trace token := by
  rw [standing_append]
  constructor
  · intro cases_
    rcases cases_ with handed | ⟨standing,_⟩
    · exact absurd handed (not_created token)
    · exact standing
  · intro standing
    exact Or.inr ⟨standing,fun withdraws => not_deleted withdraws.1⟩

private theorem updateOneBase_answer (user : Option String) (table : Table) (id : String) (dto : TokenUpdateDto B)
    (query : Q) :
    (∀ token, (updateOneBase crud user table id dto query).1 ≠ .created token) ∧
      (updateOneBase crud user table id dto query).1 ≠ .deleted := by
  unfold updateOneBase
  split
  next =>
    dsimp only
    split
    · simp
    · simp
  next => simp

theorem Kept.unchanged (kept : Kept platform s) (not_created : ∀ token, answer ≠ .created token)
    (not_deleted : answer ≠ .deleted) :
    Kept platform ⟨s.tokens,s.trace ++ [(request,answer)]⟩ where
  distinct := kept.distinct
  texts := kept.texts
  stored token standing := kept.stored token ((standing_same _ not_created not_deleted token).mp standing)
  issued row member := by
    obtain ⟨token,standing,holds⟩ := kept.issued row member
    exact ⟨token,(standing_same _ not_created not_deleted token).mpr standing,holds⟩

/-- An update writes a row over, by another that holds the same token. -/
theorem Kept.written (kept : Kept platform s) (not_created : ∀ token, answer ≠ .created token)
    (not_deleted : answer ≠ .deleted)
    {token : Token} (keeps : ∀ row ∈ s.tokens, row.id = token.id → token.userId = row.userId ∧ token.hash = row.hash) :
    Kept platform ⟨written s.tokens token,s.trace ++ [(request,answer)]⟩ := by
  have same_holds : ∀ row ∈ s.tokens, ∀ handed, Holds platform row handed →
      Holds platform (if row.id == token.id then token else row) handed := by
    intro row member handed holds
    split
    next same =>
      obtain ⟨owner,hash⟩ := keeps row member (eq_of_beq same)
      exact ⟨(eq_of_beq same).symm.trans holds.id,owner.trans holds.owner,by rw [hash]; exact holds.secret⟩
    next => exact holds
  have same_id : ∀ row : Token, (if row.id == token.id then token else row).id = row.id := by
    intro row
    split
    next same => exact (eq_of_beq same).symm
    next => rfl
  refine ⟨?distinct,?texts,?stored,?issued⟩
  case distinct =>
    intro row member other inside same
    obtain ⟨before,there,rfl⟩ := List.mem_map.mp member
    obtain ⟨past,here,rfl⟩ := List.mem_map.mp inside
    rw [same_id,same_id] at same
    rw [kept.distinct before there past here same]
  case texts =>
    intro row member
    obtain ⟨before,there,rfl⟩ := List.mem_map.mp member
    rw [same_id]
    exact kept.texts before there
  case stored =>
    intro handed standing
    obtain ⟨row,member,holds⟩ := kept.stored handed ((standing_same _ not_created not_deleted handed).mp standing)
    exact ⟨_,List.mem_map_of_mem member,same_holds row member handed holds⟩
  case issued =>
    intro row member
    obtain ⟨before,there,rfl⟩ := List.mem_map.mp member
    obtain ⟨handed,standing,holds⟩ := kept.issued before there
    exact ⟨handed,(standing_same _ not_created not_deleted handed).mpr standing,same_holds before there handed holds⟩

theorem Kept.created (discerning : Discerning platform) (kept : Kept platform s) {user name salt newId : String}
    {rawBytes : Vector UInt8 32} (text : isUuidText newId = true)
    (fresh : ∀ row ∈ s.tokens, row.id ≠ newId ∧ platform.uuidEq row.id newId = false) :
    Kept platform ⟨s.tokens ++ [⟨newId,name,platform.hash salt (hex rawBytes.toList),user⟩],
      s.trace ++ [(request,.created ⟨newId,name,user,newId ++ "." ++ hex rawBytes.toList⟩)]⟩ where
  distinct := by
    intro row member other inside same
    rcases List.mem_append.mp member with old | new
    · rcases List.mem_append.mp inside with past | added
      · exact kept.distinct row old other past same
      · rw [List.mem_singleton.mp added,(fresh row old).2] at same
        cases same
    · rcases List.mem_append.mp inside with past | added
      · rw [List.mem_singleton.mp new] at same
        have back := discerning.symm _ _ same
        rw [(fresh other past).2] at back
        cases back
      · rw [List.mem_singleton.mp new,List.mem_singleton.mp added]
  texts := by
    intro row member
    rcases List.mem_append.mp member with old | new
    · exact kept.texts row old
    · rw [List.mem_singleton.mp new]
      exact text
  stored := by
    intro token standing
    rcases (standing_append _ _ token).mp standing with handed | ⟨before,_⟩
    · cases handed
      exact ⟨_,List.mem_append_right _ List.mem_cons_self,rfl,rfl,salt,rawBytes,rfl,rfl⟩
    · obtain ⟨row,member,holds⟩ := kept.stored token before
      exact ⟨row,List.mem_append_left _ member,holds⟩
  issued := by
    intro row member
    rcases List.mem_append.mp member with old | new
    · obtain ⟨token,standing,holds⟩ := kept.issued row old
      refine ⟨token,(standing_append _ _ token).mpr (Or.inr ⟨standing,?_⟩),holds⟩
      intro withdraws
      cases withdraws.1
    · rw [List.mem_singleton.mp new]
      exact ⟨_,(standing_append _ _ _).mpr (Or.inl rfl),rfl,rfl,salt,rawBytes,rfl,rfl⟩

theorem Kept.deleted (discerning : Discerning platform) (kept : Kept platform s) {user : Option String} {path : String}
    {query : Q} {found : Token} (inside : found ∈ s.tokens) (named : platform.uuidEq found.id path = true) :
    Kept platform ⟨s.tokens.filter (fun row => row.id != found.id),
      s.trace ++ [(⟨user,.deleteOneBase path query⟩,.deleted)]⟩ where
  distinct row member other there :=
    kept.distinct row (List.mem_of_mem_filter member) other (List.mem_of_mem_filter there)
  texts row member := kept.texts row (List.mem_of_mem_filter member)
  stored := by
    intro token standing
    rcases (standing_append _ _ token).mp standing with handed | ⟨before,stays⟩
    · cases handed
    · obtain ⟨row,member,holds⟩ := kept.stored token before
      refine ⟨row,List.mem_filter.mpr ⟨member,?_⟩,holds⟩
      rw [bne_iff_ne]
      intro same
      exact stays ⟨rfl,path,query,rfl,by rw [← holds.id,same]; exact named⟩
  issued := by
    intro row member
    obtain ⟨old,other⟩ := List.mem_filter.mp member
    obtain ⟨token,standing,holds⟩ := kept.issued row old
    refine ⟨token,(standing_append _ _ token).mpr (Or.inr ⟨standing,?_⟩),holds⟩
    intro withdraws
    obtain ⟨_,_,_,routed,same⟩ := withdraws
    cases routed
    rw [← holds.id] at same
    have equal := kept.distinct row old found inside (discerning.trans _ _ _ same (discerning.symm _ _ named))
    rw [equal,bne_self_eq_false] at other
    cases other

theorem kept_step (discerning : Discerning platform) (documented : Documented platform crud) (kept : Kept platform s)
    (declared : Declared crud request) (taken : step platform crud s request = some t) : Kept platform t := by
  obtain ⟨⟨answer,saved⟩,done,rfl⟩ := Option.map_eq_some_iff.mp taken
  obtain ⟨user,route⟩ := request
  cases route with
  | getManyBase query =>
    cases done
    exact kept.unchanged (by simp) (by simp)
  | createOne name rawBytes salt newId query =>
    cases user with
    | none => cases done
    | some user =>
      obtain ⟨text,fresh,⟨⟨error,rfl⟩,rfl⟩ | ⟨rfl,rfl⟩⟩ := createOne_some documented done
      · exact kept.unchanged (by simp) (by simp)
      · exact kept.created discerning text fresh
  | updateOneBase id dto query =>
    obtain ⟨rfl,rfl⟩ := Prod.ext_iff.mp (Option.some.inj done)
    obtain ⟨not_created,not_deleted⟩ := @updateOneBase_answer Q B crud user s.tokens id dto query
    rcases updateOneBase_cases documented user s.tokens id dto query with
      same | ⟨found,read,token,saves,_,named,_,written_over⟩
    · rw [same]
      exact kept.unchanged not_created not_deleted
    · rw [saves]
      have inside := List.mem_of_mem_filter read
      refine kept.written not_created not_deleted (fun row member same => ?_)
      -- the row of that id is the one that the update found
      have one : row = found :=
        kept.distinct row member found inside (by rw [same,named]; exact discerning.same _ (kept.texts found inside))
      rw [written_over declared.1 declared.2,one]
      exact ⟨rfl,rfl⟩
  | deleteOneBase id query =>
    have answered := Option.some.inj done
    rcases deleteOneBase_cases documented user s.tokens id query with ⟨error,absent⟩ | ⟨removed,read,named,removes⟩
    · cases absent.symm.trans answered
      exact kept.unchanged (by simp) (by simp)
    · cases removes.symm.trans answered
      exact kept.deleted discerning (List.mem_of_mem_filter read) named

theorem kept_run (discerning : Discerning platform) (documented : Documented platform crud)
    (requests : List (Request Q B))
    (declared : ∀ request ∈ requests, Declared crud request) (ran : run (step platform crud) {} requests = some s) :
      Kept platform s := by
  have initial : Kept platform ({} : State Q B) := by
    refine ⟨by simp,by simp,?_,by simp⟩
    intro token standing
    obtain ⟨earlier,request,later,parts,_⟩ := standing
    simp at parts
  exact run_invariant_meeting (Kept platform) (fun _ request => Declared crud request)
    (fun s request t kept declared taken => kept_step discerning documented kept declared taken) {} s requests initial
    (meets_of_labels declared) ran

private theorem validate_ok_iff (users : Users.Table) (table : Table) (credential : String) (user : Users.TUser) :
    TokensAuthStrategy.validate platform table users credential = .ok user ↔
      ∃ id secret rest row owner, split '.' credential = id :: secret :: rest ∧ platform.isUuidV4 id = true ∧
        secret ≠ "" ∧
        findOne platform table id = some row ∧ platform.compare secret row.hash = true ∧
        Users.findOne users row.userId = some owner ∧ user = { owner.withoutPass with tokenId := some row.id } := by
  unfold TokensAuthStrategy.validate
  generalize split '.' credential = pieces
  match pieces with
  | [] => simp
  | [id] => simp
  | id :: secret :: rest =>
    simp only [List.headD_cons,List.getElem?_cons_succ,List.getElem?_cons_zero,Option.getD_some]
    constructor
    · intro accepted
      split at accepted
      next malformed => cases accepted
      next formed =>
        simp only [Bool.or_eq_true,Bool.not_eq_true',beq_iff_eq,not_or,Bool.not_eq_false] at formed
        split at accepted
        next absent => cases accepted
        next row found =>
          split at accepted
          next refused => cases accepted
          next matched =>
            split at accepted
            next gone => cases accepted
            next owner owned =>
              exact ⟨id,secret,rest,row,owner,rfl,formed.1,formed.2,
                found,by simpa using matched,owned,(Except.ok.inj accepted).symm⟩
    · intro accepted
      obtain ⟨_,_,_,row,owner,same,valid,filled,found,matched,owned,rfl⟩ := accepted
      cases same
      simp [valid,filled,found,matched,owned]

theorem Kept.found (discerning : Discerning platform) (kept : Kept platform s) {row : Token} (member : row ∈ s.tokens)
    {id : String} (named : platform.uuidEq row.id id = true) : findOne platform s.tokens id = some row := by
  cases read : findOne platform s.tokens id with
  | none => exact absurd named (by simpa using List.find?_eq_none.mp read row member)
  | some other =>
    have also_named : platform.uuidEq other.id id = true := by simpa using List.find?_some read
    have both := discerning.trans _ _ _ also_named (discerning.symm _ _ named)
    rw [kept.distinct other (List.mem_of_find?_eq_some read) row member both]

private theorem presents_value (discerning : Discerning platform) {row : Token} {token : TokenWithValueDto}
    (text : isUuidText row.id = true) (holds : Holds platform row token) : Presents platform token.value token := by
  obtain ⟨_,rawBytes,_,value⟩ := holds.secret
  rw [holds.id] at text
  refine ⟨token.id,hex rawBytes.toList,[],?_,discerning.valid _ text,discerning.same _ text,value⟩
  rw [value,split_issued token.id _ text (hex_dotless _)]

/-- After any requests to both controllers: a credential is accepted if and only if it presents a token that was
handed out and not deleted since, whose owner exists, and it is accepted as him. The value that was handed out is such
a credential. -/
theorem accepted_iff_standing (platform : Platform) (discerning : Discerning platform) (crud : TypeOrmCrudService Q B)
    (documented : Documented platform crud) (requests : List (Request Q B))
    (declared : ∀ request ∈ requests, Declared crud request)
    (ran : run (step platform crud) {} requests = some s) (users : Users.Table) :
    (∀ credential user, TokensAuthStrategy.validate platform s.tokens users credential = .ok user ↔
      ∃ token, Standing platform s.trace token ∧ Presents platform credential token ∧
        ∃ owner, Users.findOne users token.userId = some owner ∧
          user = { owner.withoutPass with tokenId := some token.id }) ∧
    ∀ token, Standing platform s.trace token → Presents platform token.value token := by
  have kept := kept_run discerning documented requests declared ran
  constructor
  · intro credential user
    rw [validate_ok_iff]
    constructor
    · intro accepted
      obtain ⟨id,secret,rest,row,owner,pieces,valid,_,found,matched,owned,rfl⟩ := accepted
      obtain ⟨token,standing,holds⟩ := kept.issued row (List.mem_of_find?_eq_some found)
      obtain ⟨salt,rawBytes,hash,value⟩ := holds.secret
      rw [hash,discerning.hashed _ _ _ (hex_short rawBytes)] at matched
      have named : platform.uuidEq row.id id = true := by simpa using List.find?_some found
      refine ⟨token,standing,⟨id,secret,rest,pieces,valid,by rw [← holds.id]; exact named,by rw [matched]; exact value⟩,
        owner,?_,?_⟩
      · rw [← holds.owner]
        exact owned
      · rw [holds.id]
    · intro presented
      obtain ⟨token,standing,⟨id,secret,rest,pieces,valid,named,value⟩,owner,owned,rfl⟩ := presented
      obtain ⟨row,member,holds⟩ := kept.stored token standing
      obtain ⟨salt,rawBytes,hash,handed⟩ := holds.secret
      obtain rfl : secret = hex rawBytes.toList := by simpa using value.symm.trans handed
      have named_row : platform.uuidEq row.id id = true := by
        rw [holds.id]
        exact named
      have found := kept.found discerning member named_row
      refine ⟨id,_,rest,row,owner,pieces,valid,hex_filled rawBytes,found,?_,?_,?_⟩
      · rw [hash,discerning.hashed _ _ _ (hex_short rawBytes)]
      · rw [holds.owner]
        exact owned
      · rw [holds.id]
  · intro token standing
    obtain ⟨row,member,holds⟩ := kept.stored token standing
    exact presents_value discerning (kept.texts row member) holds

end Lifetime

private theorem discerning_plain : Discerning plainPlatform where
  valid id text := text
  same id _ := by simp [plainPlatform]
  symm id other named := by
    simp only [plainPlatform,beq_iff_eq] at named ⊢
    exact named.symm
  trans id other third named also_named := by
    simp only [plainPlatform,beq_iff_eq] at named also_named ⊢
    exact named.trans also_named
  hashed salt password other _ := by
    simp only [plainPlatform,beq_iff_eq,String.append_right_inj]
    exact eq_comm

def renamedByManager : List (Request Unit (Option String × Option String)) :=
  [⟨some "first",.createOne (some "ci") (Vector.replicate 32 7) "" "5b0c3f5e-2f0e-4c39-9a37-0d8a52c1e7f4" ()⟩,
    ⟨none,.updateOneBase "5B0C3F5E-2F0E-4C39-9A37-0D8A52C1E7F4" { name := some "nightly" } ()⟩,
    ⟨some "first",.updateOneBase "5b0c3f5e-2f0e-4c39-9a37-0d8a52c1e7f4" { name := some "daily" } ()⟩]

def firstOwner : Users.User := ⟨"first","First","first@test.test",.user,none,[],none⟩

theorem renamed_accepted : ∃ s, run (step plainPlatform plainCrud) {} renamedByManager = some s ∧
    (TokensAuthStrategy.validate plainPlatform s.tokens [firstOwner]
        ("5b0c3f5e-2f0e-4c39-9a37-0d8a52c1e7f4." ++ hex (List.replicate 32 7)) =
          .ok { firstOwner.withoutPass with tokenId := some "5b0c3f5e-2f0e-4c39-9a37-0d8a52c1e7f4" } ↔
      ∃ token, Standing plainPlatform s.trace token ∧
        Presents plainPlatform ("5b0c3f5e-2f0e-4c39-9a37-0d8a52c1e7f4." ++ hex (List.replicate 32 7)) token ∧
        ∃ owner, Users.findOne [firstOwner] token.userId = some owner ∧
          ({ firstOwner.withoutPass with tokenId := some "5b0c3f5e-2f0e-4c39-9a37-0d8a52c1e7f4" } : Users.TUser) =
            { owner.withoutPass with tokenId := some token.id }) :=
  ⟨_,rfl,(accepted_iff_standing plainPlatform discerning_plain plainCrud plainCrud_documented renamedByManager
    (by simp [renamedByManager,Declared,TokenUpdateDto.piped,plainCrud]) rfl [firstOwner]).1 _ _⟩

end BoarPack.Tokens.Controllers
