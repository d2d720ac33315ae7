import BoarPack.Auth.Service
import BoarPack.JwtAuth.Guard
import BoarPack.Library.Containers

/-! The cookies of a session: how `AuthService` sets and clears them, what a browser keeps and sends back, and what the
strategies read of the header. The text of a token is a parameter. -/
namespace BoarPack.Auth
open JwtAuth Containers

def refreshTokenName : String := "auth_refresh_token"

/-- `secureCookie` is `process.env.SECURE_COOKIE`. -/
structure AuthConfig where
  refreshTokenPath : String := "/api/auth/refresh"
  secureCookie : Option String := none

structure CookieOptions where
  httpOnly : Bool := true
  secure : Bool
  sameSite : String := "lax"
  maxAge : Option Int := none
  path : Option String := none
  deriving DecidableEq, Repr

inductive SetCookie
  | cookie (name : String) (value : Payload) (options : CookieOptions)
  | clearCookie (name : String) (options : CookieOptions)
  deriving DecidableEq, Repr

/-- `exp && Math.max(exp * 1000 - Date.now(), 0)`. -/
def maxAge (now : Nat) (exp : Option Int) : Option Int :=
  exp.map (fun exp => if exp = 0 then 0 else max (exp * 1000 - now) 0)

def AuthConfig.secure (auth : AuthConfig) : Bool := auth.secureCookie == some "true"

def setCookie (auth : AuthConfig) (now : Nat) (tokens : LocalAuthToken) : List SetCookie :=
  [.cookie tokenName tokens.accessToken.token
      { secure := auth.secure, maxAge := maxAge now tokens.accessToken.payload.exp },
    .cookie refreshTokenName tokens.refreshToken.token
      { secure := auth.secure, maxAge := maxAge now tokens.refreshToken.payload.exp,
        path := some auth.refreshTokenPath }]

def clearCookies (auth : AuthConfig) : List SetCookie :=
  [.clearCookie tokenName { secure := auth.secure },
    .clearCookie refreshTokenName { secure := auth.secure, path := some auth.refreshTokenPath }]

/-- A cookie that a browser keeps. Express cuts the age to whole seconds. -/
structure StoredCookie where
  value : Payload
  expires : Option Int
  deriving DecidableEq, Repr

/-- The cookies of one host, by name and path. -/
abbrev Jar : Type := List ((String × String) × StoredCookie)

def Jar.receive (now : Nat) (jar : Jar) : SetCookie → Jar
  | .cookie name value options =>
    Containers.set jar (name,options.path.getD "/") ⟨value,options.maxAge.map (fun age => now + age / 1000 * 1000)⟩
  | .clearCookie name options => jar.filter (fun entry => entry.1 != (name,options.path.getD "/"))

def Jar.receiveAll (now : Nat) (jar : Jar) (headers : List SetCookie) : Jar := headers.foldl (Jar.receive now) jar

def pathMatches (path cookiePath : String) : Bool :=
  path == cookiePath || (cookiePath.toList.isPrefixOf path.toList &&
    (cookiePath.toList.getLast? == some '/' || path.toList[cookiePath.length]? == some '/'))

def StoredCookie.live (now : Nat) (stored : StoredCookie) : Bool :=
  stored.expires.all (fun expires => decide ((now : Int) < expires))

/-- What goes along with a request to a path. -/
def Jar.sent (now : Nat) (jar : Jar) (path : String) : List (String × Payload) :=
  (jar.filter (fun entry => pathMatches path entry.1.2 && entry.2.live now)).map (fun entry =>
    (entry.1.1,entry.2.value))

/-- The `Cookie` header; without cookies there is none. -/
def cookieHeader (cookies : List (String × String)) : Option String :=
  if cookies = [] then none else some
    (String.intercalate "; " (cookies.map (fun cookie => cookie.1 ++ "=" ++ cookie.2)))

/-- The extractor of both strategies, each with its own name. -/
def fromCookieNamed (name : String) (request : HttpRequest) : Option String :=
  match request.cookie with
  | none => none
  | some cookie =>
    match (splitOn "; " cookie).find? (fun c => (name ++ "=").toList.isPrefixOf c.toList) with
    | none => none
    | some cookie => (split '=' cookie)[1]?

private theorem fromCookie_named : fromCookie = fromCookieNamed tokenName := rfl

def fromRefreshCookie : HttpRequest → Option String := fromCookieNamed refreshTokenName

/-- What comes back from the routes that log in, refresh and log out; `now` is when it was made. -/
inductive Answer
  | tokens (now : Nat) (pair : LocalAuthToken)
  | cleared
  deriving DecidableEq, Repr

def Answer.cookies (auth : AuthConfig) : Answer → List SetCookie
  | tokens now pair => setCookie auth now pair
  | cleared => clearCookies auth

def kept (now made : Nat) (signed : Signed) : StoredCookie :=
  ⟨signed.token,(maxAge made signed.payload.exp).map (fun age => now + age / 1000 * 1000)⟩

/-- The access and the refresh cookie that an answer leaves, received at a time. -/
def Answer.leaves (now : Nat) : Answer → Option (StoredCookie × StoredCookie)
  | tokens made pair => some (kept now made pair.accessToken,kept now made pair.refreshToken)
  | cleared => none

section Jar

variable (auth : AuthConfig)

def accessKey : String × String := (tokenName,"/")

def refreshKey : String × String := (refreshTokenName,auth.refreshTokenPath)

private theorem keys_apart : accessKey ≠ refreshKey auth := by
  intro same
  have names : tokenName = refreshTokenName := congrArg Prod.fst same
  exact absurd names (by decide)

/-- A jar that holds what the last answer left, and nothing else. -/
structure Jar.Holds (jar : Jar) (last : Option (StoredCookie × StoredCookie)) : Prop where
  keys : ∀ key ∈ jar.map Prod.fst, key = accessKey ∨ key = refreshKey auth
  distinct : (jar.map Prod.fst).Nodup
  access : get jar accessKey = last.map Prod.fst
  refresh : get jar (refreshKey auth) = last.map Prod.snd

theorem holds_nil : Jar.Holds auth [] none := ⟨by simp,by simp,rfl,rfl⟩

theorem Jar.Holds.receive {jar : Jar} {last : Option (StoredCookie × StoredCookie)} (holds : jar.Holds auth last)
    (now : Nat) (answer : Answer) :
    (jar.receiveAll now (answer.cookies auth)).Holds auth (answer.leaves now) := by
  cases answer with
  | cleared =>
    have emptied : jar.receiveAll now (Answer.cleared.cookies auth) = [] := by
      rw [List.eq_nil_iff_forall_not_mem]
      intro entry member
      simp only [Answer.cookies,clearCookies,receiveAll,List.foldl_cons,List.foldl_nil,Jar.receive,List.mem_filter,
        Option.getD_none,Option.getD_some,bne_iff_ne] at member
      exact (holds.keys entry.1 (List.mem_map_of_mem member.1.1)).elim member.1.2 member.2
    rw [emptied]
    exact holds_nil auth
  | tokens made pair =>
    have written : jar.receiveAll now ((Answer.tokens made pair).cookies auth) =
        Containers.set (Containers.set jar accessKey (kept now made pair.accessToken)) (refreshKey auth)
          (kept now made pair.refreshToken) := rfl
    have member (object : Jar) (key other : String × String) (stored : StoredCookie)
        (inside : other ∈ (Containers.set object key stored).map Prod.fst) :
          other ∈ object.map Prod.fst ∨ other = key := by
      rw [keys_set] at inside
      split at inside
      next => exact Or.inl inside
      next => simpa using inside
    rw [written]
    refine ⟨?_,nodup_set (nodup_set holds.distinct _ _) _ _,?_,get_set_self _ _ _⟩
    · intro key inside
      rcases member _ _ _ _ inside with earlier | rfl
      · exact (member _ _ _ _ earlier).elim (holds.keys key) Or.inl
      · exact Or.inr rfl
    · rw [get_set_other _ _ _ _ (keys_apart auth),get_set_self]
      rfl

theorem holds_run (answers : List (Nat × Answer)) :
    Jar.Holds auth (answers.foldl (fun jar answer => jar.receiveAll answer.1 (answer.2.cookies auth)) [])
      (answers.getLast?.bind (fun answer => answer.2.leaves answer.1)) := by
  induction answers using List.reverseRecOn with
  | nil => exact holds_nil auth
  | append_singleton earlier last ih =>
    rw [List.foldl_append,List.getLast?_concat]
    exact ih.receive auth last.1 last.2

/-- Of a name that is kept at one path only. -/
theorem mem_sent (now : Nat) (url name path : String) (jar : Jar) (distinct : (jar.map Prod.fst).Nodup)
    (only : ∀ entry ∈ jar, entry.1.1 = name → entry.1.2 = path) (value : Payload) : (name,value) ∈ jar.sent now url ↔
      ((get jar (name,path)).filter (fun stored => pathMatches url path && stored.live now)).map StoredCookie.value =
        some value := by
  simp only [Jar.sent,List.mem_map,List.mem_filter,Option.map_eq_some_iff,Option.filter_eq_some_iff,
    get_some_iff distinct]
  constructor
  · rintro ⟨⟨⟨named,at_path⟩,stored⟩,⟨held,goes⟩,same⟩
    obtain ⟨rfl,rfl⟩ := Prod.mk.inj same
    obtain rfl : at_path = path := only _ held rfl
    exact ⟨stored,⟨held,goes⟩,rfl⟩
  · rintro ⟨stored,⟨held,goes⟩,rfl⟩
    exact ⟨((name,path),stored),⟨held,goes⟩,rfl⟩

end Jar

section Header

private theorem pieces_whole (separator : List Char) (text : List Char) (head : Char) (tail : List Char)
    (shape : separator = head :: tail) (clean : head ∉ text) : pieces separator 0 text = [text] := by
  subst shape
  induction text with
  | nil => rfl
  | cons c rest ih =>
    rw [List.mem_cons,not_or] at clean
    have differs : (head == c) = false := beq_eq_false_iff_ne.mpr clean.1
    rw [pieces,List.isPrefixOf_cons_cons,differs,Bool.false_and,if_neg Bool.false_ne_true,ih clean.2]

private theorem pieces_skip (separator skipped rest : List Char) :
    pieces separator skipped.length (skipped ++ rest) = pieces separator 0 rest := by
  induction skipped with
  | nil => rfl
  | cons c skipped ih => exact ih

private theorem pieces_piece (head : Char) (tail piece rest : List Char) (clean : head ∉ piece) :
    pieces (head :: tail) 0 (piece ++ (head :: tail) ++ rest) = piece :: pieces (head :: tail) 0 rest := by
  induction piece with
  | nil =>
    have starts : (head :: tail).isPrefixOf (head :: (tail ++ rest)) = true :=
      List.isPrefixOf_iff_prefix.mpr ⟨rest,rfl⟩
    rw [List.nil_append,List.cons_append,pieces,if_pos starts]
    exact congrArg (List.cons []) (pieces_skip (head :: tail) tail rest)
  | cons c piece ih =>
    rw [List.mem_cons,not_or] at clean
    have differs : (head == c) = false := beq_eq_false_iff_ne.mpr clean.1
    rw [List.cons_append,List.cons_append,pieces,List.isPrefixOf_cons_cons,differs,Bool.false_and,
      if_neg Bool.false_ne_true,ih clean.2]

private theorem pieces_intercalate (head : Char) (tail : List Char) (words : List (List Char)) (given : words ≠ [])
    (clean : ∀ word ∈ words, head ∉ word) : pieces (head :: tail) 0 ((head :: tail).intercalate words) = words := by
  induction words with
  | nil => exact absurd rfl given
  | cons word rest ih =>
    have here := clean word List.mem_cons_self
    cases rest with
    | nil => simpa using pieces_whole (head :: tail) word head tail rfl here
    | cons next rest =>
      have later := ih (List.cons_ne_nil _ _) (fun other member => clean other (List.mem_cons_of_mem _ member))
      rw [List.intercalate_cons_cons,pieces_piece head tail word _ here,later]

/-- What a browser can send: no '=' in a name, no ';' anywhere. -/
def Plain (cookie : String × String) : Prop := '=' ∉ cookie.1.toList ∧ ';' ∉ cookie.1.toList ∧ ';' ∉ cookie.2.toList

instance (cookie : String × String) : Decidable (Plain cookie) := inferInstanceAs (Decidable (_ ∧ _ ∧ _))

def pairText (cookie : String × String) : String := cookie.1 ++ "=" ++ cookie.2

private theorem takeWhile_name (name rest : List Char) (clean : '=' ∉ name) :
    (name ++ '=' :: rest).takeWhile (· != '=') = name := by
  induction name with
  | nil => rfl
  | cons c name ih =>
    rw [List.mem_cons,not_or] at clean
    have goes : (c != '=') = true := bne_iff_ne.mpr (Ne.symm clean.1)
    rw [List.cons_append,List.takeWhile_cons,if_pos goes,ih clean.2]

private theorem startsWith_name (name : String) (own : '=' ∉ name.toList) (cookie : String × String)
    (plain : Plain cookie) :
    (name ++ "=").toList.isPrefixOf (pairText cookie).toList = decide (cookie.1 = name) := by
  have shape : (pairText cookie).toList = cookie.1.toList ++ '=' :: cookie.2.toList := by
    simp [pairText]
  have start : (name ++ "=").toList = name.toList ++ ['='] := by simp
  rw [Bool.eq_iff_iff,List.isPrefixOf_iff_prefix,decide_eq_true_eq,shape,start]
  constructor
  · rintro ⟨rest,same⟩
    have cut := congrArg (List.takeWhile (· != '=')) same
    rw [List.append_assoc,List.singleton_append,takeWhile_name _ _ own,takeWhile_name _ _ plain.1] at cut
    exact (String.toList_injective cut).symm
  · rintro rfl
    exact ⟨cookie.2.toList,by simp⟩

private theorem find_sent (name : String) (own : '=' ∉ name.toList) (cookies : List (String × String))
    (plain : ∀ cookie ∈ cookies, Plain cookie) :
    (cookies.map pairText).find? (fun c => (name ++ "=").toList.isPrefixOf c.toList) =
      (get cookies name).map (fun value => pairText (name,value)) := by
  induction cookies with
  | nil => rfl
  | cons cookie rest ih =>
    have later := ih (fun other member => plain other (List.mem_cons_of_mem _ member))
    have here := startsWith_name name own cookie (plain cookie List.mem_cons_self)
    rw [List.map_cons,List.find?_cons,here]
    by_cases same : cookie.1 = name
    · simp [Containers.get,← same]
    · simpa [Containers.get,same] using later

private theorem cut_pair (name value : String) (own : '=' ∉ name.toList) (whole : '=' ∉ value.toList) :
    (split '=' (pairText (name,value)))[1]? = some value := by
  have shape : pairText (name,value) = name ++ String.singleton '=' ++ value := rfl
  rw [shape,split_piece '=' name value own,split_whole '=' value whole]
  rfl

private theorem splitOn_header (cookies : List (String × String)) (given : cookies ≠ [])
    (plain : ∀ cookie ∈ cookies, Plain cookie) :
    splitOn "; " (String.intercalate "; " (cookies.map pairText)) = cookies.map pairText := by
  have clean : ∀ word ∈ (cookies.map pairText).map String.toList, ';' ∉ word := by
    intro word member
    obtain ⟨text,inside,rfl⟩ := List.mem_map.mp member
    obtain ⟨cookie,listed,rfl⟩ := List.mem_map.mp inside
    obtain ⟨_,name_clean,value_clean⟩ := plain cookie listed
    simp [pairText,name_clean,value_clean]
  have separated := pieces_intercalate ';' [' '] ((cookies.map pairText).map String.toList) (by simpa using given) clean
  have spelled : "; ".toList = [';',' '] := rfl
  unfold splitOn
  rw [String.toList_intercalate,spelled,separated,List.map_map]
  simp [Function.comp_def]

/-- Among the cookies of a header, the first one of the name. -/
theorem fromCookieNamed_header (name : String) (own : '=' ∉ name.toList) (cookies : List (String × String))
    (plain : ∀ cookie ∈ cookies, Plain cookie) (whole : ∀ value, get cookies name = some value → '=' ∉ value.toList)
    (request : HttpRequest) (sent : request.cookie = cookieHeader cookies) : fromCookieNamed name request =
      get cookies name := by
  unfold fromCookieNamed
  rw [sent]
  by_cases empty : cookies = []
  · subst empty
    rfl
  · have header : cookieHeader cookies = some (String.intercalate "; " (cookies.map pairText)) := if_neg empty
    simp only [header,splitOn_header cookies empty plain,find_sent name own cookies plain]
    cases held : get cookies name with
    | none => rfl
    | some value => exact cut_pair name value own (whole value held)

private theorem get_of_mem (object : List (String × String)) (name : String) (expected : Option String)
    (listed : ∀ value, (name,value) ∈ object ↔ expected = some value) : get object name = expected := by
  cases held : get object name with
  | none =>
    have absent := (get_none_iff object name).mp held
    cases expected with
    | none => rfl
    | some value => exact absurd (List.mem_map_of_mem ((listed value).mpr rfl)) absent
  | some value =>
    obtain ⟨entry,found,rfl⟩ := Option.map_eq_some_iff.mp held
    have named : entry.1 = name := by simpa using List.find?_some found
    subst named
    exact ((listed entry.2).mp (List.mem_of_find?_eq_some found)).symm

end Header

section Round

variable (auth : AuthConfig) (text : Payload → String)
  (clean : ∀ payload, '=' ∉ (text payload).toList ∧ ';' ∉ (text payload).toList)
  (others : List (String × String))
  (foreign : ∀ cookie ∈ others, Plain cookie ∧ cookie.1 ≠ tokenName ∧ cookie.1 ≠ refreshTokenName)

/-- The cookies of the request: those of the jar, and others of the host among them. -/
def Along (jar : Jar) (now : Nat) (url : String) (header : List (String × String)) : Prop :=
  header.Perm ((jar.sent now url).map (fun cookie => (cookie.1,text cookie.2)) ++ others)

include clean foreign in
private theorem read_named {jar : Jar} {last : Option (StoredCookie × StoredCookie)} (holds : jar.Holds auth last)
    (now : Nat) (url : String)
    {header : List (String × String)} (along : Along text others jar now url header) (request : HttpRequest)
    (sent : request.cookie = cookieHeader header) (key : String × String)
    (own : key = accessKey ∨ key = refreshKey auth) :
    fromCookieNamed key.1 request =
      ((get jar key).filter (fun stored => pathMatches url key.2 && stored.live now)).map
        (fun stored => text stored.value) := by
  have names : ∀ entry ∈ jar, entry.1.1 = tokenName ∨ entry.1.1 = refreshTokenName := by
    intro entry member
    rcases holds.keys entry.1 (List.mem_map_of_mem member) with same | same <;> simp [same,accessKey,refreshKey]
  have only : ∀ entry ∈ jar, entry.1.1 = key.1 → entry.1.2 = key.2 := by
    intro entry member named
    have apart : tokenName ≠ refreshTokenName := by decide
    rcases holds.keys entry.1 (List.mem_map_of_mem member) with same | same <;> rcases own with rfl | rfl <;>
      simp_all [accessKey,refreshKey]
  have named : key.1 = tokenName ∨ key.1 = refreshTokenName := own.imp (congrArg Prod.fst) (congrArg Prod.fst)
  have listed : ∀ cookie, cookie ∈ header ↔
      (∃ sent ∈ jar.sent now url, (sent.1,text sent.2) = cookie) ∨ cookie ∈ others := by
    intro cookie
    rw [along.mem_iff,List.mem_append,List.mem_map]
  have plain : ∀ cookie ∈ header, Plain cookie := by
    intro cookie member
    rcases (listed cookie).mp member with ⟨sent,goes,rfl⟩ | other
    · obtain ⟨entry,kept,rfl⟩ := List.mem_map.mp goes
      have plain_names : ('=' ∉ tokenName.toList ∧ ';' ∉ tokenName.toList) ∧
        '=' ∉ refreshTokenName.toList ∧ ';' ∉ refreshTokenName.toList := by decide
      rcases names entry (List.mem_of_mem_filter kept) with same | same
      · exact ⟨same ▸ plain_names.1.1,same ▸ plain_names.1.2,(clean _).2⟩
      · exact ⟨same ▸ plain_names.2.1,same ▸ plain_names.2.2,(clean _).2⟩
    · exact (foreign cookie other).1
  have values : ∀ value, (key.1,value) ∈ header ↔
      ((get jar key).filter (fun stored => pathMatches url key.2 && stored.live now)).map (fun stored =>
        text stored.value) =
        some value := by
    intro value
    have mine : (key.1,value) ∉ others := by
      intro member
      exact named.elim (foreign _ member).2.1 (foreign _ member).2.2
    have kept := mem_sent now url key.1 key.2 jar holds.distinct only
    rw [listed,or_iff_left mine]
    constructor
    · rintro ⟨⟨name,payload⟩,goes,same⟩
      obtain ⟨rfl,rfl⟩ := Prod.mk.inj same
      have found := congrArg (Option.map text) ((kept payload).mp goes)
      simpa [Option.map_map,Function.comp_def] using found
    · intro found
      obtain ⟨stored,held,rfl⟩ := Option.map_eq_some_iff.mp found
      exact ⟨(key.1,stored.value),(kept stored.value).mpr (Option.map_eq_some_iff.mpr ⟨stored,held,rfl⟩),rfl⟩
  have read := get_of_mem header key.1 _ values
  rw [← read]
  apply fromCookieNamed_header key.1 ?_ header plain ?_ request sent
  · rcases named with same | same <;> rw [same] <;> decide
  · intro value held
    rw [read] at held
    obtain ⟨stored,_,rfl⟩ := Option.map_eq_some_iff.mp held
    exact (clean _).1

include clean foreign in
/-- Whatever answers a browser has received, each strategy reads of its next request the token that the last one of
them left under its own name, while that lives and the path is its own, and no other. -/
theorem last_answer_read (answers : List (Nat × Answer)) (now : Nat) (url : String) (header : List (String × String))
    (along : Along text others (answers.foldl (fun jar answer => jar.receiveAll answer.1 (answer.2.cookies auth)) [])
      now url header)
    (request : HttpRequest) (sent : request.cookie = cookieHeader header) :
    let last := answers.getLast?.bind (fun answer => answer.2.leaves answer.1)
    fromCookie request = ((last.map Prod.fst).filter (fun stored => pathMatches url "/" && stored.live now)).map
        (fun stored => text stored.value) ∧
      fromRefreshCookie request = ((last.map Prod.snd).filter (fun stored =>
        pathMatches url auth.refreshTokenPath && stored.live now)).map (fun stored => text stored.value) := by
  have holds := holds_run auth answers
  have read := read_named auth text clean others foreign holds now url along request sent
  constructor
  · rw [fromCookie_named,← holds.access]
    exact read accessKey (Or.inl rfl)
  · rw [← holds.refresh]
    exact read (refreshKey auth) (Or.inr rfl)

end Round

def kindText (payload : Payload) : String := if payload.type = some .refresh then "refresh" else "access"

private theorem kindText_clean (payload : Payload) :
    '=' ∉ (kindText payload).toList ∧ ';' ∉ (kindText payload).toList := by
  unfold kindText
  split <;> decide

def loggedIn : List (Nat × Answer) :=
  [(5,.tokens 0 (login ⟨900000,604800000⟩ 0 0 ⟨"1",some "Admin","admin@admin.com",.admin,[],none⟩))]

def loggedInJar : Jar := loggedIn.foldl (fun jar answer => jar.receiveAll answer.1 (answer.2.cookies {})) []

def refreshHeader : List (String × String) :=
  ("theme","dark") :: (loggedInJar.sent 6 "/api/auth/refresh").map (fun cookie => (cookie.1,kindText cookie.2))

theorem loggedIn_read :
    let last := loggedIn.getLast?.bind (fun answer => answer.2.leaves answer.1)
    fromCookie ⟨none,cookieHeader refreshHeader,none⟩ = ((last.map Prod.fst).filter (fun stored =>
        pathMatches "/api/auth/refresh" "/" && stored.live 6)).map (fun stored => kindText stored.value) ∧
      fromRefreshCookie ⟨none,cookieHeader refreshHeader,none⟩ = ((last.map Prod.snd).filter (fun stored =>
        pathMatches "/api/auth/refresh" "/api/auth/refresh" && stored.live 6)).map (fun stored =>
          kindText stored.value) :=
  last_answer_read {} kindText kindText_clean [("theme","dark")] (by decide) loggedIn 6 "/api/auth/refresh"
    refreshHeader
    (@List.perm_append_comm _ [("theme","dark")] _) _ rfl

end BoarPack.Auth
