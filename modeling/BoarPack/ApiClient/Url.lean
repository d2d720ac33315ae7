import BoarPack.ApiClient.QueryString
import BoarPack.Library.Containers

/-! `getUrl` of the generated clients: the path of a url is a template with the parameters of the request in it. -/
namespace BoarPack.ApiClient

structure OpenAPIConfig where
  BASE : String := ""
  VERSION : String := "1.0"
  ENCODE_PATH : Option (String → String) := none

/-- What `createApiClient()` gives `ApiClient`. -/
def createApiClient : OpenAPIConfig where
  BASE := "/api"
  ENCODE_PATH := some encodeURIComponent

/-- `path`: the parameters of the path, as `String(value)` writes them. -/
structure ApiRequestOptions where
  url : String
  path : List (String × String) := []
  query : Option (List (String × Param)) := none

/-- `text.replace(pattern, replacement)` of a text, which replaces the first one. -/
def replace (pattern replacement : List Char) : List Char → List Char
  | [] => if pattern = [] then replacement else []
  | c :: rest =>
    if pattern.isPrefixOf (c :: rest) then replacement ++ (c :: rest).drop pattern.length
    else c :: replace pattern replacement rest

def versionPattern : List Char := "{api-version}".toList

def lineTerminator (c : Char) : Bool := [Char.ofNat 0xA,Char.ofNat 0xD,Char.ofNat 0x2028,Char.ofNat 0x2029].contains c

/-- What `(.*?)}` matches: the group, and what follows the brace. -/
def group : List Char → Option (List Char × List Char)
  | [] => none
  | c :: rest =>
    if c = '}' then some ([],rest)
    else if lineTerminator c then none
    else (group rest).map (fun found => (c :: found.1,found.2))

private theorem length_group {text : List Char} {found : List Char × List Char} (matched : group text = some found) :
    found.2.length < text.length := by
  induction text generalizing found with
  | nil => cases matched
  | cons c rest ih =>
    rw [group] at matched
    split at matched
    next => cases matched; simp
    next =>
      split at matched
      next => cases matched
      next =>
        obtain ⟨inner,here,rfl⟩ := Option.map_eq_some_iff.mp matched
        have shorter := ih here
        simp only [List.length_cons]
        omega

/-- `text.replace(/{(.*?)}/g, …)`. -/
def replaceGroups (replacer : List Char → List Char) (text : List Char) : List Char :=
  match text with
  | [] => []
  | c :: rest =>
    if c = '{' then
      match _matched : group rest with
      | some (found,behind) => replacer found ++ replaceGroups replacer behind
      | none => c :: replaceGroups replacer rest
    else c :: replaceGroups replacer rest
termination_by text.length
decreasing_by
  · exact Nat.lt_succ_of_lt (length_group _matched)
  · simp
  · simp

section

variable (config : OpenAPIConfig) (options : ApiRequestOptions)

def encoder : String → String := config.ENCODE_PATH.getD encodeURI

def replacer (found : List Char) : List Char :=
  match Containers.get options.path (String.ofList found) with
  | some value => (encoder config value).toList
  | none => '{' :: found ++ ['}']

def getPath : String :=
  String.ofList (replaceGroups (replacer config options)
    (replace versionPattern config.VERSION.toList options.url.toList))

def getUrl : String :=
  let url := config.BASE ++ getPath config options
  match options.query with
  | some query => url ++ getQueryString query
  | none => url

end

/-- A piece of a path of the services: a name of a resource, or a parameter. -/
inductive Segment
  | literal (text : String)
  | param (name : String)
  deriving DecidableEq, Repr

def Segment.text : Segment → List Char
  | literal text => text.toList
  | param name => '{' :: name.toList ++ ['}']

/-- Names and parameters are written as the services of the clients write them. -/
def Segment.Plain (options : ApiRequestOptions) : Segment → Prop
  | literal text => ∀ c ∈ text.toList, unreserved c = true
  | param name =>
    (∀ c ∈ name.toList, c.isAlphanum = true) ∧ ∃ value, Containers.get options.path name = some value

def Segment.filled (options : ApiRequestOptions) : Segment → List Char
  | literal text => text.toList
  | param name => ((Containers.get options.path name).getD "").toList

def Segment.encoded (config : OpenAPIConfig) (options : ApiRequestOptions) : Segment → List Char
  | literal text => text.toList
  | param name => (encoder config ((Containers.get options.path name).getD "")).toList

def template (segments : List Segment) : String :=
  String.ofList (segments.flatMap (fun segment => '/' :: segment.text))

/-- What a parser of urls makes of the pieces of a path: `.` stays where it is, and `..` goes up, also where they are
escaped. -/
def resolved : List (List Char) → List (List Char) → List (List Char)
  | done, [] => done
  | done, piece :: rest =>
    if Percent.decode piece = some ['.','.'] then
      if rest = [] then done.dropLast ++ [[]] else resolved done.dropLast rest
    else if Percent.decode piece = some ['.'] then
      if rest = [] then done ++ [[]] else resolved done rest
    else resolved (done ++ [piece]) rest

/-- What a router reads of the path of a url: its pieces, each decoded. -/
def route (path : String) : List (Option (List Char)) :=
  (resolved [] (((path.toList.takeWhile (fun c => !(['?','#'].contains c))).splitOn '/').drop 1)).map Percent.decode

/-- The path is read as the route of the segments, with the parameters as they were given; no piece of a route is
empty. -/
def Reaches (config : OpenAPIConfig) (options : ApiRequestOptions) (segments : List Segment) : Prop :=
  route (getPath config options) = segments.map (fun segment => some (segment.filled options)) ∧
    ∀ segment ∈ segments, segment.filled options ≠ []

def kept (c : Char) : Bool := unreserved c || reserved c

private theorem replace_open {pattern replacement piece : List Char}
    (starts : ∃ rest, pattern = '{' :: rest) (clean : '{' ∉ piece)
    (text : List Char) : replace pattern replacement (piece ++ text) = piece ++ replace pattern replacement text := by
  obtain ⟨tail,rfl⟩ := starts
  induction piece with
  | nil => rfl
  | cons c piece ih =>
    rw [List.mem_cons,not_or] at clean
    have other : ¬ ('{' :: tail).isPrefixOf (c :: (piece ++ text)) := by simp [clean.1]
    rw [List.cons_append,replace,if_neg other,ih clean.2,List.cons_append]

private theorem replaceGroups_open {replacer : List Char → List Char} {piece : List Char}
    (clean : '{' ∉ piece) (text : List Char) :
    replaceGroups replacer (piece ++ text) = piece ++ replaceGroups replacer text := by
  induction piece with
  | nil => rfl
  | cons c piece ih =>
    rw [List.mem_cons,not_or] at clean
    rw [List.cons_append,replaceGroups,if_neg (Ne.symm clean.1),ih clean.2,List.cons_append]

private theorem group_name {name : List Char} (plain : ∀ c ∈ name, c.isAlphanum = true) (text : List Char) :
    group (name ++ '}' :: text) = some (name,text) := by
  induction name with
  | nil => simp [group]
  | cons c name ih =>
    obtain ⟨first,later⟩ := List.forall_mem_cons.mp plain
    have brace : c ≠ '}' := by
      rintro rfl
      revert first
      decide
    have line : lineTerminator c = false := by
      rw [← Bool.not_eq_true]
      intro terminates
      have few : c = Char.ofNat 0xA ∨ c = Char.ofNat 0xD ∨ c = Char.ofNat 0x2028 ∨ c = Char.ofNat 0x2029 := by
        simpa [lineTerminator] using terminates
      rcases few with rfl | rfl | rfl | rfl <;> exact absurd first (by decide)
    rw [List.cons_append,group,if_neg brace,line,if_neg Bool.false_ne_true,ih later]
    rfl

private theorem version_shape : versionPattern = '{' :: ("api-version".toList ++ ['}']) := by decide

private theorem version_open : ∃ rest, versionPattern = '{' :: rest := ⟨_,version_shape⟩

private theorem replace_param {name : List Char} (plain : ∀ c ∈ name, c.isAlphanum = true)
    (replacement text : List Char) :
    replace versionPattern replacement ('{' :: name ++ '}' :: text) =
      '{' :: name ++ '}' :: replace versionPattern replacement text := by
  have braces : '{' ∉ name ++ ['}'] := by
    intro inside
    rcases List.mem_append.mp inside with here | last
    · exact absurd (plain '{' here) (by decide)
    · simp at last
  have other : ¬ (versionPattern).isPrefixOf ('{' :: (name ++ '}' :: text)) := by
    intro begins
    obtain ⟨behind,shape⟩ := List.isPrefixOf_iff_prefix.mp begins
    rw [version_shape,List.cons_append,List.append_assoc,List.singleton_append] at shape
    have tail := List.tail_eq_of_cons_eq shape
    have read := group_name plain text
    rw [← tail] at read
    have named : group ("api-version".toList ++ '}' :: behind) = some ("api-version".toList,behind) := by
      simp [group,lineTerminator]
    rw [named] at read
    cases read
    exact absurd (plain '-' (by decide)) (by decide)
  have rest := @replace_open versionPattern replacement (name ++ ['}']) version_open braces text
  rw [List.append_assoc,List.singleton_append] at rest
  rw [List.cons_append,replace,if_neg other,rest,List.append_assoc,List.singleton_append,List.cons_append]

private theorem replaceGroups_param (replacer : List Char → List Char) {name : List Char}
    (plain : ∀ c ∈ name, c.isAlphanum = true)
    (text : List Char) : replaceGroups replacer ('{' :: name ++ '}' :: text) = replacer name ++
      replaceGroups replacer text := by
  have found := group_name plain text
  rw [List.cons_append,replaceGroups,if_pos rfl]
  split
  next inner behind matched =>
    rw [found] at matched
    cases matched
    rfl
  next missed =>
    rw [found] at missed
    cases missed

private theorem mem_splitOn {separator c : Char} {text piece : List Char} (member : piece ∈ text.splitOn separator)
    (here : c ∈ piece) :
    c ∈ text ∧ c ≠ separator := by
  have clean : separator ∉ (String.ofList piece).toList := by
    apply split_clean separator (String.ofList text)
    rw [split,String.toList_ofList]
    exact List.mem_map_of_mem member
  rw [String.toList_ofList] at clean
  have apart : c ≠ separator := by
    rintro rfl
    exact clean here
  have joined : [separator].intercalate (text.splitOn separator) = text := List.intercalate_splitOn separator
  refine ⟨?_,apart⟩
  rw [← joined,mem_intercalate (by simpa using apart)]
  exact ⟨piece,member,here⟩

private theorem literal_open {text : String} (plain : ∀ c ∈ text.toList, unreserved c = true) : '{' ∉ text.toList :=
  fun inside => absurd (plain '{' inside) (by decide)

section

variable {options : ApiRequestOptions}

theorem Segment.Plain.replaced {segment : Segment} (plain : segment.Plain options) (replacement text : List Char) :
    replace versionPattern replacement (segment.text ++ text) =
      segment.text ++ replace versionPattern replacement text := by
  cases segment with
  | literal name => exact replace_open version_open (literal_open plain) text
  | param name => simpa [Segment.text] using replace_param plain.1 replacement text

theorem Segment.Plain.replacedGroups (config : OpenAPIConfig) {segment : Segment} (plain : segment.Plain options)
    (text : List Char) : replaceGroups (replacer config options) (segment.text ++ text) =
      segment.encoded config options ++ replaceGroups (replacer config options) text := by
  cases segment with
  | literal name => exact replaceGroups_open (literal_open plain) text
  | param name =>
    obtain ⟨letters,value,given⟩ := plain
    have read := replaceGroups_param (replacer config options) letters text
    have filled : replacer config options name.toList = (encoder config value).toList := by
      simp only [replacer,String.ofList_toList,given]
    simpa [Segment.text,Segment.encoded,given,filled] using read

private theorem template_replaced {segments : List Segment} (plain : ∀ segment ∈ segments, segment.Plain options)
    (replacement : List Char) : replace versionPattern replacement
      (segments.flatMap (fun segment => '/' :: segment.text)) =
      segments.flatMap (fun segment => '/' :: segment.text) := by
  induction segments with
  | nil => rfl
  | cons segment rest ih =>
    obtain ⟨first,later⟩ := List.forall_mem_cons.mp plain
    have slash (text : List Char) : replace versionPattern replacement (['/'] ++ text) =
        ['/'] ++ replace versionPattern replacement text := replace_open version_open (by decide) text
    rw [List.flatMap_cons,List.cons_append,← List.singleton_append,slash,first.replaced,ih later]

private theorem getPath_encoded (config : OpenAPIConfig) {segments : List Segment}
    (written : options.url = template segments) (plain : ∀ segment ∈ segments, segment.Plain options) :
    (getPath config options).toList = segments.flatMap (fun segment => '/' :: segment.encoded config options) := by
  rw [getPath,String.toList_ofList,written,template,String.toList_ofList,template_replaced plain]
  clear written
  induction segments with
  | nil => simp [replaceGroups]
  | cons segment rest ih =>
    obtain ⟨first,later⟩ := List.forall_mem_cons.mp plain
    have slash (text : List Char) : replaceGroups (replacer config options) (['/'] ++ text) =
        ['/'] ++ replaceGroups (replacer config options) text := replaceGroups_open (by decide) text
    rw [List.flatMap_cons,List.flatMap_cons,List.cons_append,← List.singleton_append,slash,
      first.replacedGroups,ih later]
    rfl

private theorem cut_mark {c : Char} (mark : c ∈ ['/','?','#']) :
    kept c = true ∧ unreserved c = false ∧ c ≠ '%' ∧ Percent.value c = none := by
  simp only [List.mem_cons,List.not_mem_nil,or_false] at mark
  rcases mark with rfl | rfl | rfl <;> decide

/-- The encoders of the clients: what they keep. -/
theorem encoder_keeps {config : OpenAPIConfig}
    (client : config.ENCODE_PATH = none ∨ config.ENCODE_PATH = some encodeURIComponent) :
    ∃ keeps : Char → Bool, (∀ c, unreserved c = true → keeps c = true) ∧ keeps '%' = false ∧
      (∀ value, (encoder config value).toList = Percent.encode keeps value.toList) ∧
      ∀ c ∈ ['/','?','#'], (keeps c = true ↔ config.ENCODE_PATH = none) := by
  rcases client with plain | component
  · refine ⟨kept,fun c free => by rw [kept,free,Bool.true_or],by decide,fun value => ?_,fun c mark => ?_⟩
    · rw [encoder,plain,Option.getD_none,encodeURI,String.toList_ofList]
      rfl
    · exact iff_of_true (cut_mark mark).1 plain
  · refine ⟨unreserved,fun c free => free,unreserved_escaped,fun value => ?_,fun c mark => ?_⟩
    · rw [encoder,component,Option.getD_some,encodeURIComponent,String.toList_ofList]
    · exact iff_of_false (by simp [(cut_mark mark).2.1]) (by simp [component])

theorem Segment.Plain.encoded_eq {config : OpenAPIConfig} {keeps : Char → Bool} {segment : Segment}
    (plain : segment.Plain options) (free : ∀ c, unreserved c = true → keeps c = true)
    (encodes : ∀ value, (encoder config value).toList = Percent.encode keeps value.toList) :
    segment.encoded config options = Percent.encode keeps (segment.filled options) := by
  cases segment with
  | literal text => exact (Percent.encode_kept (fun c inside => free c (plain c inside))).symm
  | param name => exact encodes _

/-- The parameters of a request are read back from its url where its path is cut nowhere. -/
theorem queryParams_getUrl (platform : Platform) (config : OpenAPIConfig) (segments : List Segment)
    (written : options.url = template segments) (plain : ∀ segment ∈ segments, segment.Plain options)
    (base : ∀ c ∈ ['?','#'], c ∉ config.BASE.toList)
    (whole : config.ENCODE_PATH = some encodeURIComponent ∨
      ∀ segment ∈ segments, ∀ c ∈ ['?','#'], c ∉ segment.encoded config options)
    (query : List (String × Param)) (given : options.query = some query) :
    queryParams platform (getUrl config options) = asked query := by
  have clean {c : Char} (mark : c ∈ ['?','#']) : c ∉ (config.BASE ++ getPath config options).toList := by
    rw [String.toList_append,List.mem_append,getPath_encoded config written plain,List.mem_flatMap]
    rintro (here | ⟨segment,used,here⟩)
    · exact base c mark here
    · rcases List.mem_cons.mp here with slash | inside
      · subst slash
        exact absurd mark (by decide)
      · rcases whole with component | clear
        · obtain ⟨keeps,free,_,encodes,marks⟩ := encoder_keeps (Or.inr component)
          obtain ⟨_,_,other,digit⟩ := cut_mark (List.mem_cons_of_mem '/' mark)
          rw [(plain segment used).encoded_eq free encodes,Percent.mem_encode_iff other digit,
            marks c (List.mem_cons_of_mem '/' mark),component] at inside
          cases inside.1
        · exact clear segment used c mark inside
  rw [getUrl,given]
  exact queryParams_getQueryString platform query _ (clean (by decide)) (clean (by decide))

end

section Resolved

variable {done pieces : List (List Char)}

private theorem length_resolved (done pieces : List (List Char)) :
    (resolved done pieces).length ≤ done.length + pieces.length := by
  induction pieces generalizing done with
  | nil => exact Nat.le_refl _
  | cons piece rest ih =>
    have up := ih done.dropLast
    have same := ih done
    have down := ih (done ++ [piece])
    rw [List.length_dropLast] at up
    rw [List.length_append,List.length_singleton] at down
    unfold resolved
    split
    next =>
      split
      next => simp; omega
      next => rw [List.length_cons]; omega
    next =>
      split
      next =>
        split
        next => simp
        next => rw [List.length_cons]; omega
      next => rw [List.length_cons]; omega

private theorem mem_resolved {piece : List Char} (member : piece ∈ resolved done pieces) :
    piece = [] ∨ piece ∈ done ∨ piece ∈ pieces := by
  induction pieces generalizing done with
  | nil => exact Or.inr (Or.inl member)
  | cons first rest ih =>
    unfold resolved at member
    split at member
    next =>
      split at member
      next =>
        rcases List.mem_append.mp member with up | last
        · exact Or.inr (Or.inl (List.dropLast_subset done up))
        · exact Or.inl (List.mem_singleton.mp last)
      next =>
        rcases ih member with empty | up | later
        · exact Or.inl empty
        · exact Or.inr (Or.inl (List.dropLast_subset done up))
        · exact Or.inr (Or.inr (List.mem_cons_of_mem first later))
    next =>
      split at member
      next =>
        split at member
        next =>
          rcases List.mem_append.mp member with before | last
          · exact Or.inr (Or.inl before)
          · exact Or.inl (List.mem_singleton.mp last)
        next =>
          rcases ih member with empty | before | later
          · exact Or.inl empty
          · exact Or.inr (Or.inl before)
          · exact Or.inr (Or.inr (List.mem_cons_of_mem first later))
      next =>
        rcases ih member with empty | before | later
        · exact Or.inl empty
        · rcases List.mem_append.mp before with earlier | last
          · exact Or.inr (Or.inl earlier)
          · exact Or.inr (Or.inr (List.mem_singleton.mp last ▸ List.mem_cons_self))
        · exact Or.inr (Or.inr (List.mem_cons_of_mem first later))

private theorem decode_empty : Percent.decode [] = some [] := @Percent.decode_encode (fun _ => false) rfl []

/-- Pieces without dots are left as they are, and no others are. -/
theorem resolved_iff : (resolved done pieces).map Percent.decode = (done ++ pieces).map Percent.decode ↔
    ∀ piece ∈ pieces, Percent.decode piece ≠ some ['.'] ∧ Percent.decode piece ≠ some ['.','.'] := by
  induction pieces generalizing done with
  | nil => simp [resolved]
  | cons piece rest ih =>
    have shorter (before : List (List Char)) (few : before.length ≤ done.length) :
        (resolved before rest).map Percent.decode ≠ (done ++ piece :: rest).map Percent.decode := by
      intro same
      have lengths := congrArg List.length same
      have bound := length_resolved before rest
      simp only [List.length_map,List.length_append,List.length_cons] at lengths
      omega
    have lastly (before : List (List Char)) (dots : Percent.decode piece ≠ some []) :
        (before ++ [[]]).map Percent.decode ≠ (done ++ [piece]).map Percent.decode := by
      intro same
      rw [List.map_append,List.map_append] at same
      have lasts := List.append_inj_right' same rfl
      simp only [List.map_cons,List.map_nil,List.cons.injEq,and_true,decode_empty] at lasts
      exact dots lasts.symm
    unfold resolved
    split
    next double =>
      refine iff_of_false ?_ (fun plain => (plain piece List.mem_cons_self).2 double)
      split
      next last => subst last; exact lastly _ (by rw [double]; simp)
      next => exact shorter _ (by rw [List.length_dropLast]; omega)
    next not_double =>
      split
      next single =>
        refine iff_of_false ?_ (fun plain => (plain piece List.mem_cons_self).1 single)
        split
        next last => subst last; exact lastly _ (by rw [single]; simp)
        next => exact shorter _ (Nat.le_refl _)
      next not_single =>
        have later := @ih (done ++ [piece])
        rw [List.append_assoc,List.singleton_append] at later
        rw [later,List.forall_mem_cons]
        exact (and_iff_right ⟨not_single,not_double⟩).symm

end Resolved

section Routes

variable {options : ApiRequestOptions} {config : OpenAPIConfig} {segments : List Segment}

private theorem splitOn_path {words : List (List Char)} (clean : ∀ word ∈ words, '/' ∉ word) :
    ((words.flatMap (fun word => '/' :: word)).splitOn '/').drop 1 = words := by
  have joined : words.flatMap (fun word => '/' :: word) = ['/'].intercalate ([] :: words) := by
    induction words with
    | nil => rfl
    | cons word rest ih =>
      obtain ⟨_,later⟩ := List.forall_mem_cons.mp clean
      rw [List.flatMap_cons,ih later,List.intercalate_cons_cons]
      cases rest with
      | nil => simp
      | cons next others => rw [List.intercalate_cons_cons,List.intercalate_cons_cons]; simp
  rw [joined,List.splitOn_intercalate '/' _ (by simp)]
  · rfl
  · intro word member
    rcases List.mem_cons.mp member with rfl | inside
    · exact List.not_mem_nil
    · exact clean word inside

private theorem route_clean {keeps : Char → Bool} (free : ∀ c, unreserved c = true → keeps c = true)
    (escaped : keeps '%' = false) (encodes : ∀ value, (encoder config value).toList = Percent.encode keeps value.toList)
    (written : options.url = template segments) (plain : ∀ segment ∈ segments, segment.Plain options)
    (clean : ∀ segment ∈ segments, ∀ c ∈ ['/','?','#'], c ∉ segment.encoded config options) :
    route (getPath config options) = segments.map (fun segment => some (segment.filled options)) ↔
      ∀ segment ∈ segments, segment.filled options ∉ [['.'],['.','.']] := by
  have whole : ∀ c ∈ segments.flatMap (fun segment => '/' :: segment.encoded config options),
      (!(['?','#'].contains c)) = true := by
    intro c inside
    rw [Bool.not_eq_true',← Bool.not_eq_true]
    intro stops
    have mark : c ∈ ['?','#'] := by simpa using stops
    obtain ⟨segment,used,here⟩ := List.mem_flatMap.mp inside
    rcases List.mem_cons.mp here with rfl | later
    · exact absurd mark (by decide)
    · exact clean segment used c (List.mem_cons_of_mem '/' mark) later
  have words : segments.flatMap (fun segment => '/' :: segment.encoded config options) =
      (segments.map (Segment.encoded config options)).flatMap (fun word => '/' :: word) := by rw [List.flatMap_map]
  have decoded : ∀ segment ∈ segments,
      Percent.decode (segment.encoded config options) = some (segment.filled options) := by
    intro segment used
    rw [(plain segment used).encoded_eq free encodes]
    exact Percent.decode_encode escaped _
  have expected : segments.map (fun segment => some (segment.filled options)) =
      ([] ++ segments.map (Segment.encoded config options)).map Percent.decode := by
    rw [List.nil_append,List.map_map]
    exact List.map_congr_left (fun segment used => (decoded segment used).symm)
  rw [route,getPath_encoded config written plain,List.takeWhile_eq_self_iff.mpr whole,words,splitOn_path,expected,
    resolved_iff,List.forall_mem_map]
  · apply forall₂_congr
    intro segment used
    rw [decoded segment used]
    simp
  · intro word member
    obtain ⟨segment,used,rfl⟩ := List.mem_map.mp member
    exact clean segment used '/' List.mem_cons_self

/-- What is read of a path that `encodeURI` wrote has none of the characters that it is cut at. -/
theorem route_uncut (encodeURI_path : config.ENCODE_PATH = none) (written : options.url = template segments)
    (plain : ∀ segment ∈ segments, segment.Plain options) {read : List Char}
    (member : some read ∈ route (getPath config options)) {c : Char} (mark : c ∈ ['/','?','#']) : c ∉ read := by
  have encoded : (getPath config options).toList =
      Percent.encode kept (segments.flatMap (fun segment => '/' :: segment.filled options)) := by
    rw [getPath_encoded config written plain,Percent.encode,List.flatMap_assoc]
    apply List.flatMap_congr
    intro segment used
    have own : segment.encoded config options = Percent.encode kept (segment.filled options) := by
      apply (plain segment used).encoded_eq
      · exact fun c free => by rw [kept,free,Bool.true_or]
      · intro value
        rw [encoder,encodeURI_path,Option.getD_none,encodeURI,String.toList_ofList]
        rfl
    rw [own]
    rfl
  have stays : ∀ c, ['?','#'].contains c = true → kept c = true ∧ c ≠ '%' ∧ Percent.value c = none := by
    intro c marks
    obtain ⟨keeps,_,other,digit⟩ := cut_mark (List.mem_cons_of_mem '/' (by simpa using marks))
    exact ⟨keeps,other,digit⟩
  obtain ⟨piece,inside,same⟩ := List.mem_map.mp member
  rw [encoded,Percent.takeWhile_encode stays,Percent.splitOn_encode (by decide) (by decide) (by decide)] at inside
  rcases mem_resolved inside with rfl | never | cut
  · rw [decode_empty] at same
    cases same
    exact List.not_mem_nil
  · cases never
  · obtain ⟨sub,held,rfl⟩ := List.mem_map.mp (List.mem_of_mem_drop cut)
    rw [Percent.decode_encode (by decide)] at same
    cases same
    intro here
    obtain ⟨within,apart⟩ := mem_splitOn held here
    have passes := List.mem_takeWhile_imp within
    rcases List.mem_cons.mp mark with slash | stops
    · exact apart slash
    · simp [stops] at passes

/-- A request of a client reaches the route it was made for where no value of its path is empty, `.` or `..` and,
where the path is encoded by `encodeURI`, none has a character that urls are cut at; and it does so nowhere else. -/
theorem reaches_iff (client : config.ENCODE_PATH = none ∨ config.ENCODE_PATH = some encodeURIComponent)
    (written : options.url = template segments) (plain : ∀ segment ∈ segments, segment.Plain options) :
    Reaches config options segments ↔
      ∀ segment ∈ segments, segment.filled options ∉ [[],['.'],['.','.']] ∧
        (config.ENCODE_PATH = none → ∀ c ∈ ['/','?','#'], c ∉ segment.filled options) := by
  obtain ⟨keeps,free,escaped,encodes,marks⟩ := encoder_keeps client
  have cut : (∀ segment ∈ segments, ∀ c ∈ ['/','?','#'], c ∉ segment.encoded config options) ↔
      ∀ segment ∈ segments, config.ENCODE_PATH = none → ∀ c ∈ ['/','?','#'], c ∉ segment.filled options := by
    apply forall₂_congr
    intro segment used
    have each : ∀ c ∈ ['/','?','#'], (c ∉ segment.encoded config options ↔
        (config.ENCODE_PATH = none → c ∉ segment.filled options)) := by
      intro c mark
      obtain ⟨_,_,other,digit⟩ := cut_mark mark
      rw [(plain segment used).encoded_eq free encodes,Percent.mem_encode_iff other digit,marks c mark,not_and]
    exact ⟨fun clean plainly c mark => (each c mark).mp (clean c mark) plainly,
      fun clean c mark => (each c mark).mpr (fun plainly => clean plainly c mark)⟩
  constructor
  · rintro ⟨same,filled⟩
    have uncut : ∀ segment ∈ segments, config.ENCODE_PATH = none → ∀ c ∈ ['/','?','#'], c ∉ segment.filled options := by
      intro segment used plainly c mark
      apply route_uncut plainly written plain ?_ mark
      rw [same]
      exact List.mem_map_of_mem used
    have dots := (route_clean free escaped encodes written plain (cut.mpr uncut)).mp same
    refine fun segment used => ⟨fun listed => ?_,uncut segment used⟩
    rcases List.mem_cons.mp listed with empty | dotted
    · exact filled segment used empty
    · exact dots segment used dotted
  · intro allowed
    refine ⟨(route_clean free escaped encodes written plain (cut.mpr fun segment used =>
      (allowed segment used).2)).mpr ?_,?_⟩
    · exact fun segment used listed => (allowed segment used).1 (List.mem_cons_of_mem _ listed)
    · exact fun segment used empty => (allowed segment used).1 (empty ▸ List.mem_cons_self)

end Routes

def oneUser : ApiRequestOptions where
  url := "/users/{id}"
  path := [("id","a/b?")]
  query := some [("fields",.array [.text "name",.null,.text "x&y"])]

private theorem oneUser_written : oneUser.url = template [.literal "users",.param "id"] := by decide

private theorem oneUser_plain : ∀ segment ∈ [.literal "users",.param "id"], Segment.Plain oneUser segment := by
  intro segment member
  simp only [List.mem_cons,List.not_mem_nil,or_false] at member
  rcases member with rfl | rfl
  · exact List.all_eq_true.mp (by decide : ['u','s','e','r','s'].all unreserved = true)
  · exact ⟨List.all_eq_true.mp (by decide : ['i','d'].all Char.isAlphanum = true),"a/b?",rfl⟩

theorem oneUser_asked : queryParams ⟨fun _ => "\uFFFD"⟩ (getUrl createApiClient oneUser) =
    [("fields","name"),("fields","x&y")] :=
  queryParams_getUrl ⟨fun _ => "\uFFFD"⟩ createApiClient [.literal "users",.param "id"] oneUser_written oneUser_plain
    (by simp [createApiClient]) (Or.inl rfl) _ rfl

theorem oneUser_reached : Reaches createApiClient oneUser [.literal "users",.param "id"] := by
  apply (reaches_iff (Or.inr rfl) oneUser_written oneUser_plain).mpr
  intro segment member
  refine ⟨?_,fun plainly => by cases plainly⟩
  simp only [List.mem_cons,List.not_mem_nil,or_false] at member
  rcases member with rfl | rfl
  · decide
  · decide

end BoarPack.ApiClient
