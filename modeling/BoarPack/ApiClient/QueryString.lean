import BoarPack.Common
import BoarPack.Library.Percent
import Mathlib.Data.List.TakeWhile

/-! `getQueryString` of the generated clients, and the query parameters that `EventLogExplanation` reads from a url. -/
namespace BoarPack.ApiClient

/-- A parameter of a request. `text`: what is no object, as `String(value)` writes it. -/
inductive Param
  | undefined
  | null
  | text (shown : String)
  | array (items : List Param)
  | object (entries : List (String × Param))

def unreserved (c : Char) : Bool := c.isAlphanum || "-_.!~*'()".toList.contains c

def reserved (c : Char) : Bool := ";/?:@&=+$,#".toList.contains c

def encodeURIComponent (text : String) : String := String.ofList (Percent.encode unreserved text.toList)

def encodeURI (text : String) : String :=
  String.ofList (Percent.encode (fun c => unreserved c || reserved c) text.toList)

def append (key value : String) : String := encodeURIComponent key ++ "=" ++ encodeURIComponent value

mutual

def process (key : String) : Param → List String
  | .undefined | .null => []
  | .text shown => [append key shown]
  | .array items => processItems key items
  | .object entries => processEntries key entries

def processItems (key : String) : List Param → List String
  | [] => []
  | value :: rest => process key value ++ processItems key rest

def processEntries (key : String) : List (String × Param) → List String
  | [] => []
  | (k,value) :: rest => process (key ++ "[" ++ k ++ "]") value ++ processEntries key rest

end

def getQueryString (params : List (String × Param)) : String :=
  let qs := params.flatMap (fun entry => process entry.1 entry.2)
  if qs.length > 0 then "?" ++ String.intercalate "&" qs else ""

/-- What is used of `URL`: the text that is made of an escaped one that is no UTF-8. -/
structure Platform where
  malformed : List Char → String

def search (url : String) : String :=
  String.ofList (((url.toList.takeWhile (· ≠ '#')).dropWhile (· ≠ '?')).drop 1)

section

variable (platform : Platform)

def formDecode (text : List Char) : String :=
  let spaced := text.map (fun c => if c = '+' then ' ' else c)
  ((Percent.decode spaced).map String.ofList).getD (platform.malformed spaced)

def formEntry (sequence : String) : String × String :=
  (formDecode platform (sequence.toList.takeWhile (· ≠ '=')),
    formDecode platform ((sequence.toList.dropWhile (· ≠ '=')).drop 1))

/-- `Array.from(url.searchParams.entries())`. -/
def queryParams (url : String) : List (String × String) :=
  ((split '&' (search url)).filter (· ≠ "")).map (formEntry platform)

end

mutual

/-- The texts of a parameter, each with the keys that lead to it. -/
def Param.leaves : Param → List (List String × String)
  | .undefined | .null => []
  | .text shown => [([],shown)]
  | .array items => itemsLeaves items
  | .object entries => entriesLeaves entries

def itemsLeaves : List Param → List (List String × String)
  | [] => []
  | value :: rest => value.leaves ++ itemsLeaves rest

def entriesLeaves : List (String × Param) → List (List String × String)
  | [] => []
  | (k,value) :: rest => value.leaves.map (fun leaf => (k :: leaf.1,leaf.2)) ++ entriesLeaves rest

end

def named (key : String) (path : List String) : String := path.foldl (fun name k => name ++ "[" ++ k ++ "]") key

/-- What a request asks for. -/
def asked (params : List (String × Param)) : List (String × String) :=
  params.flatMap (fun entry => entry.2.leaves.map (fun leaf => (named entry.1 leaf.1,leaf.2)))

mutual

private theorem process_leaves (key : String) (value : Param) :
    process key value = value.leaves.map (fun leaf => append (named key leaf.1) leaf.2) := by
  cases value with
  | undefined | null => rfl
  | text shown => rfl
  | array items => exact processItems_leaves key items
  | object entries => exact processEntries_leaves key entries

private theorem processItems_leaves (key : String) (items : List Param) :
    processItems key items = (itemsLeaves items).map (fun leaf => append (named key leaf.1) leaf.2) := by
  cases items with
  | nil => rfl
  | cons value rest =>
    rw [processItems,itemsLeaves,process_leaves key value,processItems_leaves key rest,List.map_append]

private theorem processEntries_leaves (key : String) (entries : List (String × Param)) :
    processEntries key entries = (entriesLeaves entries).map (fun leaf => append (named key leaf.1) leaf.2) := by
  cases entries with
  | nil => rfl
  | cons entry rest =>
    obtain ⟨k,value⟩ := entry
    rw [processEntries,entriesLeaves,process_leaves (key ++ "[" ++ k ++ "]") value,processEntries_leaves key rest,
      List.map_append,List.map_map]
    rfl

end

theorem unreserved_escaped : unreserved '%' = false := by decide

/-- None of the characters that a url or a form is cut at is in an encoded text. -/
theorem encodeURIComponent_clean {c : Char} (mark : c ∈ ['&','=','+','#','?']) (text : String) :
    c ∉ (encodeURIComponent text).toList := by
  have plain : c ≠ '%' ∧ Percent.value c = none ∧ unreserved c = false := by
    simp only [List.mem_cons,List.not_mem_nil,or_false] at mark
    rcases mark with rfl | rfl | rfl | rfl | rfl <;> decide
  obtain ⟨other,digit,escaped⟩ := plain
  rw [encodeURIComponent,String.toList_ofList,Percent.mem_encode_iff other digit,escaped]
  simp

theorem append_clean {c : Char} (mark : c ∈ ['&','+','#','?']) (key value : String) :
    c ∉ (append key value).toList := by
  have cut : c ∈ ['&','=','+','#','?'] ∧ c ≠ '=' := by
    simp only [List.mem_cons,List.not_mem_nil,or_false] at mark
    rcases mark with rfl | rfl | rfl | rfl <;> decide
  rw [append,String.toList_append,String.toList_append,List.mem_append,List.mem_append]
  simp [encodeURIComponent_clean cut.1,cut.2]

private theorem formDecode_encode (platform : Platform) (text : String) :
    formDecode platform (encodeURIComponent text).toList = text := by
  have plain : (encodeURIComponent text).toList.map (fun c => if c = '+' then ' ' else c) =
      (encodeURIComponent text).toList := by
    refine (List.map_congr_left (fun c inside => ?_)).trans (List.map_id _)
    have other : c ≠ '+' := by
      rintro rfl
      exact encodeURIComponent_clean (by decide) text inside
    exact if_neg other
  rw [formDecode,plain,encodeURIComponent,String.toList_ofList,Percent.decode_encode unreserved_escaped]
  simp

theorem formEntry_append (platform : Platform) (key value : String) :
    formEntry platform (append key value) = (key,value) := by
  have before : ∀ c ∈ (encodeURIComponent key).toList, decide (c ≠ '=') = true := by
    intro c inside
    refine decide_eq_true ?_
    rintro rfl
    exact encodeURIComponent_clean (by decide) key inside
  have shape : (append key value).toList = (encodeURIComponent key).toList ++
      '=' :: (encodeURIComponent value).toList := by
    simp [append]
  rw [formEntry,shape,List.takeWhile_append_of_pos before,List.dropWhile_append_of_pos before]
  simp [formDecode_encode]

theorem mem_intercalate {c : Char} {between : List Char} (apart : c ∉ between) (words : List (List Char)) :
    c ∈ between.intercalate words ↔ ∃ word ∈ words, c ∈ word := by
  induction words with
  | nil => simp
  | cons word rest ih =>
    cases rest with
    | nil => simp
    | cons next others =>
      rw [List.intercalate_cons_cons,List.mem_append,List.mem_append,ih]
      simp [apart]

theorem append_ne_empty (key value : String) : append key value ≠ "" := by
  intro empty
  have listed := congrArg String.toList empty
  simp [append] at listed

theorem search_path {path : String} (unasked : '?' ∉ path.toList) (whole : '#' ∉ path.toList) {query : String}
    (clean : '#' ∉ query.toList) : search (path ++ "?" ++ query) = query := by
  have kept : ∀ c ∈ path.toList ++ '?' :: query.toList, decide (c ≠ '#') = true := by
    intro c inside
    refine decide_eq_true ?_
    rintro rfl
    rcases List.mem_append.mp inside with before | after
    · exact whole before
    · simp [clean] at after
  have passed : ∀ c ∈ path.toList, decide (c ≠ '?') = true := by
    intro c inside
    refine decide_eq_true ?_
    rintro rfl
    exact unasked inside
  have shape : (path ++ "?" ++ query).toList = path.toList ++ '?' :: query.toList := by simp
  rw [search,shape,List.takeWhile_eq_self_iff.mpr kept,List.dropWhile_append_of_pos passed]
  simp

private theorem search_none {path : String} (unasked : '?' ∉ path.toList) : search path = "" := by
  have passed : (path.toList.takeWhile (· ≠ '#')).dropWhile (· ≠ '?') = [] := by
    rw [List.dropWhile_eq_nil_iff]
    intro c inside
    refine decide_eq_true ?_
    rintro rfl
    exact unasked ((List.takeWhile_sublist _).subset inside)
  rw [search,passed]
  rfl

private theorem processed (params : List (String × Param)) :
    params.flatMap (fun entry => process entry.1 entry.2) =
      (asked params).map (fun entry => append entry.1 entry.2) := by
  rw [asked,List.map_flatMap]
  congr 1
  funext entry
  rw [process_leaves,List.map_map]
  rfl

/-- The parameters that a log shows of a request are those it was made with, in their order. -/
theorem queryParams_getQueryString (platform : Platform) (params : List (String × Param)) (path : String)
    (unasked : '?' ∉ path.toList) (whole : '#' ∉ path.toList) :
    queryParams platform (path ++ getQueryString params) = asked params := by
  rw [getQueryString,processed]
  by_cases nothing : asked params = []
  · simp [nothing,queryParams,search_none unasked,split]
  · have some_pairs : (asked params).map (fun entry => append entry.1 entry.2) ≠ [] := by simpa using nothing
    have cut {c : Char} (mark : c ∈ ['&','+','#','?']) :
        ∀ word ∈ (asked params).map (fun entry => append entry.1 entry.2), c ∉ word.toList := by
      intro word inside
      obtain ⟨entry,_,rfl⟩ := List.mem_map.mp inside
      exact append_clean mark entry.1 entry.2
    have filled : ∀ word ∈ (asked params).map (fun entry => append entry.1 entry.2), decide (word ≠ "") = true := by
      intro word inside
      obtain ⟨entry,_,rfl⟩ := List.mem_map.mp inside
      exact decide_eq_true (append_ne_empty entry.1 entry.2)
    have apart : '#' ∉ ("&" : String).toList := by decide
    have clean : '#' ∉ (String.intercalate "&" ((asked params).map (fun entry => append entry.1 entry.2))).toList := by
      rw [String.toList_intercalate,mem_intercalate apart]
      rintro ⟨chars,inside,here⟩
      obtain ⟨word,member,rfl⟩ := List.mem_map.mp inside
      exact cut (by decide) word member here
    rw [if_pos (List.length_pos_iff.mpr some_pairs),← String.append_assoc,queryParams,search_path unasked whole clean,
      split_intercalate rfl _ some_pairs (cut (by decide)),List.filter_eq_self.mpr filled,List.map_map]
    refine (List.map_congr_left (fun entry _ => ?_)).trans (List.map_id _)
    exact formEntry_append platform entry.1 entry.2

end BoarPack.ApiClient
