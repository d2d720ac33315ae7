import Mathlib.Data.List.Basic

/-! What every module of the backend uses from outside the repository: the HTTP
exceptions of the framework, string splitting, and the platform functions whose
code is a third-party package or the database server. -/
namespace BoarPack

/-- The exceptions a guard, strategy or controller throws. `typeError` is what
the JavaScript engine throws by itself, for instance when `null` is destructured. -/
inductive Exception
  | unauthorized (message : String)
  | forbidden (message : String)
  | notFound (message : String)
  | internalServerError (message : String)
  | typeError (message : String)
  deriving DecidableEq, Repr

def Exception.unauthorizedDefault : Exception := .unauthorized "Unauthorized"

def split (separator : Char) (string : String) : List String :=
  (string.toList.splitOn separator).map String.ofList

/-- What a plain object is read to have under a key that it does not have itself. -/
def objectPrototype : List String :=
  ["constructor","__defineGetter__","__defineSetter__","hasOwnProperty","__lookupGetter__","__lookupSetter__",
    "isPrototypeOf","propertyIsEnumerable","toString","valueOf","__proto__","toLocaleString"]

/-- The text of such a member. -/
def memberText (key : String) : String :=
  if key = "__proto__" then "[object Object]"
  else "function " ++ (if key = "constructor" then "Object" else key) ++ "() \x7b [native code] \x7d"

/-- `replace('_id', '')` takes out the first occurrence only. -/
def withoutId : List Char → List Char
  | '_' :: 'i' :: 'd' :: rest => rest
  | char :: rest => char :: withoutId rest
  | [] => []

/-- The pieces of a character list between the occurrences of a separator, after
`skip` more characters of the last occurrence. -/
def pieces (separator : List Char) : Nat → List Char → List (List Char)
  | _, [] => [[]]
  | skip + 1, _ :: rest => pieces separator skip rest
  | 0, c :: rest =>
    if separator.isPrefixOf (c :: rest) then [] :: pieces separator (separator.length - 1) rest
    else match pieces separator 0 rest with
      | [] => [[c]]
      | piece :: others => (c :: piece) :: others

def splitOn (separator string : String) : List String :=
  (pieces separator.toList 0 string.toList).map String.ofList

def whitespace (c : Char) : Bool :=
  let code := c.toNat
  (9 ≤ code && code ≤ 13) || (8192 ≤ code && code ≤ 8202) ||
    [32,160,5760,8232,8233,8239,8287,12288,65279].contains code

/-- `String.prototype.trim`. -/
def trim (text : String) : String :=
  String.ofList (((text.toList.dropWhile whitespace).reverse.dropWhile whitespace).reverse)

/-- Functions of packages and of Postgres that the backend calls. -/
structure Platform where
  toLowerCase : String → String
  toUpperCase : String → String
  compare : String → String → Bool
  hash : String → String → String
  /-- `Joi.string().uuid({ version: ['uuidv4'] }).validate(id)` reports no error. -/
  isUuidV4 : String → Bool
  /-- Postgres compares a stored uuid with a uuid parameter. -/
  uuidEq : String → String → Bool

private theorem separator_free (separator : Char) (string : String)
    (inside : separator ∉ string.toList) : ∀ c ∈ string.toList, (c == separator) = false := by
  intro c member
  simp only [beq_eq_false_iff_ne]
  rintro rfl
  exact inside member

theorem split_piece (separator : Char) (piece rest : String) (inside : separator ∉ piece.toList) :
    split separator (piece ++ String.singleton separator ++ rest) = piece :: split separator rest := by
  simp only [split,String.toList_append,String.toList_singleton,List.append_assoc,List.singleton_append,
    List.splitOn_eq_splitOnP]
  rw [List.splitOnP_append_cons_of_forall_mem (separator_free separator piece inside) separator (by simp)]
  simp

theorem split_whole (separator : Char) (string : String) (inside : separator ∉ string.toList) :
    split separator string = [string] := by
  simp [split,List.splitOn_eq_splitOnP,List.splitOnP_eq_singleton (separator_free separator string inside)]

theorem split_intercalate {separator : Char} {between : String} (single : between.toList = [separator])
    (words : List String) (given : words ≠ []) (plain : ∀ word ∈ words, separator ∉ word.toList) :
    split separator (String.intercalate between words) = words := by
  unfold split
  rw [String.toList_intercalate,single,List.splitOn_intercalate separator _ (by simpa using given)]
  · simp
  · intro chars member
    obtain ⟨word,inside,rfl⟩ := List.mem_map.mp member
    exact plain word inside

theorem split_clean (separator : Char) (string piece : String) (member : piece ∈ split separator string) :
    separator ∉ piece.toList := by
  obtain ⟨chars,inside,rfl⟩ := List.mem_map.mp member
  rw [String.toList_ofList]
  suffices clean : ∀ text : List Char, ∀ chars ∈ text.splitOn separator, separator ∉ chars from clean _ chars inside
  intro text
  induction text with
  | nil => simp
  | cons c rest ih =>
    intro chars inside
    rw [List.splitOn_cons_eq_if_modifyHead] at inside
    obtain ⟨first,others,shape⟩ := List.exists_cons_of_ne_nil (List.splitOn_ne_nil separator rest)
    rw [shape] at ih inside
    by_cases same : c = separator
    · subst same
      simp only [beq_self_eq_true,if_true] at inside
      rcases List.mem_cons.mp inside with rfl | later
      · simp
      · exact ih chars later
    · simp only [beq_eq_false_iff_ne.mpr same,Bool.false_eq_true,if_false,List.modifyHead_cons] at inside
      rcases List.mem_cons.mp inside with rfl | later
      · simpa [Ne.symm same] using ih first List.mem_cons_self
      · exact ih chars (List.mem_cons_of_mem _ later)

theorem split_two (separator : Char) (string first second : String) (pieces : split separator string = [first,second]) :
    string = first ++ String.singleton separator ++ second := by
  have joined : [separator].intercalate (string.toList.splitOn separator) = string.toList :=
    List.intercalate_splitOn separator
  have parts : string.toList.splitOn separator = [first.toList,second.toList] := by
    have lists := congrArg (List.map String.toList) pieces
    simpa [split,Function.comp_def] using lists
  rw [parts] at joined
  apply String.toList_injective
  rw [← joined]
  simp

theorem trim_clean {text : String} (clean : ∀ c ∈ text.toList, whitespace c = false) : trim text = text := by
  have kept (chars : List Char) (plain : ∀ c ∈ chars, whitespace c = false) : chars.dropWhile whitespace = chars := by
    cases chars with
    | nil => rfl
    | cons c rest => simp [plain c List.mem_cons_self]
  have backwards : ∀ c ∈ text.toList.reverse, whitespace c = false :=
    fun c inside => clean c (List.mem_reverse.mp inside)
  rw [trim,kept _ clean,kept _ backwards,List.reverse_reverse,String.ofList_toList]

end BoarPack
