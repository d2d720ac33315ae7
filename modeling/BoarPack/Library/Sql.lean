import Mathlib.Data.List.Basic

/-! Lexical structure of standard SQL, read one character at a time, so that the
tokens of a concatenation are those of its parts. In a literal, as in a quoted
identifier, the quote is escaped by doubling it. Nothing here names a particular system. -/
namespace Sql

inductive Token
  | word (chars : List Char)
  | quoted (name : List Char)
  | literal (content : List Char)
  | symbol (char : Char)
  | unterminated (content : List Char)
  deriving DecidableEq, Repr

/-- What has been read of the token that is not finished yet. -/
inductive State
  | between
  | word (chars : List Char)
  | quoted (name : List Char)
  | quoteInQuoted (name : List Char)
  | literal (content : List Char)
  | quoteInLiteral (content : List Char)
  | dash
  | lineComment
  | slash
  | comment (depth : Nat)
  | commentSlash (depth : Nat)
  | commentStar (depth : Nat)
  deriving DecidableEq, Repr

def wordChar (char : Char) : Bool := char.isAlphanum || char == '_' || char == '$' || 128 ≤ char.toNat

def first (char : Char) : State × List Token :=
  if char = '\'' then (.literal [],[])
  else if char = '"' then (.quoted [],[])
  else if char = '-' then (.dash,[])
  else if char = '/' then (.slash,[])
  else if wordChar char then (.word [char],[])
  else if char.isWhitespace then (.between,[])
  else (.between,[.symbol char])

/-- The tokens that are complete when the next one begins with `char`. -/
def next (finished : List Token) (char : Char) : State × List Token :=
  ((first char).1,finished ++ (first char).2)

def commentIn (depth : Nat) (char : Char) : State :=
  if char = '*' then .commentStar depth else if char = '/' then .commentSlash depth else .comment depth

def step : State → Char → State × List Token
  | .between, char => first char
  | .word chars, char => if wordChar char then (.word (chars ++ [char]),[]) else next [.word chars] char
  | .quoted name, char => if char = '"' then (.quoteInQuoted name,[]) else (.quoted (name ++ [char]),[])
  | .quoteInQuoted name, char =>
    if char = '"' then (.quoted (name ++ [char]),[]) else next [.quoted name] char
  | .literal content, char =>
    if char = '\'' then (.quoteInLiteral content,[]) else (.literal (content ++ [char]),[])
  | .quoteInLiteral content, char =>
    if char = '\'' then (.literal (content ++ [char]),[]) else next [.literal content] char
  | .dash, char => if char = '-' then (.lineComment,[]) else next [.symbol '-'] char
  | .lineComment, char => if char = '\n' then (.between,[]) else (.lineComment,[])
  | .slash, char => if char = '*' then (.comment 0,[]) else next [.symbol '/'] char
  | .comment depth, char => (commentIn depth char,[])
  | .commentSlash depth, char => if char = '*' then (.comment (depth + 1),[]) else (commentIn depth char,[])
  | .commentStar depth, char =>
    if char = '/' then (if depth = 0 then .between else .comment (depth - 1),[])
    else (commentIn depth char,[])

def finish : State → List Token
  | .between | .lineComment => []
  | .word chars => [.word chars]
  | .quoted content | .literal content => [.unterminated content]
  | .quoteInQuoted name => [.quoted name]
  | .quoteInLiteral content => [.literal content]
  | .dash => [.symbol '-']
  | .slash => [.symbol '/']
  | .comment _ | .commentSlash _ | .commentStar _ => [.unterminated []]

def after : State → List Char → State
  | state, [] => state
  | state, char :: rest => after (step state char).1 rest

def emitted : State → List Char → List Token
  | _, [] => []
  | state, char :: rest => (step state char).2 ++ emitted (step state char).1 rest

def lexFrom (state : State) (text : List Char) : List Token :=
  emitted state text ++ finish (after state text)

def lex (text : String) : List Token := lexFrom .between text.toList

theorem after_append (state : State) (left right : List Char) :
    after state (left ++ right) = after (after state left) right := by
  induction left generalizing state with
  | nil => rfl
  | cons char rest ih => exact ih (step state char).1

theorem emitted_append (state : State) (left right : List Char) :
    emitted state (left ++ right) = emitted state left ++ emitted (after state left) right := by
  induction left generalizing state with
  | nil => rfl
  | cons char rest ih => simp only [List.cons_append,emitted,after,ih,List.append_assoc]

theorem lexFrom_append (state : State) (left right : List Char) :
    lexFrom state (left ++ right) = emitted state left ++ lexFrom (after state left) right := by
  simp only [lexFrom,emitted_append,after_append,List.append_assoc]

theorem lexFrom_cons (state : State) (char : Char) (rest : List Char) :
    lexFrom state (char :: rest) = (step state char).2 ++ lexFrom (step state char).1 rest := by
  simp only [lexFrom,emitted,after,List.append_assoc]

theorem after_quoted (name chars : List Char) (plain : '"' ∉ chars) :
    after (.quoted name) chars = .quoted (name ++ chars) ∧ emitted (.quoted name) chars = [] := by
  induction chars generalizing name with
  | nil => simp [after,emitted]
  | cons char rest ih =>
    have different : char ≠ '"' := by rintro rfl; simp at plain
    have inside : '"' ∉ rest := fun member => plain (List.mem_cons_of_mem _ member)
    simpa [after,emitted,step,different] using ih (name ++ [char]) inside

theorem quoted_read (name more : List Char) (stop : Char) (plain : stop ≠ '"') (inside : '"' ∉ name) :
    after (.quoted []) (name ++ '"' :: stop :: more) = after .between (stop :: more) ∧
      emitted (.quoted []) (name ++ '"' :: stop :: more) = .quoted name :: emitted .between (stop :: more) := by
  obtain ⟨reached,nothing⟩ := after_quoted [] name inside
  rw [after_append,emitted_append,reached,nothing]
  simp [after,emitted,step,next,plain]

theorem after_literal (content chars : List Char) (plain : '\'' ∉ chars) :
    after (.literal content) chars = .literal (content ++ chars) ∧ emitted (.literal content) chars = [] := by
  induction chars generalizing content with
  | nil => simp [after,emitted]
  | cons char rest ih =>
    have different : char ≠ '\'' := by rintro rfl; simp at plain
    have inside : '\'' ∉ rest := fun member => plain (List.mem_cons_of_mem _ member)
    simpa [after,emitted,step,different] using ih (content ++ [char]) inside

def escape : List Char → List Char
  | [] => []
  | char :: rest => if char = '\'' then '\'' :: '\'' :: escape rest else char :: escape rest

theorem lexFrom_next (finished : List Token) (char : Char) (rest : List Char) :
    (next finished char).2 ++ lexFrom (next finished char).1 rest =
      finished ++ lexFrom .between (char :: rest) := by
  rw [lexFrom_cons]
  simp only [next,step,List.append_assoc]

theorem literal_of_next (finished content : List Char) (char : Char) (text : List Char) (rest : List Token)
    (lexed : (next [.literal finished] char).2 ++ lexFrom (next [.literal finished] char).1 text =
      .literal content :: rest) : content = finished := by
  rw [lexFrom_next] at lexed
  injection lexed with same _
  injection same with same
  exact same.symm

theorem escape_of_both (text : List Char) : ∀ start content rest,
    (lexFrom (.literal start) text = .literal content :: rest →
      ∃ inside more, content = start ++ inside ∧ text = escape inside ++ '\'' :: more) ∧
    (lexFrom (.quoteInLiteral start) text = .literal content :: rest → content ≠ start →
      ∃ inside more, content = start ++ '\'' :: inside ∧ text = '\'' :: (escape inside ++ '\'' :: more)) := by
  induction text with
  | nil =>
    intro start content rest
    constructor
    · intro lexed
      simp [lexFrom,emitted,after,finish] at lexed
    · intro lexed different
      simp [lexFrom,emitted,after,finish] at lexed
      exact absurd lexed.1.symm different
  | cons char text ih =>
    intro start content rest
    rw [lexFrom_cons,lexFrom_cons]
    by_cases quote : char = '\''
    · subst quote
      constructor
      · intro lexed
        by_cases same : content = start
        · exact ⟨[],text,by simp [same],rfl⟩
        · obtain ⟨inside,more,equal,rfl⟩ := (ih start content rest).2 lexed same
          exact ⟨'\'' :: inside,more,equal,by simp [escape]⟩
      · intro lexed _
        obtain ⟨inside,more,equal,rfl⟩ := (ih (start ++ ['\'']) content rest).1 lexed
        exact ⟨inside,more,by simp [equal],rfl⟩
    · constructor
      · intro lexed
        simp only [step,if_neg quote,List.nil_append] at lexed
        obtain ⟨inside,more,equal,rfl⟩ := (ih (start ++ [char]) content rest).1 lexed
        exact ⟨char :: inside,more,by simp [equal],by simp [escape,quote]⟩
      · intro lexed different
        simp only [step,if_neg quote] at lexed
        exact absurd (literal_of_next start content char text rest lexed) different

/-- A literal that a text begins with is the escaped form of its content. -/
theorem escape_of_literal (content text : List Char) (rest : List Token)
    (lexed : lexFrom (.literal []) text = .literal content :: rest) :
    ∃ more, text = escape content ++ '\'' :: more := by
  obtain ⟨inside,more,rfl,equal⟩ := (escape_of_both text [] content rest).1 lexed
  exact ⟨more,equal⟩

/-- With every quote doubled the text runs ahead of itself: it cannot be read where
the text stands unescaped, the quotes having been used up before the end. -/
theorem escape_ahead (content more left : List Char) (stop : Char) (plain : stop ≠ '\'') : ∀ ahead,
    content ++ '\'' :: stop :: more ≠ List.replicate (ahead + 1) '\'' ++ (escape content ++ '\'' :: left) := by
  induction content with
  | nil =>
    intro ahead equal
    cases ahead with
    | zero => simp [escape,plain] at equal
    | succ ahead => simp [escape,List.replicate_succ,plain] at equal
  | cons char rest ih =>
    intro ahead equal
    rw [List.replicate_succ,List.cons_append,List.cons_append] at equal
    obtain ⟨rfl,equal⟩ := List.cons.inj equal
    apply ih (ahead + 1)
    rw [equal]
    simp [escape,List.replicate_succ',List.append_assoc]

theorem plain_lexed (content more : List Char) (stop : Char) (plain : stop ≠ '\'') (inside : '\'' ∉ content) :
    lexFrom (.literal []) (content ++ '\'' :: stop :: more) =
      .literal content :: lexFrom .between (stop :: more) := by
  obtain ⟨reached,nothing⟩ := after_literal [] content inside
  rw [lexFrom_append,reached,nothing,lexFrom_cons]
  simp only [List.nil_append,step,if_true]
  rw [lexFrom_cons]
  simp only [step,if_neg plain]
  exact lexFrom_next [.literal content] stop more

/-- Between quotes a text is the content of one literal iff it has no quote itself. -/
theorem literal_iff_plain (content more : List Char) (stop : Char) (plain : stop ≠ '\'') :
    (∃ rest, lexFrom (.literal []) (content ++ '\'' :: stop :: more) = .literal content :: rest) ↔
      '\'' ∉ content := by
  constructor
  · rintro ⟨rest,lexed⟩ member
    obtain ⟨left,equal⟩ := escape_of_literal content _ rest lexed
    clear lexed
    induction content with
    | nil => simp at member
    | cons char rest' ih =>
      by_cases quote : char = '\''
      · subst quote
        simp only [escape,if_true,List.cons_append] at equal
        exact escape_ahead rest' more left stop plain 0 (by simpa using (List.cons.inj equal).2)
      · simp only [escape,if_neg quote,List.cons_append] at equal
        have inside : '\'' ∈ rest' := by simpa [Ne.symm quote] using member
        exact ih inside (List.cons.inj equal).2
  · intro inside
    exact ⟨_,plain_lexed content more stop plain inside⟩

/-- What a token contributes to the structure of the text: of a literal, that it is one. -/
def Token.kind : Token → Token
  | .literal _ => .literal []
  | token => token

/-- The two texts differ in nothing but the content of one literal. -/
def OnlyContent (tokens spliced : List Token) (default content : List Char) : Prop :=
  spliced.map Token.kind = tokens.map Token.kind ∧
    ∃ before behind, tokens = before ++ .literal default :: behind ∧ spliced = before ++ .literal content :: behind

theorem onlyContent_of_parts (before behind : List Token) (default content : List Char) :
    OnlyContent (before ++ .literal default :: behind) (before ++ .literal content :: behind) default content :=
  ⟨by simp [Token.kind],before,behind,rfl,rfl⟩

/-- A text spliced between the quotes of a literal that `head` opens stays its content
iff it has no quote. -/
theorem onlyContent_iff (head default content more : List Char) (stop : Char) (plain : stop ≠ '\'')
    (opened : after .between head = .literal []) (simple : '\'' ∉ default)
    (single : .literal default ∉ lexFrom .between (stop :: more)) :
    OnlyContent (lexFrom .between (head ++ (default ++ '\'' :: stop :: more)))
      (lexFrom .between (head ++ (content ++ '\'' :: stop :: more))) default content ↔ '\'' ∉ content := by
  rw [lexFrom_append _ head,lexFrom_append _ head,opened,plain_lexed default more stop plain simple]
  constructor
  · rintro ⟨_,before,behind,tokens,spliced⟩ quote
    rcases List.append_eq_append_iff.mp tokens with ⟨between,rfl,rest⟩ | ⟨between,equal,rest⟩
    · cases between with
      | nil =>
        simp only [List.append_nil] at spliced
        exact (literal_iff_plain content more stop plain).mp
          ⟨behind,List.append_cancel_left spliced⟩ quote
      | cons token between =>
        have further := (List.cons.inj rest).2
        exact single (further ▸ List.mem_append_right _ List.mem_cons_self)
    · cases between with
      | nil =>
        simp only [List.append_nil] at equal
        rw [← equal] at spliced
        exact (literal_iff_plain content more stop plain).mp
          ⟨behind,List.append_cancel_left spliced⟩ quote
      | cons token between =>
        rw [equal,List.append_assoc] at spliced
        have heads := List.append_cancel_left spliced
        have first := (List.cons.inj rest).1
        have second := (List.cons.inj heads).1
        have same : default = content := by
          have := first.trans second
          injection this
        exact simple (same ▸ quote)
  · intro inside
    rw [plain_lexed content more stop plain inside]
    exact onlyContent_of_parts _ _ default content

end Sql
